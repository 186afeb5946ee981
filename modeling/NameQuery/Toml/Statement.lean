import NameQuery.Toml.Scalar

/-!
# Statements of a TOML text

A TOML text is a list of statements: headers of tables, headers of elements of lists, and keys with
values. What is decided here is the reading of the text; what the statements come to is the business
of the document that they make. A key has fewer than eighty parts, and brackets stand in fewer than
eighty pairs around anything, so these numbers bound the two recursions that the length of the text
does not.
-/

set_option autoImplicit false

namespace NameQuery.Toml

inductive Statement
  /-- A header in single brackets. -/
  | table (key : Key)
  /-- A header in double brackets. -/
  | element (key : Key)
  | value (key : Key) (item : Item)

/-- One less than the number of parts that a key may not have, and of brackets that may not be open. -/
def deepest : Nat := 79

/-! ## Keys -/

/-- A character of a key without quotes. -/
def isKeyChar (c : Char) : Bool := c.isAlphanum || c = '_' || c = '-'

def keyPart? (cs : List Char) : Option (String × List Char) :=
  match lineString? cs with
  | some found => some found
  | none =>
    let (part, rest) := cs.span isKeyChar
    if part.isEmpty then none else some (String.ofList part, rest)

/-- A key of at most the given number of parts, with the blanks around it. -/
def keyOf? : Nat → List Char → Option (Key × List Char)
  | 0, _ => none
  | room + 1, cs => do
    let (part, cs) ← keyPart? (blanks cs)
    match blanks cs with
    | '.' :: cs =>
      let (key, cs) ← keyOf? room cs
      some (⟨part :: key.path, key.name⟩, cs)
    | cs => some (⟨[], part⟩, cs)

def key? (cs : List Char) : Option (Key × List Char) := keyOf? deepest cs

/-! ## Values -/

/-- A text without the blanks, line ends and comments that it begins with. A comment has to end in
its line; where it does not, what follows it is no value. -/
def betweenElements (inComment : Bool) : List Char → List Char
  | '\n' :: cs => betweenElements false cs
  | '\r' :: '\n' :: cs => betweenElements false cs
  | c :: cs =>
    if inComment then if isText c then betweenElements true cs else c :: cs
    else if c = ' ' || c = '\t' then betweenElements false cs
    else if c = '#' then betweenElements true cs
    else c :: cs
  | [] => []

/-- The elements of a list, from after its opening bracket or a comma. -/
def elements? (value : List Char → Option (Item × List Char)) :
    Nat → List Char → Option (List Item × List Char)
  | 0, _ => none
  | fuel + 1, cs =>
    match betweenElements false cs with
    | ']' :: cs => some ([], cs)
    | cs => do
      let (item, cs) ← value cs
      match betweenElements false cs with
      | ']' :: cs => some ([item], cs)
      | ',' :: cs => (elements? value fuel cs).map fun (items, cs) => (item :: items, cs)
      | _ => none

/-- The entries of a table between braces from one of them on, added to those before it. -/
def members? (value : List Char → Option (Item × List Char)) :
    Nat → Entries → List Char → Option (Entries × List Char)
  | 0, _, _ => none
  | fuel + 1, entries, cs => do
    let (key, cs) ← key? cs
    let (item, cs) ← value (blanks (← after? '=' cs))
    let entries ← entries.put key item .braces
    match blanks cs with
    | '\x7d' :: cs => some (entries, cs)
    | ',' :: cs => members? value fuel entries cs
    | _ => none

/-- A value with at most the given number of brackets around any part of it. -/
def valueWithin? : Nat → List Char → Option (Item × List Char)
  | 0, cs => scalar? cs
  | room + 1, cs =>
    match cs with
    | '[' :: cs =>
      (elements? (valueWithin? room) (cs.length + 1) cs).map fun (items, cs) => (.array items, cs)
    | '\x7b' :: cs =>
      match blanks cs with
      | '\x7d' :: cs => some (.table .braces [], cs)
      | cs =>
        (members? (valueWithin? room) (cs.length + 1) [] cs).map fun (entries, cs) =>
          (.table .braces entries, cs)
    | cs => scalar? cs

def value? (cs : List Char) : Option (Item × List Char) := valueWithin? deepest cs

/-! ## Lines -/

/-- What follows a line of which only blanks and a comment are left. The last line may lack its end. -/
def restOfLine? (cs : List Char) : Option (List Char) :=
  let cs := match blanks cs with
    | '#' :: cs => cs.dropWhile isText
    | cs => cs
  if cs.isEmpty then some [] else lineEnd? cs

def statement? : List Char → Option (Statement × List Char)
  | '[' :: '[' :: cs => do
    let (key, cs) ← key? cs
    some (.element key, ← after? ']' (← after? ']' cs))
  | '[' :: cs => do
    let (key, cs) ← key? cs
    some (.table key, ← after? ']' cs)
  | cs => do
    let (key, cs) ← key? cs
    let (item, cs) ← value? (blanks (← after? '=' cs))
    some (.value key item, cs)

/-- The statements of a text, each on lines of its own. -/
def statements? : Nat → List Char → Option (List Statement)
  | 0, _ => none
  | fuel + 1, cs =>
    if cs.isEmpty then some []
    else
      match restOfLine? cs with
      | some cs => statements? fuel cs
      | none => do
        let (s, cs) ← statement? (blanks cs)
        (statements? fuel (← restOfLine? cs)).map (s :: ·)

/-- The statements of a whole text. A byte order mark in front of it is passed over. -/
def Statement.ofText? (text : String) : Option (List Statement) :=
  let cs := match text.toList with
    | '\ufeff' :: cs => cs
    | cs => cs
  statements? (cs.length + 1) cs

end NameQuery.Toml
