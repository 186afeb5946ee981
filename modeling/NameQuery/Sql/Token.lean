import NameQuery.Number.Literal
import NameQuery.Sql.Numeral
import NameQuery.Sql.Word

/-!
# Tokens of SQL

The text of a statement is a list of tokens with blanks and comments between them. What is decided
here: where a token ends, of which kind it is, and which texts are no tokens. A text between single
quotes is a string and one between double quotes, grave accents or brackets a name; a quote inside
is written twice. A quote that is not closed takes the rest of the text and makes no token, and so
does a number that letters follow. A comment runs from two dashes to the end of the line, or from
`/*` to `*/` or the end of the text.

A text ends at the first null character. Every token keeps its characters and those between it and
the token before it, so that nothing of the text is lost.
-/

set_option autoImplicit false

namespace NameQuery.Sql

inductive TokenKind
  /-- A word without quotes, with a meaning or not. -/
  | word
  /-- A name in grave accents or brackets. -/
  | name
  /-- A name in double quotes, which can also be meant as a string. -/
  | doubleQuoted
  | string
  | integer
  | float
  | blob
  /-- A place for a value, with its number among those of its statement. -/
  | parameter (number : Nat)
  | symbol
  /-- No token of SQL. -/
  | illegal
deriving DecidableEq

/-- A token with the blanks and comments before it. -/
structure Token where
  kind : TokenKind
  text : List Char
  before : List Char
deriving DecidableEq

namespace Token

/-! ## Characters -/

/-- A character that a word may begin with. -/
def opensWord (c : Char) : Bool := c.isAlpha || c = '_' || 0x80 ≤ c.toNat

/-- A character inside a word. -/
def isWordChar (c : Char) : Bool := opensWord c || c.isDigit || c = '$'

/-- A blank that may begin a run of blanks. -/
def opensBlanks (c : Char) : Bool := c = ' ' || c = '\t' || c = '\n' || c.toNat = 12 || c.toNat = 13

/-! ## The parts of tokens -/

/-- The length of a text up to `*/`, or of the whole text. -/
def commentLength : List Char → Nat
  | '*' :: '/' :: _ => 2
  | _ :: cs => commentLength cs + 1
  | [] => 0

/-- The length of the blanks or the comment that a text begins with, zero if there are none. -/
def blankLength : List Char → Nat
  | '-' :: '-' :: cs => 2 + (cs.takeWhile (· ≠ '\n')).length
  | '/' :: '*' :: c :: cs => 2 + commentLength (c :: cs)
  | c :: cs =>
    if opensBlanks c then 1 + (cs.takeWhile Numeral.isBlank).length
    else if c = '\uFEFF' then 1 else 0
  | [] => 0

/-- The length of a text up to the quote that closes it, and whether there is one. -/
def quotedLength (quote : Char) : List Char → Nat × Bool
  | [] => (0, false)
  | c :: cs =>
    if c ≠ quote then let (n, closed) := quotedLength quote cs; (n + 1, closed)
    else
      match cs with
      | d :: rest =>
        if d = quote then let (n, closed) := quotedLength quote rest; (n + 2, closed) else (1, true)
      | [] => (1, true)

/-- A quoted text without its quotes, a quote inside written once. -/
def unquoted (quote : Char) : List Char → List Char
  | [] => []
  | c :: cs =>
    if c ≠ quote then c :: unquoted quote cs
    else
      match cs with
      | d :: rest => if d = quote then quote :: unquoted quote rest else []
      | [] => []

/-- The length of the exponent that a text begins with, zero if there is none. -/
def exponentLength (cs : List Char) : Nat :=
  let digits := fun (ds : List Char) => (ds.takeWhile Char.isDigit).length
  match cs with
  | e :: sign :: ds =>
    if e ≠ 'e' && e ≠ 'E' then 0
    else if sign.isDigit then 2 + digits ds
    else if (sign = '+' || sign = '-') && 0 < digits ds then 2 + digits ds
    else 0
  | _ => 0

/-- The kind and the length of a number in decimal. Letters after it make it illegal. -/
def decimal (cs : List Char) : TokenKind × Nat :=
  let whole := (cs.takeWhile Char.isDigit).length
  let fraction := match cs.drop whole with
    | '.' :: rest => 1 + (rest.takeWhile Char.isDigit).length
    | _ => 0
  let n := whole + fraction
  let exponent := exponentLength (cs.drop n)
  let letters := ((cs.drop (n + exponent)).takeWhile isWordChar).length
  (if 0 < letters then .illegal else if fraction + exponent = 0 then .integer else .float,
    n + exponent + letters)

/-- The kind and the length of a number. Sixteen is the base after `0x`. -/
def number (cs : List Char) : TokenKind × Nat :=
  match cs with
  | '0' :: x :: d :: rest =>
    if (x = 'x' || x = 'X') && isDigitIn 16 d then (.integer, 3 + (rest.takeWhile (isDigitIn 16)).length)
    else decimal cs
  | cs => decimal cs

/-- The characters of a parameter's name after `n` others: word characters, two colons in a row, and at
last a part in brackets, which has to be closed before a blank. -/
def parameterName (n : Nat) : List Char → TokenKind × Nat
  | [] => (if n = 0 then .illegal else .parameter 0, 0)
  | '(' :: cs =>
    if n = 0 then (.illegal, 0)
    else
      let inside := (cs.takeWhile fun c => !Numeral.isBlank c && c ≠ ')').length
      if cs[inside]? = some ')' then (.parameter 0, inside + 2) else (.illegal, inside + 1)
  | ':' :: ':' :: cs =>
    let (kind, length) := parameterName n cs
    (kind, length + 2)
  | c :: cs =>
    if isWordChar c then
      let (kind, length) := parameterName (n + 1) cs
      (kind, length + 1)
    else (if n = 0 then .illegal else .parameter 0, 0)

/-- The kind and the length of a parameter with a name, after its first character. -/
def namedParameter (cs : List Char) : TokenKind × Nat :=
  let (kind, length) := parameterName 0 cs
  (kind, length + 1)

/-- The kind and the length of bytes in hexadecimal, after `x` and the quote. -/
def bytes (cs : List Char) : TokenKind × Nat :=
  let n := (cs.takeWhile (isDigitIn 16)).length
  if n % 2 = 0 && (cs.drop n).head? = some '\'' then (.blob, n + 3)
  else
    let m := (cs.takeWhile (· ≠ '\'')).length
    (.illegal, if m < cs.length then m + 3 else m + 2)

/-- The symbols of two characters. -/
def pairs : List (List Char) :=
  ["==", "<=", "<>", "<<", ">=", ">>", "!=", "||", "->"].map String.toList

/-- The kind and the length of the token that a text begins with. -/
def first : List Char → TokenKind × Nat
  | [] => (.illegal, 0)
  | c :: cs =>
    if c = '\'' || c = '"' || c = '\x60' then
      let (n, closed) := quotedLength c cs
      (if !closed then .illegal else if c = '\'' then .string
        else if c = '"' then .doubleQuoted else .name, n + 1)
    else if c = '[' then
      let n := (cs.takeWhile (· ≠ ']')).length
      if n < cs.length then (.name, n + 2) else (.illegal, n + 1)
    else if c.isDigit || (c = '.' && cs.head?.any Char.isDigit) then number (c :: cs)
    else if (c = 'x' || c = 'X') && cs.head? = some '\'' then bytes (cs.drop 1)
    else if opensWord c then (.word, 1 + (cs.takeWhile isWordChar).length)
    else if c = '?' then (.parameter 0, 1 + (cs.takeWhile Char.isDigit).length)
    else if c = '$' || c = '@' || c = ':' || c = '#' then namedParameter cs
    else if "->>".toList.isPrefixOf (c :: cs) then (.symbol, 3)
    else if pairs.contains ((c :: cs).take 2) then (.symbol, 2)
    else if "+-*/%=<>|,&~();.".toList.contains c then (.symbol, 1)
    else (.illegal, 1)

/-- The tokens of a text after some blanks, as many as there is fuel for. -/
def list (before : List Char) : Nat → List Char → List Token
  | 0, _ | _, [] => []
  | fuel + 1, cs =>
    let n := blankLength cs
    if 0 < n then list (before ++ cs.take n) fuel (cs.drop n)
    else
      let (kind, n) := first cs
      ⟨kind, cs.take n, before⟩ :: list [] fuel (cs.drop n)

/-- The number of a parameter after `n` others, some of them with names: the one that it writes, the
one of an earlier parameter of its name, or the next one. -/
def parameterNumber (named : List (List Char × Nat)) (n : Nat) (text : List Char) : Nat :=
  match text with
  | ['?'] => n + 1
  | '?' :: digits => digitsValue digits
  | name => (named.lookup name).getD (n + 1)

/-- Tokens with their parameters numbered. Every statement counts for itself. -/
def numbered (named : List (List Char × Nat)) (n : Nat) : List Token → List Token
  | [] => []
  | t :: ts =>
    match t.kind with
    | .parameter _ =>
      let number := parameterNumber named n t.text
      { t with kind := .parameter number } :: numbered ((t.text, number) :: named) (max n number) ts
    | .symbol => t :: if t.text = [';'] then numbered [] 0 ts else numbered named n ts
    | _ => t :: numbered named n ts

def ofText (text : String) : List Token :=
  let cs := text.toList.takeWhile (·.toNat != 0)
  numbered [] 0 (list [] cs.length cs)

/-! ## What a token says -/

/-- A token is the given word, in capitals, or the given symbol. -/
def reads (t : Token) (what : String) : Bool :=
  match t.kind with
  | .word => capitals t.text = what
  | .symbol => String.ofList t.text = what
  | _ => false

def isWordOf (t : Token) (words : List String) : Bool :=
  t.kind = .word && words.contains (capitals t.text)

/-- A word or a quoted name that can name something. -/
def isName (t : Token) : Bool :=
  match t.kind with
  | .word => isFreeWord t.text
  | .name | .doubleQuoted => true
  | _ => false

/-- The text of a token without its quotes. -/
def plain (t : Token) : String :=
  match t.kind, t.text with
  | .name, '[' :: cs => String.ofList cs.dropLast
  | .name, quote :: cs | .doubleQuoted, quote :: cs | .string, quote :: cs =>
    String.ofList (unquoted quote cs)
  | _, cs => String.ofList cs

end Token

end NameQuery.Sql
