import NameQuery.Url.Host
import NameQuery.Url.Path

/-!
# URLs

A URL is a scheme, which counts in small letters, and what follows its colon (`Url.ofText?`). What is
decided here is which texts are URLs, and the normal form of what follows. Two slashes open an
authority: a user, a host and the number of its door after a colon; then a path, a query and a
fragment follow. Without the slashes the rest is a path of one piece, or of segments where it begins
with a slash.

Special schemes always have a host, whatever the number of slashes, and take a backslash for a
slash; of their URLs nothing but the scheme is used here, so that only their defects are looked for.
-/

set_option autoImplicit false

namespace NameQuery

/-- A scheme and what follows its colon, in normal form unless the scheme is special. Characters that
would be percent-coded stand for themselves. -/
structure Url where
  scheme : String
  rest : List Char

namespace Url

/-- A text as it counts in a URL: without blanks and control characters at its ends, and without tabs
and ends of lines inside. -/
def essential (cs : List Char) : List Char :=
  let outside := fun c : Char => c.toNat ≤ 0x20
  ((cs.dropWhile outside).reverse.dropWhile outside).reverse.filter fun c =>
    c ≠ '\t' && c ≠ '\n' && c ≠ '\r'

/-- A character that a scheme may hold after its first one. -/
def isSchemeChar (c : Char) : Bool := c.isAlphanum || c = '+' || c = '-' || c = '.'

/-- The scheme in small letters, a letter and further characters before the first colon, and what
follows the colon. -/
def scheme? (cs : List Char) : Option (String × List Char) :=
  match Text.cutOnce ':' cs with
  | some (c :: scheme, rest) =>
    if c.isAlpha && scheme.all isSchemeChar then
      some (String.ofList ((c :: scheme).map Char.toLower), rest)
    else none
  | _ => none

/-- A scheme whose URLs always have a host. -/
def isSpecial (scheme : String) : Bool := ["http", "https", "ws", "wss", "ftp"].contains scheme

/-! ## Authorities -/

/-- A character that ends an authority. -/
def endsAuthority (special : Bool) (c : Char) : Bool :=
  c = '/' || c = '?' || c = '#' || (special && c = '\\')

/-- The text up to the last one of a character, and what follows that. -/
def cutLast (sep : Char) (cs : List Char) : Option (List Char × List Char) :=
  (Text.cutOnce sep cs.reverse).map fun (after, before) => (before.reverse, after.reverse)

/-- The user of an authority as it is written, with the at sign. A password without characters is
left out with its colon, and so is the at sign where neither a user nor a password is left; a colon
in a password is percent-coded. -/
def userText (user : List Char) : List Char :=
  let (name, password) := (Text.cutOnce ':' user).getD (user, [])
  if name.isEmpty && password.isEmpty then []
  else
    name ++ (if password.isEmpty then [] else ':' :: Text.replaced ':' "%3A".toList password) ++ ['@']

/-- The user that an authority begins with, as it is written, and what follows it. An at sign that
begins the authority names no user, and a host has to follow it unless the text ends there. -/
def user (special : Bool) (cs : List Char) : Except Defect (List Char × List Char) :=
  let (authority, rest) := cs.span (!endsAuthority special ·)
  match cutLast '@' authority with
  | none => .ok ([], cs)
  | some ([], after) =>
    if after.isEmpty && !rest.isEmpty then .error .emptyHost else .ok ([], after ++ rest)
  | some (user, after) => .ok (userText user, after ++ rest)

/-- The host that a text begins with and what follows it. A colon ends it, but not after an open
bracket. -/
def host (special inBrackets : Bool) : List Char → List Char × List Char
  | [] => ([], [])
  | c :: cs =>
    if (c = ':' && !inBrackets) || endsAuthority special c then ([], c :: cs)
    else
      let (name, rest) := host special (c = '[' || (inBrackets && c ≠ ']')) cs
      (c :: name, rest)

/-- The number after the colon that a text may begin with, as it is written, and what follows it. It
has 16 bits, and it is left out where it has no digits. -/
def door (cs : List Char) : Except Defect (List Char × List Char) :=
  match cs with
  | ':' :: cs =>
    let (digits, rest) := cs.span Char.isDigit
    if 65_536 ≤ digitsValue digits || rest.head?.any (!endsAuthority true ·) then
      .error .portNumber
    else
      .ok (if digits.isEmpty then [] else ':' :: Nat.toDigits 10 (digitsValue digits), rest)
  | cs => .ok ([], cs)

/-- A path in normal form, with the query and the fragment that follow it. -/
def withPath (cs : List Char) : List Char :=
  let (path, tail) := cs.span fun c => c ≠ '?' && c ≠ '#'
  (if path.isEmpty then [] else Path.normalized path) ++ tail

/-- What follows two slashes, in normal form. -/
def authority (special : Bool) (cs : List Char) : Except Defect (List Char) := do
  let (user, cs) ← user special cs
  let (name, cs) := host special false cs
  if name.isEmpty && (special || cs.head? = some ':') then throw .emptyHost
  if let some defect := if special then Host.specialDefect? name else Host.plainDefect? name then
    throw defect
  let (door, cs) ← door cs
  if name.isEmpty && !user.isEmpty then throw .emptyHost
  return user ++ name ++ door ++ withPath cs

/-! ## The three kinds of schemes -/

def isSlash (c : Char) : Bool := c = '/' || c = '\\'

/-- What is wrong with a URL of a file, by what follows its scheme. A host stands after two slashes,
unless a drive does. -/
def fileDefect? : List Char → Option Defect
  | a :: b :: cs =>
    if isSlash a && isSlash b then
      let name := cs.takeWhile (!endsAuthority true ·)
      if name.isEmpty || (name.length = 2 && Path.isDrive name) then none
      else Host.specialDefect? name
    else none
  | _ => none

/-- What follows a scheme that is not special, in normal form. Where a path begins with two slashes
that are no authority, a dot before them says so. -/
def plainRest (cs : List Char) : Except Defect (List Char) :=
  match cs with
  | '/' :: '/' :: cs => (authority false cs).map ("//".toList ++ ·)
  | '/' :: _ =>
    let rest := withPath cs
    .ok (if "//".toList.isPrefixOf rest then "/.".toList ++ rest else rest)
  | cs => .ok cs

/-- The URL that a text is, or what keeps it from being one. -/
def ofText? (text : String) : Except Defect Url :=
  match scheme? (essential text.toList) with
  | none => .error .relative
  | some (scheme, rest) =>
    if isSpecial scheme then (authority true (rest.dropWhile isSlash)).map fun _ => ⟨scheme, rest⟩
    else if scheme = "file" then
      match fileDefect? rest with
      | some defect => .error defect
      | none => .ok ⟨scheme, rest⟩
    else (plainRest rest).map fun rest => ⟨scheme, rest⟩

end Url

end NameQuery
