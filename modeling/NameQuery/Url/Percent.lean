import NameQuery.Number.Literal
import NameQuery.Text.Pieces
import NameQuery.Text.Utf8

/-!
# Percent coding

In a URL a percent sign and two hexadecimal digits stand for a byte, and every other character for
its own bytes (`decoded`); a percent sign without two such digits stands for itself. What follows the
question mark of a URL is a list of keys with values (`parameters`): they are cut at ampersands and
then at the first equals sign, a plus sign is a space, and bytes that are no UTF-8 are replaced.
-/

set_option autoImplicit false

namespace NameQuery.Url

/-- The bytes of a text in which a percent sign and two hexadecimal digits stand for a byte. -/
def decoded : List Char → List UInt8
  | '%' :: a :: b :: cs =>
    match numberIn? 16 [a, b] with
    | some byte => UInt8.ofNat byte :: decoded cs
    | none => '%'.toUInt8 :: decoded (a :: b :: cs)
  | c :: cs => (String.singleton c).toUTF8.toList ++ decoded cs
  | [] => []

/-- The keys and values of the text after a question mark. -/
def parameters (cs : List Char) : List (String × String) :=
  ((Text.pieces '&' cs).filter (· ≠ [])).map fun p =>
    let (key, value) := (Text.cutOnce '=' p).getD (p, [])
    let text := fun cs => Text.Utf8.decodeLossy (decoded (Text.replaced '+' [' '] cs))
    (text key, text value)

end NameQuery.Url
