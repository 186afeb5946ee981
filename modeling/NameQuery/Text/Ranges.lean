/-!
# Ranges of characters

Classes of characters are kept as tables of inclusive ranges of code points.
-/

set_option autoImplicit false

namespace NameQuery.Text

/-- The code point of a character lies in one of some inclusive ranges. -/
def within (ranges : List (Nat × Nat)) (c : Char) : Bool :=
  ranges.any fun (first, last) => first ≤ c.toNat && c.toNat ≤ last

end NameQuery.Text
