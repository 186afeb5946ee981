import NameQuery.Number.Binary64

/-!
# JSON data

The values that records hold and that descriptions are written in. A number is a whole number of 64
bits, signed or not, or a finite double; whole numbers outside that range are doubles from the
start, so a `Number` has one form. An object is a list of members. Data that is read has its members
in ascending order of their names, each name once (`Json.ofMembers`); what a program writes itself
may have an order of its own.
-/

set_option autoImplicit false

namespace NameQuery

/-- A whole number of 64 bits, signed or unsigned. -/
def Number.InRange (n : Int) : Prop := -9_223_372_036_854_775_808 ≤ n ∧ n < 18_446_744_073_709_551_616

instance (n : Int) : Decidable (Number.InRange n) := inferInstanceAs (Decidable (_ ∧ _))

inductive Number
  | whole (n : Int) (inRange : Number.InRange n)
  | float (x : Binary64)
deriving DecidableEq

namespace Number

/-- A whole number, where it has at most 64 bits. -/
def ofInt? (n : Int) : Option Number := if h : InRange n then some (.whole n h) else none

def ofUInt64 (n : UInt64) : Number :=
  .whole n.toNat ⟨by omega, by have := n.toNat_lt; omega⟩

def ofInt64 (n : Int64) : Number :=
  .whole n.toInt ⟨n.le_toInt, by have := n.toInt_lt; omega⟩

/-- The nearest double. -/
def toBinary64 : Number → Binary64
  | .whole n _ => Binary64.ofInt n
  | .float x => x

/-- A number as a signed number of 64 bits, where it is whole and fits. -/
def toInt64? : Number → Option Int64
  | .whole n _ => if n < 9_223_372_036_854_775_808 then some (Int64.ofInt n) else none
  | .float _ => none

/-- A number as an unsigned number of 64 bits, where it is whole and not negative. -/
def toUInt64? : Number → Option UInt64
  | .whole n _ => if 0 ≤ n then some (UInt64.ofNat n.toNat) else none
  | .float _ => none

/-- A signed number of 64 bits is read back from JSON data. -/
theorem toInt64?_ofInt64 (n : Int64) : (ofInt64 n).toInt64? = some n := by
  have below : n.toInt < 9_223_372_036_854_775_808 := n.toInt_lt
  exact (if_pos below).trans (congrArg some (Int64.ofInt_toInt n))

/-- A natural number of 64 bits is read back from JSON data. -/
theorem toUInt64?_ofUInt64 (n : UInt64) : (ofUInt64 n).toUInt64? = some n := by
  have natural : (0 : Int) ≤ n.toNat := Int.natCast_nonneg _
  simp only [ofUInt64, toUInt64?, if_pos natural, Int.toNat_natCast, UInt64.ofNat_toNat]

end Number

inductive Json
  | null
  | bool (b : Bool)
  | number (n : Number)
  | string (s : String)
  | array (elements : List Json)
  | object (members : List (String × Json))

instance : Inhabited Json := ⟨.null⟩

namespace Json

def ofUInt64 (n : UInt64) : Json := .number (.ofUInt64 n)

/-- A member put into its place among members in ascending order of their names. A member of the
same name is replaced. -/
def putMember {α : Type} (name : String) (value : α) : List (String × α) → List (String × α)
  | [] => [(name, value)]
  | (other, v) :: rest =>
    if name < other then (name, value) :: (other, v) :: rest
    else if name = other then (name, value) :: rest
    else (other, v) :: putMember name value rest

/-- An object of the given members. Of two members with one name the later one counts. -/
def ofMembers (members : List (String × Json)) : Json :=
  .object (members.foldl (fun sorted (name, value) => putMember name value sorted) [])

def member? (name : String) : Json → Option Json
  | .object members => members.lookup name
  | _ => none

end Json

end NameQuery
