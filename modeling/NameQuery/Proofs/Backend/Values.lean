import NameQuery.Proofs.Number.Whole
import NameQuery.Sql.Database
import NameQuery.Table.Record

/-!
# Values that a store and a database hold alike

A whole number that is a double, a text or null can stand in a record of a store and in a column of a
database with a type for it (`Sql.Column.Holds`). Such a value is stored as it is, is equal to a bound
value here if it is there, and has the same place in an order. Only what is read back differs: a
database hands over the low 32 bits of a whole number (`Json.narrowed`).
-/

set_option autoImplicit false

namespace NameQuery

/-! ## What is read back -/

/-- JSON data as it comes back from a database: of a whole number the low 32 bits, signed. -/
def Json.narrowed : Json → Json
  | .number (.whole n _) => .number (.ofInt64 (Int64.ofInt (n.bmod UInt32.size)))
  | j => j

/-- A number of at most 32 bits, or no whole number. -/
def Json.IsNarrow (j : Json) : Prop :=
  ∀ n h, j = .number (.whole n h) → -2_147_483_648 ≤ n ∧ n < 2_147_483_648

/-- A signed number of 64 bits is one form of a whole number. -/
theorem Number.ofInt64_eq_whole_iff {m : Int64} {n : Int} {h : InRange n} :
    ofInt64 m = .whole n h ↔ m.toInt = n := by
  constructor
  · intro same
    injection same
  · rintro rfl
    rfl

/-- The low 32 bits of a number are the number exactly if it has no more. -/
theorem toInt_lowBits_eq_iff {n : Int} :
    (Int64.ofInt (n.bmod UInt32.size)).toInt = n ↔ -2_147_483_648 ≤ n ∧ n < 2_147_483_648 := by
  have size : (UInt32.size : Int) = 4_294_967_296 := rfl
  have lower : -(↑UInt32.size / 2) ≤ n.bmod UInt32.size := Int.le_bmod (by decide)
  have upper : n.bmod UInt32.size < (↑UInt32.size + 1) / 2 := Int.bmod_lt (by decide)
  rw [size] at lower upper
  have fits : (Int64.ofInt (n.bmod UInt32.size)).toInt = n.bmod UInt32.size :=
    Int64.toInt_ofInt_of_le (by omega) (by omega)
  rw [fits]
  constructor
  · intro same
    omega
  · rintro ⟨lower, upper⟩
    exact Int.bmod_eq_of_le (by rw [size]; omega) (by rw [size]; omega)

/-- Narrowing leaves a value as it is exactly if the value is narrow. -/
theorem Json.narrowed_eq_self_iff {j : Json} : j.narrowed = j ↔ j.IsNarrow := by
  rcases j with - | b | (⟨n, h⟩ | x) | s | a | o
  case number.whole =>
    rw [narrowed, number.injEq, Number.ofInt64_eq_whole_iff, toInt_lowBits_eq_iff]
    constructor
    · rintro bounds m hm ⟨⟩
      exact bounds
    · exact fun narrow => narrow n h rfl
  all_goals
    refine ⟨fun _ => ?_, fun _ => rfl⟩
    rintro n h ⟨⟩

namespace Sql.Column

/-! ## Columns of a type -/

/-- A column of whole numbers takes its cells as integers. -/
theorem affinity_of_whole {c : Column} (h : c.type = .whole) : c.affinity = .integer := by
  simp only [type, ColumnType.ofDeclared] at h
  rw [affinity, Affinity.ofDeclared]
  split_ifs at h ⊢
  rfl

/-- A column of texts takes its cells as texts or as they are. -/
theorem affinity_of_text {c : Column} (h : c.type = .text) :
    c.affinity = .text ∨ c.affinity = .untyped := by
  simp only [type, ColumnType.ofDeclared] at h
  rw [affinity, Affinity.ofDeclared]
  split_ifs at h ⊢ <;> simp_all

/-- A value that a column with a type for it holds as a record does. -/
inductive Holds (c : Column) : Value → Prop
  | null (type : c.type = .whole ∨ c.type = .text) : Holds c .null
  | int {n : Int64} (type : c.type = .whole) (size : n.toInt.natAbs ≤ 2 ^ 53) : Holds c (.int n)
  | string {s : String} (type : c.type = .text) : Holds c (.string s)

/-- A value that can be bound to a column: one of its type, and not null. -/
inductive Binds (c : Column) : Value → Prop
  | int {n : Int64} (type : c.type = .whole) : Binds c (.int n)
  | string {s : String} (type : c.type = .text) : Binds c (.string s)

variable {c : Column} {v w b : Value}

/-- A value is stored as it is. -/
theorem Holds.store (h : c.Holds v) : c.affinity.store (.ofValue v) = .ofValue v := by
  rcases h with ⟨type | type⟩ | ⟨type, size⟩ | ⟨type⟩
  · rw [affinity_of_whole type]
    rfl
  · rcases affinity_of_text type with affinity | affinity <;> rw [affinity] <;> rfl
  · rw [affinity_of_whole type]
    rfl
  · rcases affinity_of_text type with affinity | affinity <;> rw [affinity] <;> rfl

/-- What is read back of a value. -/
theorem Holds.read (h : c.Holds v) : c.type.read c.name (.ofValue v) = .ok v.toJson.narrowed := by
  rcases h with ⟨type | type⟩ | ⟨type, size⟩ | ⟨type⟩ <;> rw [type] <;> rfl

/-! ## Equality -/

theorem order_integer (m n : Int) : (Cell.integer m).order (.integer n) = compare m n := by
  have same : compare (0 : Int) 0 = .eq := rfl
  show (compare (0 : Int) 0).then (compare (m * Nat.pow 2 1074) (n * Nat.pow 2 1074)) = _
  rw [same, Binary64.compare_mul_units]
  rfl

/-- A value agrees with a bound one in a record exactly if the two are equal in a database. -/
theorem Holds.agrees_iff (h : c.Holds v) (hb : c.Binds b) :
    b.agrees v.toJson = true ↔ c.affinity.equal (.ofValue v) (.ofValue b) = some true := by
  rcases hb with ⟨type⟩ | ⟨type⟩
  case int n =>
    rw [affinity_of_whole type]
    rcases h with ⟨-⟩ | ⟨-, -⟩ | ⟨other⟩
    case null => exact ⟨nofun, nofun⟩
    case int m =>
      have here : (Value.int n).agrees (Value.int m).toJson = (n == m) := by
        simp only [Value.toJson, Value.agrees, Number.toInt64?_ofInt64]
      have there : Affinity.integer.equal (.ofValue (.int m)) (.ofValue (.int n)) =
        some (decide ((Cell.integer m.toInt).order (.integer n.toInt) = .eq)) := rfl
      rw [here, there, order_integer, beq_iff_eq, Option.some_inj, decide_eq_true_iff,
        compare_eq_iff_eq, Int64.toInt_inj, eq_comm]
    case string => cases other.symm.trans type
  case string t =>
    have equal : ∀ s, c.affinity.equal (.text s) (.text t) = some (decide (compare s t = .eq)) := by
      intro s
      rcases affinity_of_text type with affinity | affinity <;> rw [affinity] <;> rfl
    have null : c.affinity.equal .null (.text t) = none := by
      rcases affinity_of_text type with affinity | affinity <;> rw [affinity] <;> rfl
    rcases h with ⟨-⟩ | ⟨other, -⟩ | ⟨-⟩
    case null =>
      rw [show Cell.ofValue .null = .null from rfl, show Cell.ofValue (.string t) = .text t from rfl, null]
      exact ⟨nofun, nofun⟩
    case int => cases other.symm.trans type
    case string s =>
      have here : (Value.string t).agrees (Value.string s).toJson = (t == s) := rfl
      rw [here, show Cell.ofValue (.string s) = .text s from rfl,
        show Cell.ofValue (.string t) = .text t from rfl, equal, beq_iff_eq, Option.some_inj,
        decide_eq_true_iff, compare_eq_iff_eq, eq_comm]

/-! ## Order -/

/-- Two values of a column are in the same order in a record and in a database. -/
theorem Holds.order (hv : c.Holds v) (hw : c.Holds w) :
    Record.cellOrder (some v.toJson) (some w.toJson) = (Cell.ofValue v).order (.ofValue w) := by
  rcases hv with ⟨tv⟩ | ⟨tv, size⟩ | ⟨tv⟩ <;> rcases hw with ⟨tw⟩ | ⟨tw, size'⟩ | ⟨tw⟩
  case int.int m n =>
    show (Binary64.ofInt m.toInt).order (Binary64.ofInt n.toInt) =
      (Cell.integer m.toInt).order (.integer n.toInt)
    rw [Binary64.order_ofInt size size', order_integer]
  case int.string => cases tv.symm.trans tw
  case string.int => cases tv.symm.trans tw
  all_goals rfl

end Sql.Column

end NameQuery
