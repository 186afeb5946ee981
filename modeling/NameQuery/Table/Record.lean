import NameQuery.Json.Basic
import NameQuery.Query.Basic

/-!
# Records

A record is one row of a table: fields with names, each name once. The fields stand in ascending
order of their names, so that two records with the same fields are equal. What is decided here: the
order of two values of a field (`cellOrder`: missing or null, then booleans, numbers, texts, and
last lists and objects, which all count as equal; numbers compare as doubles and texts by code
point), the order of two records by several fields (`rowOrder`: the first field that differs
decides), and what a record shows of itself for a list of columns (`project`).
-/

set_option autoImplicit false

namespace NameQuery

/-- A row of a table. -/
structure Record where
  fields : List (String × Json)
  sorted : fields.Pairwise (·.1 < ·.1)

namespace Record

/-- Putting a field into its place adds no name but its own. -/
theorem name_of_mem_putMember {α : Type} {name : String} {value : α} {fields : List (String × α)}
    {field : String × α} (h : field ∈ Json.putMember name value fields) :
    field.1 = name ∨ field ∈ fields := by
  induction fields with
  | nil => simp [Json.putMember] at h; simp [h]
  | cons first rest ih =>
    simp only [Json.putMember] at h
    split at h
    · rcases List.mem_cons.mp h with rfl | h
      · exact .inl rfl
      · exact .inr h
    · split at h
      · rcases List.mem_cons.mp h with rfl | h
        · exact .inl rfl
        · exact .inr (List.mem_cons_of_mem _ h)
      · rcases List.mem_cons.mp h with rfl | h
        · exact .inr List.mem_cons_self
        · exact (ih h).imp_right (List.mem_cons_of_mem _)

/-- Putting a field into its place keeps the order of the names. -/
theorem pairwise_putMember {α : Type} (name : String) (value : α) {fields : List (String × α)}
    (h : fields.Pairwise (·.1 < ·.1)) : (Json.putMember name value fields).Pairwise (·.1 < ·.1) := by
  induction fields with
  | nil => simp [Json.putMember]
  | cons first rest ih =>
    obtain ⟨before, tail⟩ := List.pairwise_cons.mp h
    simp only [Json.putMember]
    split
    · next lt =>
      refine List.pairwise_cons.mpr ⟨fun field mem => ?_, h⟩
      rcases List.mem_cons.mp mem with rfl | mem
      · exact lt
      · exact String.lt_trans lt (before field mem)
    · next not_lt =>
      split
      · next same => exact List.pairwise_cons.mpr ⟨fun field mem => same ▸ before field mem, tail⟩
      · next other =>
        refine List.pairwise_cons.mpr ⟨fun field mem => ?_, ih tail⟩
        rcases name_of_mem_putMember mem with eq | mem
        · exact eq ▸ Std.lt_of_le_of_ne (String.not_lt.mp not_lt) (Ne.symm other)
        · exact before field mem

def empty : Record := ⟨[], .nil⟩

instance : Inhabited Record := ⟨empty⟩

/-- A record with one field more, or with another value in a field. -/
def insert (r : Record) (name : String) (value : Json) : Record :=
  ⟨Json.putMember name value r.fields, pairwise_putMember name value r.sorted⟩

/-- The record of the given fields. Of two fields with one name the later one counts. -/
def ofList (fields : List (String × Json)) : Record :=
  fields.foldl (fun r (name, value) => r.insert name value) empty

def get? (r : Record) (name : String) : Option Json := r.fields.lookup name

def toJson (r : Record) : Json := .object r.fields

/-- The columns of a record, null for those that it does not have. No columns at all stand for the
whole record. -/
def project (columns : List String) (r : Record) : Record :=
  if columns.isEmpty then r else ofList (columns.map fun c => (c, (r.get? c).getD .null))

/-! ## Order -/

/-- The place of a value's kind in the order. A missing value is in the place of null. -/
def kindRank : Option Json → Nat
  | none | some .null => 0
  | some (.bool _) => 1
  | some (.number _) => 2
  | some (.string _) => 3
  | some (.array _) | some (.object _) => 4

/-- The order of two values of a field. -/
def cellOrder : Option Json → Option Json → Ordering
  | some (.bool a), some (.bool b) => compare a b
  | some (.number a), some (.number b) => a.toBinary64.order b.toBinary64
  | some (.string a), some (.string b) => compare a b
  | a, b => compare (kindRank a) (kindRank b)

/-- An order under a direction. Without one it ascends. -/
def directed : Option Direction → Ordering → Ordering
  | some .descending, o => o.swap
  | _, o => o

/-- The order of two records by several fields: the first field that differs decides. -/
def rowOrder : List (String × Option Direction) → Record → Record → Ordering
  | [], _, _ => .eq
  | (field, direction) :: entries, a, b =>
    (directed direction (cellOrder (a.get? field) (b.get? field))).then (rowOrder entries a b)

end Record

end NameQuery
