import Mathlib
import NameQuery.Table.Record

/-!
# Records by their fields

A record is what `get?` says of it: two records with the same fields are equal (`Record.ext_get?`), a
record of a list has the last value of each name (`get?_ofList`), so that a list written several times
makes the same record (`ofList_flatten_replicate`). Values can be changed all at once (`mapValues`), before or
after the record is put together (`mapValues_ofList`).
-/

set_option autoImplicit false

namespace NameQuery.Record

/-! ## Fields -/

/-- The first field of a list has its name, or the rest of the list decides. -/
theorem lookup_cons_eq_if (name other : String) (value : Json) (rest : List (String × Json)) :
    ((other, value) :: rest).lookup name = if name = other then some value else rest.lookup name := by
  rw [List.lookup_cons]
  by_cases h : name = other
  · rw [if_pos h, beq_iff_eq.mpr h]
  · rw [if_neg h, beq_false_of_ne h]

/-- A field is found by its name where no other field has it. -/
theorem lookup_of_mem {fields : List (String × Json)} (once : (fields.map (·.1)).Nodup) {name : String}
    {value : Json} (h : (name, value) ∈ fields) : fields.lookup name = some value := by
  obtain ⟨before, behind, rfl⟩ := List.append_of_mem h
  refine List.lookup_eq_some_iff.mpr ⟨before, behind, rfl, fun field hf => ?_⟩
  rw [List.map_append, List.map_cons, List.nodup_append] at once
  exact bne_iff_ne.mpr (once.2.2 _ (List.mem_map_of_mem hf) name List.mem_cons_self).symm

/-- A field that was put into its place is found, and every other one is found as before. -/
theorem lookup_putMember (name other : String) (value : Json) (fields : List (String × Json)) :
    (Json.putMember name value fields).lookup other =
      if other = name then some value else fields.lookup other := by
  induction fields with
  | nil => exact lookup_cons_eq_if other name value []
  | cons first rest ih =>
    obtain ⟨n, v⟩ := first
    rw [Json.putMember]
    split
    case isTrue => rw [lookup_cons_eq_if]
    case isFalse =>
      split
      case isTrue same =>
        rw [lookup_cons_eq_if, lookup_cons_eq_if, ← same]
        split <;> rfl
      case isFalse different =>
        rw [lookup_cons_eq_if, lookup_cons_eq_if, ih]
        by_cases h : other = n
        · have outside : other ≠ name := fun e => different (e.symm.trans h)
          rw [if_pos h, if_pos h, if_neg outside]
        · rw [if_neg h, if_neg h]

/-- A value that was inserted is found, and every other one is found as before. -/
theorem get?_insert (r : Record) (name : String) (value : Json) (other : String) :
    (r.insert name value).get? other = if other = name then some value else r.get? other :=
  lookup_putMember name other value r.fields

/-- Of fields with one name, the last one counts. -/
theorem get?_ofList (fields : List (String × Json)) (name : String) :
    (ofList fields).get? name = fields.reverse.lookup name := by
  suffices h : ∀ r : Record, (fields.foldl (fun r field => r.insert field.1 field.2) r).get? name =
      (fields.reverse.lookup name).or (r.get? name) by
    rw [ofList, h empty]
    exact Option.or_none
  induction fields with
  | nil => exact fun r => rfl
  | cons first rest ih =>
    intro r
    rw [List.foldl_cons, ih, get?_insert, List.reverse_cons, List.lookup_append, Option.or_assoc]
    congr 1
    rw [lookup_cons_eq_if]
    split <;> rfl

/-- The value of a name that the list has once. -/
theorem get?_ofList_of_mem {fields : List (String × Json)} (once : (fields.map (·.1)).Nodup)
    {name : String} {value : Json} (h : (name, value) ∈ fields) :
    (ofList fields).get? name = some value := by
  rw [get?_ofList]
  refine lookup_of_mem ?_ (List.mem_reverse.mpr h)
  rwa [List.map_reverse, List.nodup_reverse]

/-- A record of a list is the object of its members. -/
theorem toJson_ofList (fields : List (String × Json)) : (ofList fields).toJson = Json.ofMembers fields := by
  suffices h : ∀ r : Record, (fields.foldl (fun r field => r.insert field.1 field.2) r).fields =
      fields.foldl (fun sorted field => Json.putMember field.1 field.2 sorted) r.fields from
    congrArg Json.object (h empty)
  induction fields with
  | nil => exact fun r => rfl
  | cons first rest ih => exact fun r => ih (r.insert first.1 first.2)

/-! ## Equality -/

/-- A name before the names of all fields is not found. -/
theorem lookup_eq_none_of_lt {name : String} {fields : List (String × Json)}
    (h : ∀ field ∈ fields, name < field.1) : fields.lookup name = none := by
  rw [List.lookup_eq_none_iff]
  intro field hf
  rw [bne_iff_ne]
  rintro rfl
  exact String.lt_irrefl _ (h field hf)

theorem ext_fields {r s : Record} (h : r.fields = s.fields) : r = s := by
  obtain ⟨fields, sorted⟩ := r
  cases h
  rfl

/-- Records with the same fields are equal. -/
theorem ext_get? {r s : Record} (h : ∀ name, r.get? name = s.get? name) : r = s := by
  obtain ⟨fields, sorted⟩ := r
  obtain ⟨others, sorted'⟩ := s
  refine ext_fields (show fields = others from ?_)
  simp only [get?] at h
  induction fields generalizing others with
  | nil =>
    cases others with
    | nil => rfl
    | cons second others =>
      have present := h second.1
      rw [lookup_cons_eq_if, if_pos rfl] at present
      cases present
  | cons first fields ih =>
    cases others with
    | nil =>
      have present := h first.1
      rw [lookup_cons_eq_if, if_pos rfl] at present
      cases present
    | cons second others =>
      obtain ⟨m, v⟩ := first
      obtain ⟨n, w⟩ := second
      obtain ⟨before, tail⟩ := List.pairwise_cons.mp sorted
      obtain ⟨before', tail'⟩ := List.pairwise_cons.mp sorted'
      have names : m = n := by
        rcases lt_trichotomy m n with lt | same | lt
        · have absent : ((n, w) :: others).lookup m = none := lookup_eq_none_of_lt
            (List.forall_mem_cons.mpr ⟨lt, fun field hf => String.lt_trans lt (before' field hf)⟩)
          have present := h m
          rw [absent, lookup_cons_eq_if, if_pos rfl] at present
          cases present
        · exact same
        · have absent : ((m, v) :: fields).lookup n = none := lookup_eq_none_of_lt
            (List.forall_mem_cons.mpr ⟨lt, fun field hf => String.lt_trans lt (before field hf)⟩)
          have present := h n
          rw [absent, lookup_cons_eq_if, if_pos rfl] at present
          cases present
      subst names
      have values : v = w := by
        have same := h m
        rw [lookup_cons_eq_if, lookup_cons_eq_if, if_pos rfl, if_pos rfl] at same
        exact Option.some.inj same
      subst values
      refine congrArg _ (ih tail others tail' fun name => ?_)
      by_cases same : name = m
      · rw [same, lookup_eq_none_of_lt before, lookup_eq_none_of_lt before']
      · have behind := h name
        rwa [lookup_cons_eq_if, lookup_cons_eq_if, if_neg same, if_neg same] at behind

/-- A list that is written so often makes the same record. -/
theorem ofList_flatten_replicate (fields : List (String × Json)) (n : Nat) :
    ofList (List.replicate (n + 1) fields).flatten = ofList fields := by
  refine ext_get? fun name => ?_
  rw [get?_ofList, get?_ofList]
  induction n with
  | zero => simp
  | succ n ih =>
    rw [List.replicate_succ, List.flatten_cons, List.reverse_append, List.lookup_append, ih, Option.or_self]

/-! ## Changed values -/

def mapValues (f : Json → Json) (r : Record) : Record where
  fields := r.fields.map fun (name, value) => (name, f value)
  sorted := List.pairwise_map.mpr r.sorted

/-- Changing every value changes an inserted one. -/
theorem mapValues_insert (f : Json → Json) (r : Record) (name : String) (value : Json) :
    (r.insert name value).mapValues f = (r.mapValues f).insert name (f value) := by
  have fields : ∀ fields : List (String × Json),
      (Json.putMember name value fields).map (fun (n, v) => (n, f v)) =
        Json.putMember name (f value) (fields.map fun (n, v) => (n, f v)) := by
    intro fields
    induction fields with
    | nil => rfl
    | cons first rest ih =>
      rw [List.map_cons, Json.putMember, Json.putMember, ← ih]
      split
      · rfl
      · split <;> rfl
  exact ext_fields (fields r.fields)

/-- It is all the same if values are changed before or after they are put into a record. -/
theorem mapValues_ofList (f : Json → Json) (fields : List (String × Json)) :
    (ofList fields).mapValues f = ofList (fields.map fun (name, value) => (name, f value)) := by
  suffices h : ∀ r : Record,
      (fields.foldl (fun r (name, value) => r.insert name value) r).mapValues f =
        (fields.map fun (name, value) => (name, f value)).foldl
          (fun r (name, value) => r.insert name value) (r.mapValues f) from h empty
  induction fields with
  | nil => exact fun r => rfl
  | cons first rest ih =>
    intro r
    rw [List.foldl_cons, ih, mapValues_insert, List.map_cons, List.foldl_cons]

/-- A change that leaves each value as it is leaves the record. -/
theorem mapValues_eq_self_iff {f : Json → Json} {r : Record} :
    r.mapValues f = r ↔ ∀ field ∈ r.fields, f field.2 = field.2 := by
  have values : r.fields.map (fun (name, value) => (name, f value)) = r.fields.map id ↔
      ∀ field ∈ r.fields, (field.1, f field.2) = field := List.map_inj_left
  rw [List.map_id] at values
  rw [show r.mapValues f = r ↔ _ from ⟨congrArg Record.fields, ext_fields⟩]
  exact values.trans (forall₂_congr fun field _ => by rw [Prod.ext_iff, and_iff_right rfl])

end NameQuery.Record
