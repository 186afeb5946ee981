import NameQuery.Proofs.Table.Record
import NameQuery.Query.Form

/-!
# Queries that come back from JSON data

A query comes back from the forms that it is written in (`Query.json_round_trip`): from the object of its six
members, in whatever order they stand and whatever stands among them, and from the list of the six.

The one part that does not show what it is are the bind values, since nothing in JSON data says of which kind a
value was. They are read by trying the kinds one after the other, in the order in which `Value` has them
(`Value.readings`), and the trials overlap: every number is a double. A value comes back because no trial before
its own takes what it is written as. A double stays a double, also a whole one and a negative zero, because it is
written as a double, and a text stays a text, whatever it says.
-/

set_option autoImplicit false

namespace NameQuery

namespace Value

/-- The readings of a bind value, one for each kind. A whole number has to fit into 64 bits signed; a double is
read from any number. -/
def readings : List (Json → Option Value) := [
  fun | .null => some null | _ => none,
  fun | .bool b => some (bool b) | _ => none,
  fun | .number n => n.toInt64?.map int | _ => none,
  fun | .number n => some (float n.toBinary64) | _ => none,
  fun | .string s => some (string s) | _ => none]

/-- The first reading that takes the data counts. -/
theorem ofJson?_eq_findSome? (j : Json) : ofJson? j = readings.findSome? fun reading => reading j := by
  cases j with
  | number n =>
    rw [ofJson?]
    cases whole : n.toInt64? <;> simp [readings, whole]
  | null | bool | string | array | object => rfl

/-- A bind value comes back as one of its kind. -/
theorem ofJson?_toJson (v : Value) : ofJson? v.toJson = some v := by
  cases v with
  | int n => simp only [toJson, ofJson?, Number.toInt64?_ofInt64]
  | null | bool | float | string => rfl

/-- Two of the readings take a whole number, and one of them a whole double. -/
example : let one := Binary64.ofInt 1
    readings.map (fun reading => reading (int 1).toJson) = [none, none, some (int 1), some (float one), none] ∧
      readings.map (fun reading => reading (float one).toJson) =
        [none, none, none, some (float one), none] := by
  decide +kernel

/-- A list of values is read back from its JSON form. -/
theorem listOfJson?_toJson (vs : List Value) : listOfJson? (.array (vs.map toJson)) = some vs := by
  show (vs.map toJson).mapM ofJson? = some vs
  induction vs with
  | nil => rfl
  | cons v vs ih => simp [ofJson?_toJson, ih]

end Value

namespace Query

/-- The parts of a query make the query again. -/
theorem ofParts?_members (q : Query) :
    ofParts? (.string q.select) (.string q.filter) (.string q.order) (.ofUInt64 q.limit) (.ofUInt64 q.offset)
      (.array (q.values.map Value.toJson)) = some q := by
  have count : ∀ n, count? (.ofUInt64 n) = some n := Number.toUInt64?_ofUInt64
  simp only [ofParts?, text?, count, Value.listOfJson?_toJson, Option.bind_eq_bind, Option.bind_some]

/-- An object in which the members of a query are found is read as the query. -/
theorem ofJson?_of_lookup {q : Query} {ms : List (String × Json)}
    (found : ∀ m ∈ q.members, ms.lookup m.1 = some m.2) : ofJson? (.object ms) = some q := by
  simp only [members, List.forall_mem_cons] at found
  obtain ⟨select, filter, order, limit, offset, values, -⟩ := found
  simp only [ofJson?, select, filter, order, limit, offset, values, Option.bind_eq_bind, Option.bind_some]
  exact ofParts?_members q

/-- **A query comes back from JSON data.** It is read from what it is written as, from the same members in the
order of their names, from any object that has them among others, and from the list of the six. Every bind value
comes back by the first of the readings that takes it, so as one of its kind. A double is finite here, and so is
every one that an argument means, so no query that a name and arguments compile to is left out. -/
theorem json_round_trip (q : Query) :
    ofJson? q.toJson = some q ∧ ofJson? (Json.ofMembers q.members) = some q ∧
      (∀ ms, (∀ m ∈ q.members, ms.lookup m.1 = some m.2) → ofJson? (.object ms) = some q) ∧
      ofJson? (.array (q.members.map (·.2))) = some q ∧
      ∀ v ∈ q.values, (Value.readings.findSome? fun reading => reading v.toJson) = some v := by
  have once : (q.members.map (·.1)).Nodup :=
    show ["select", "where", "order", "limit", "offset", "values"].Nodup by decide
  refine ⟨?_, ?_, fun ms => ofJson?_of_lookup, ofParts?_members q, ?_⟩
  · exact ofJson?_of_lookup fun m hm => Record.lookup_of_mem once hm
  · rw [← Record.toJson_ofList]
    exact ofJson?_of_lookup fun m hm => Record.get?_ofList_of_mem once hm
  · intro v _
    rw [← Value.ofJson?_eq_findSome?, Value.ofJson?_toJson]

end Query

end NameQuery
