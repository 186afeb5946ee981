import NameQuery.Proofs.Name.Account
import NameQuery.Proofs.Name.Capitals
import NameQuery.Query.Compile

/-!
# The fields that a name records

A finder name that compiles records fields: its columns, the fields of its predicates and the field
that it orders by, with how often it asks for every column and whether it asks for one row
(`Recorded`). A query holds them as texts, in which a field of a name is no longer told from what it
is joined with; here they are said of the consumed words of the name (`Records`). Every name that
compiles records fields, and its query is made of them (`exists_records`).

A field is a word of the name, so it opens with a small letter and has no capital
(`Records.isSmallWord`), but it can hold any other character.
-/

set_option autoImplicit false

namespace NameQuery.Name

/-- What a finder name records. -/
structure Recorded where
  columns : List String
  /-- How often every column is asked for. -/
  everys : Nat
  /-- The fields of the predicates. -/
  predicates : List String
  order : Option (String × Option Direction)
  /-- One row is asked for. -/
  one : Bool

namespace Recorded

def fields (r : Recorded) : List String := r.columns ++ r.predicates ++ (r.order.map (·.1)).toList

def clauses (r : Recorded) : Clauses where
  select := r.columns ++ List.replicate r.everys "*"
  filters := r.predicates.map (· ++ "=?")
  order := (r.order.map entryText).toList
  limit := if r.one then some 1 else none

end Recorded

/-- The recorded fields are consumed words. -/
theorem Recorded.mem_of_mem_fields {r : Recorded} {consumed : List String}
    (fields : consumed.filter (IsField ·) = r.columns ++ r.predicates ++ r.order.elim [] entryWords)
    {w : String} (h : w ∈ r.fields) : w ∈ consumed := by
  have field : w ∈ consumed.filter (IsField ·) := by
    rw [fields]
    rcases List.mem_append.mp h with h | h
    · exact List.mem_append_left _ h
    · obtain ⟨⟨f, d⟩, he, rfl⟩ := Option.map_eq_some_iff.mp (Option.mem_toList.mp h)
      exact List.mem_append_right _ (by rw [he]; exact List.mem_cons_self)
  exact List.mem_of_mem_filter field

/-- Of some words the consumed ones record fields: those before the first keyword are the columns, they and
the others that are no keywords are the fields and the direction, each `all` and `one` asks for every
column, and the clauses are made of these. -/
structure WordsRecord (ws consumed : List String) (r : Recorded) : Prop where
  split : ws = consumed ++ (readWords ws {}).ignored
  columns : r.columns = ws.takeWhile (IsField ·)
  fields : consumed.filter (IsField ·) = r.columns ++ r.predicates ++ r.order.elim [] entryWords
  everys : r.everys = consumed.count Keyword.all.word + consumed.count Keyword.one.word
  one : r.one = decide (Keyword.one.word ∈ consumed)
  clauses : (readWords ws {}).clauses = r.clauses

/-- A name records fields: its words are read well, the consumed words without the keywords are the
fields and the direction, each consumed `all` and `one` asks for every column, and the clauses are
made of these. -/
inductive Records (name : String) (r : Recorded) : Prop
  | mk {ws : List String} (consumed : List String) (words : words? name = some ws)
      (ok : (readWords ws {}).failure = none) (split : ws = consumed ++ (readWords ws {}).ignored)
      (fields : consumed.filter (IsField ·) =
        r.columns ++ r.predicates ++ r.order.elim [] entryWords)
      (everys : r.everys = consumed.count Keyword.all.word + consumed.count Keyword.one.word)
      (one : r.one = decide (Keyword.one.word ∈ consumed))
      (clauses : (readWords ws {}).clauses = r.clauses)

end NameQuery.Name

namespace NameQuery

open Name

/-- A name compiles exactly if its words are read well, to the query of their clauses. -/
theorem Query.ofName_eq_ok_iff {name : String} {args : List Value} {q : Query} :
    ofName name args = .ok q ↔ ∃ ws, words? name = some ws ∧ (readWords ws {}).failure = none ∧
      q = ofClauses (readWords ws {}).clauses args := by
  constructor
  · intro h
    rw [ofName, compilation] at h
    split at h
    case h_1 => cases h
    case h_2 ws words =>
      dsimp only at h
      split at h
      case h_1 => cases h
      case h_2 ok => exact ⟨ws, words, ok, (Except.ok.inj h).symm⟩
  · rintro ⟨ws, words, ok, rfl⟩
    simp only [ofName, compilation, words, ok]

namespace Name

/-- Words that are read well record fields. -/
theorem exists_wordsRecord {ws : List String} (ok : (readWords ws {}).failure = none) :
    ∃ consumed r, WordsRecord ws consumed r := by
  obtain ⟨consumed, predicates, order, a⟩ := exists_accounts (reads_read .columns ws {}) ok
  let r : Recorded := {
    columns := leading .columns ws
    everys := everys consumed
    predicates := predicates
    order := order
    one := decide (Keyword.one.word ∈ consumed) }
  have clauses : (readWords ws {}).clauses = r.clauses := by
    have limit : (readWords ws {}).clauses.limit = r.clauses.limit := by
      rw [readWords, a.limit]
      simp [r, Recorded.clauses]
    exact Clauses.ext a.select a.filters a.order limit a.offset
  exact ⟨consumed, r, a.split, rfl, a.fields, rfl, rfl, clauses⟩

/-- Every name that compiles records fields, and its query is made of them. -/
theorem exists_records {name : String} {args : List Value} {q : Query}
    (h : Query.ofName name args = .ok q) :
    ∃ r, Records name r ∧ q = Query.ofClauses r.clauses args := by
  obtain ⟨ws, words, ok, rfl⟩ := Query.ofName_eq_ok_iff.mp h
  obtain ⟨consumed, r, record⟩ := exists_wordsRecord ok
  exact ⟨r, .mk consumed words ok record.split record.fields record.everys record.one record.clauses,
    by rw [record.clauses]⟩

namespace Records

variable {name : String} {r : Recorded}

/-- A name that records fields compiles to their query, whatever the arguments. -/
theorem ofName (h : Records name r) (args : List Value) :
    Query.ofName name args = .ok (Query.ofClauses r.clauses args) := by
  obtain ⟨-, words, ok, -, -, -, -, clauses⟩ := h
  exact Query.ofName_eq_ok_iff.mpr ⟨_, words, ok, by rw [clauses]⟩

/-- The recorded fields are words of the name. -/
theorem isSmallWord (h : Records name r) : ∀ w ∈ r.fields, IsSmallWord w.toList := by
  obtain @⟨ws, consumed, words, -, split, fields, -, -, -⟩ := h
  intro w hw
  refine isSmallWord_of_words? words w ?_
  rw [split]
  exact List.mem_append_left _ (Recorded.mem_of_mem_fields fields hw)

/-- A name records its fields in one way. -/
theorem unique {s : Recorded} (h : Records name r) (h' : Records name s) : r = s := by
  obtain @⟨ws, consumed, words, -, split, fields, everys, one, clauses⟩ := h
  obtain @⟨ws', consumed', words', -, split', fields', everys', one', clauses'⟩ := h'
  obtain rfl : ws = ws' := Option.some.inj (words.symm.trans words')
  obtain rfl : consumed = consumed' := List.append_cancel_right (split.symm.trans split')
  have same : r.clauses = s.clauses := clauses.symm.trans clauses'
  have sameEverys : r.everys = s.everys := everys.trans everys'.symm
  have columns : r.columns = s.columns := by
    have select : r.columns ++ List.replicate r.everys "*" = s.columns ++ List.replicate s.everys "*" :=
      congrArg Clauses.select same
    rw [sameEverys] at select
    exact List.append_cancel_right select
  have predicates : r.predicates = s.predicates := by
    have marked : Function.Injective fun w : String => w ++ "=?" := fun a b hab => by simpa using hab
    exact List.map_injective_iff.mpr marked (congrArg Clauses.filters same)
  have order : r.order = s.order := by
    have entry : r.order.elim [] entryWords = s.order.elim [] entryWords := by
      rw [columns, predicates] at fields
      exact List.append_cancel_left (fields.symm.trans fields')
    rcases hr : r.order with - | ⟨f, - | d⟩ <;> rcases hs : s.order with - | ⟨g, - | e⟩ <;>
      rw [hr, hs] at entry <;> simp [entryWords] at entry ⊢
    · exact entry
    · obtain ⟨rfl, word⟩ := entry
      refine ⟨rfl, ?_⟩
      cases d <;> cases e <;> simp [Direction.word] at word ⊢
  obtain ⟨_, _, _, _, _⟩ := r
  obtain ⟨_, _, _, _, _⟩ := s
  obtain ⟨rfl, rfl, rfl, rfl⟩ : _ ∧ _ ∧ _ ∧ _ := ⟨columns, sameEverys, predicates, order⟩
  rw [Recorded.mk.injEq]
  exact ⟨rfl, rfl, rfl, rfl, one.trans one'.symm⟩

end Records

end Name

end NameQuery
