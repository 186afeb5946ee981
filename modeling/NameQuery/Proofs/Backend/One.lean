import NameQuery.Proofs.Backend.Dispatch
import NameQuery.Proofs.Name.Continuation
import NameQuery.Proofs.Name.Prior
import NameQuery.Proofs.Table.Store

/-!
# One and all

Two names that differ only in saying `One` for `All` before whatever else they say are answered alike:
they are refused for the same cause, or the one with `One` finds the first record of those that the
other finds (`Resolver.one_is_first_of_all`). The words behind can be anything, also further keywords
and words that are no continuation.

The rule of `one` differs from that of `all` by a limit that it writes, and no rule looks at a limit, so
the two queries differ in their limits only (`Query.ofName_one`). A store takes the rows of a limit from
the ordered rows, so a limit of one leaves the first of them (`Store.find_askingOne`).
-/

set_option autoImplicit false

namespace NameQuery

open Name (IsField IsSmallWord Continues OpensAsFinder ofWords furtherWords)

namespace Query

/-- The query with the limit that asks for one record. -/
def askingOne (q : Query) : Query := { q with limit := 1 }

/-- Words ask for one record or have no limit. -/
theorem limit_readWords (ws : List String) :
    (Name.readWords ws {}).clauses.limit = none ∨ (Name.readWords ws {}).clauses.limit = some 1 := by
  have reads : Name.Reads .columns ws {} (Name.readWords ws {}) := Name.reads_read .columns ws {}
  rw [reads.limit]
  split
  · exact .inr rfl
  · exact .inl rfl

/-- The query of a name asks for one record or has no limit. -/
theorem limit_ofName {name : String} {args : List Value} {q : Query} (h : ofName name args = .ok q) :
    q.limit = 0 ∨ q.limit = 1 := by
  obtain ⟨ws, -, -, rfl⟩ := ofName_eq_ok_iff.mp h
  apply (limit_readWords ws).imp
  · intro none
    simp [ofClauses, none]
  · intro one
    simp [ofClauses, one]

/-- A limit before clauses without one asks for one record. -/
theorem ofClauses_followedBy {c : Name.Clauses} (limit : c.limit = none ∨ c.limit = some 1)
    (args : List Value) :
    ofClauses (Name.Clauses.followedBy { limit := some 1 } c) args = (ofClauses c args).askingOne := by
  have one : c.limit.getD 1 = 1 := by
    rcases limit with none | one
    · simp [none]
    · simp [one]
  simp [ofClauses, Name.Clauses.followedBy, askingOne, one]

/-- The reading of `one` after fields leaves what that of `all` leaves, behind a limit of one. -/
theorem readWords_one {fields : List String} (named : ∀ w ∈ fields, IsField w) (ws : List String) :
    ∃ steps, Name.readWords (fields ++ Keyword.one.word :: ws) {} =
      { (Name.readWords (fields ++ Keyword.all.word :: ws) {}).behind { limit := some 1 } with steps } := by
  let prior : Name.Clauses := { select := fields }
  have taken : ∀ k : Keyword, Name.readWords (fields ++ k.word :: ws) {} =
      (Name.read (.under k) ws prior).after (.rule k ws) := by
    intro k
    rw [Name.readWords, Name.read_columns_append named]
    exact Name.read_keyword (by decide) k ws prior
  have limited : Name.read (.under .one) ws prior =
      (Name.read (.under .all) ws prior).behind { limit := some 1 } :=
    (Name.read_one_eq_read_all ws prior).trans (Name.read_followedBy _ ws { limit := some 1 } prior)
  refine ⟨.rule .one ws :: (Name.read (.under .all) ws prior).steps, ?_⟩
  rw [taken, taken, limited]
  rfl

/-- A name with `one` for `all` is refused as the other one, or compiles to the query that asks for one
record. -/
theorem ofName_one {fields ws : List String} (named : ∀ w ∈ fields, IsField w) {one all : String}
    (words : Name.words? one = some (fields ++ Keyword.one.word :: ws))
    (words' : Name.words? all = some (fields ++ Keyword.all.word :: ws)) (args : List Value) :
    ofName one args = (ofName all args).map askingOne := by
  obtain ⟨steps, read⟩ := readWords_one named ws
  cases compiled : ofName all args with
  | error why =>
    rcases ofName_eq_error_iff.mp compiled with ⟨none, -⟩ | ⟨others, found, failed⟩
    · cases none.symm.trans words'
    · cases found.symm.trans words'
      have refused : (Name.readWords (fields ++ Keyword.one.word :: ws) {}).failure = some why := by
        rw [read]
        exact failed
      exact ofName_eq_error_iff.mpr (.inr ⟨_, words, refused⟩)
  | ok q =>
    obtain ⟨others, found, ok, rfl⟩ := ofName_eq_ok_iff.mp compiled
    cases found.symm.trans words'
    refine ofName_eq_ok_iff.mpr ⟨_, words, by rw [read]; exact ok, ?_⟩
    rw [read]
    exact (ofClauses_followedBy (limit_readWords _) args).symm

end Query

/-! ## Answers -/

namespace Store

variable {s : Store} {table : String} {q : Query}

/-- A limit of one leaves the first of the rows without a limit. -/
theorem select_askingOne (unlimited : q.limit = 0) (rows : List Record) :
    select q.askingOne rows = (select q rows).take 1 := by
  have page : ∀ {α : Type} (l : List α), q.askingOne.page l = (q.page l).take 1 := by
    intro α l
    simp [Query.page, Query.askingOne, unlimited]
  show (q.askingOne.page (ordered q.orderFields (rows.filter (agreesOn q.filterFields q.values)))).map
    (Record.project q.columns) = _
  rw [page, select, List.map_take]

/-- Asking for one record finds the first one of those that are found without a limit. -/
theorem find_askingOne (limit : q.limit = 0 ∨ q.limit = 1) :
    s.find table q.askingOne = (s.find table q).map fun found => .ofRows true found.records := by
  have counted : q.askingOne.checkBindings = q.checkBindings := rfl
  rw [find, find, counted]
  cases q.checkBindings with
  | error why => rfl
  | ok u =>
    cases s.rows? table with
    | none => rfl
    | some rows =>
      have first : Found.ofRows true (select q.askingOne rows) =
          .ofRows true (Found.ofRows q.wantsOne (select q rows)).records := by
        rcases limit with none | one
        · have many : q.wantsOne = false := by simp [Query.wantsOne, none]
          rw [select_askingOne none, many]
          cases select q rows <;> rfl
        · have same : q.askingOne = q := by simp [Query.askingOne, ← one]
          have wanted : q.wantsOne = true := by simp [Query.wantsOne, one]
          rw [same, wanted]
          cases select q rows <;> rfl
      exact congrArg Except.ok first

end Store

/-- The name that says columns, then one keyword, and then any text. -/
def Name.saying (columns : List String) (k : Keyword) (rest : String) : String :=
  ofWords (columns ++ [k.word]) ++ rest

/-- The words of such a name. -/
theorem Name.words?_saying {columns : List String} {k : Keyword} {rest : String}
    (small : ∀ w ∈ columns, IsSmallWord w.toList) (continues : Continues rest)
    (opens : OpensAsFinder (saying columns k rest)) :
    words? (saying columns k rest) = some (columns ++ k.word :: furtherWords rest) := by
  have all : ∀ w ∈ columns ++ [k.word], IsSmallWord w.toList := by
    intro w hw
    rcases List.mem_append.mp hw with hw | hw
    · exact small w hw
    · rw [List.mem_singleton.mp hw]
      exact Plan.isSmallWord_keyword k
  rw [saying, words?_append all continues opens, List.append_assoc]
  rfl

namespace Resolver

open Name (saying)

variable {r : Resolver Store} {columns : List String} {rest : String}

/-- **One is the first of all.** Two names say the same columns before `One` and `All` and the same text
behind. A store refuses them for the same cause, or the name with `One` finds the first record of those
that the other finds, and nothing where the other finds none. -/
theorem one_is_first_of_all (fields : ∀ w ∈ columns, IsSmallWord w.toList ∧ IsField w)
    (continues : Continues rest) (store : Store) (args : List Value)
    (opens : OpensAsFinder (saying columns .one rest))
    (opens' : OpensAsFinder (saying columns .all rest))
    (unregistered : r.methods.lookup (saying columns .one rest) = none)
    (unregistered' : r.methods.lookup (saying columns .all rest) = none) :
    (∃ why, r.call store (saying columns .one rest) args = .error why ∧
      r.call store (saying columns .all rest) args = .error why) ∨
    ∃ found, r.call store (saying columns .all rest) args = .ok found ∧
      ((found.records = [] ∧ r.call store (saying columns .one rest) args = .ok .none) ∨
        ∃ first others, found.records = first :: others ∧
          r.call store (saying columns .one rest) args = .ok (.one first)) := by
  have small : ∀ w ∈ columns, IsSmallWord w.toList := fun w hw => (fields w hw).1
  have compiled := Query.ofName_one (fun w hw => (fields w hw).2)
    (Name.words?_saying small continues opens) (Name.words?_saying small continues opens') args
  rw [call_of_opens store args unregistered opens, call_of_opens store args unregistered' opens', compiled]
  cases all : Query.ofName (saying columns .all rest) args with
  | error why => exact .inl ⟨why, rfl, rfl⟩
  | ok q =>
    have asked : store.find r.table q.askingOne =
        (store.find r.table q).map fun found => .ofRows true found.records :=
      Store.find_askingOne (Query.limit_ofName all)
    show (∃ why, store.find r.table q.askingOne = .error why ∧ store.find r.table q = .error why) ∨
      ∃ found, store.find r.table q = .ok found ∧
        ((found.records = [] ∧ store.find r.table q.askingOne = .ok .none) ∨
          ∃ first others, found.records = first :: others ∧
            store.find r.table q.askingOne = .ok (.one first))
    rw [asked]
    cases store.find r.table q with
    | error why => exact .inl ⟨why, rfl, rfl⟩
    | ok found =>
      refine .inr ⟨found, rfl, ?_⟩
      cases records : found.records with
      | nil => exact .inl ⟨rfl, by simp [Except.map, records, Found.ofRows]⟩
      | cons first others => exact .inr ⟨first, others, rfl, by simp [Except.map, records, Found.ofRows]⟩

/-- Two users of one name, and another one between them. -/
def namesakes : Store := ⟨[("users",
  [.ofList [("id", .string "b"), ("name", .string "mike")],
    .ofList [("id", .string "c"), ("name", .string "anna")],
    .ofList [("id", .string "a"), ("name", .string "mike")]])]⟩

theorem one_is_first_of_all_of_namesakes :
    Resolver.call { table := "users" } namesakes (saying ["id"] .all "ByNameOrderedById")
        [.string "mike"] =
      .ok (.many [.ofList [("id", .string "a")], .ofList [("id", .string "b")]]) ∧
    Resolver.call { table := "users" } namesakes (saying ["id"] .one "ByNameOrderedById")
        [.string "mike"] =
      .ok (.one (.ofList [("id", .string "a")])) := by
  have all : Resolver.call { table := "users" } namesakes (saying ["id"] .all "ByNameOrderedById")
      [.string "mike"] =
        .ok (.many [.ofList [("id", .string "a")], .ofList [("id", .string "b")]]) := by
    cbv
  have opens : ∀ k : Keyword, OpensAsFinder (saying ["id"] k "ByNameOrderedById") := by
    intro k
    apply Name.isFinderName_iff.mp
    cases k <;> decide +kernel
  have fields : ∀ w ∈ ["id"], IsSmallWord w.toList ∧ IsField w := by
    intro w hw
    rw [List.mem_singleton.mp hw]
    exact ⟨isSmallWord_of_isIdentifier (by decide) (by decide), by decide⟩
  have continues : Continues "ByNameOrderedById" := by
    intro c first
    rw [show "ByNameOrderedById".toList.head? = some 'B' by decide +kernel] at first
    cases first
    rfl
  refine ⟨all, ?_⟩
  rcases one_is_first_of_all (r := { table := "users" }) fields continues namesakes [.string "mike"]
      (opens .one) (opens .all) rfl rfl
    with ⟨why, -, refused⟩ | ⟨found, finds, first⟩
  · cases all.symm.trans refused
  · cases all.symm.trans finds
    rcases first with ⟨none, -⟩ | ⟨first, others, records, one⟩
    · cases none
    · cases records
      exact one

end Resolver

end NameQuery
