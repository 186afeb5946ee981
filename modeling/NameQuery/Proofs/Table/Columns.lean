import NameQuery.Proofs.Name.Fields
import NameQuery.Proofs.Query.Clauses
import NameQuery.Proofs.Sql.Gate
import NameQuery.Proofs.Table.Record
import NameQuery.Proofs.Table.Store

/-!
# Names that ask for every column

The words `all` and `one` ask for every column. The statement of such a name selects the star, beside
the columns that stand before the word (`Query.star_mem_columns`). A store reads a query without its
stars, so what it returns are whole rows exactly if the name has no columns
(`Query.whole_rows_iff`); with columns it returns these only, as for `findIdAll`
(`Query.all_returns_one_column`).
-/

set_option autoImplicit false

namespace NameQuery.Query

variable {name : String} {r : Name.Recorded} {args : List Value}

/-- The columns that are read from a query are never empty texts. -/
theorem ne_empty_of_mem_columns {q : Query} {f : String} (h : f ∈ q.columns) : f ≠ "" := by
  obtain ⟨p, hp, rfl⟩ := List.mem_map.mp h
  obtain ⟨-, kept⟩ := List.mem_filter.mp hp
  rintro empty
  have text : p = [] := by simpa using congrArg String.toList empty
  rw [text] at kept
  cases kept

/-- The first piece of a column is read back, so that no columns are read exactly if there are none. -/
theorem columns_eq_nil_iff (recorded : Name.Records name r) :
    (ofClauses r.clauses args).columns = [] ↔ r.columns = [] := by
  constructor
  · intro none
    by_contra own
    obtain ⟨w, hw⟩ := List.exists_mem_of_ne_nil _ own
    obtain ⟨c, cs, word, opening⟩ := (recorded.isSmallWord w
      (List.mem_append_left _ (List.mem_append_left _ hw))).exists_cons
    have inside : c ≠ ',' := by rintro rfl; cases opening
    have other : c ≠ '*' := by rintro rfl; cases opening
    obtain ⟨p, hp⟩ : ∃ p, c :: p ∈ Text.pieces ',' w.toList := by
      obtain ⟨p, ps, split⟩ := List.exists_cons_of_ne_nil (Text.pieces_ne_nil ',' cs)
      rw [word, Text.pieces, if_neg inside, split]
      exact ⟨p, List.mem_cons_self⟩
    have column : String.ofList (c :: p) ∈ (ofClauses r.clauses args).columns :=
      mem_columns_ofClauses.mpr ⟨w, List.mem_append_left _ hw, by simp [hp, other]⟩
    rw [none] at column
    cases column
  · intro none
    rw [List.eq_nil_iff_forall_not_mem]
    intro f hf
    obtain ⟨w, hw, hp, ne, star⟩ := mem_columns_ofClauses.mp hf
    rw [Name.Recorded.clauses, none, List.nil_append] at hw
    rw [List.eq_of_mem_replicate hw] at hp
    exact star (List.mem_singleton.mp hp)

/-- Where every column is asked for, a star is among the columns of the statement. -/
theorem star_mem_columns (every : 0 < r.everys) {table : String} {s : Statement}
    (made : Statement.ofQuery (ofClauses r.clauses args) table = .ok s) : "*" ∈ s.columns := by
  obtain ⟨-, rfl⟩ := Statement.ofQuery_eq_ok_iff.mp made
  dsimp only
  split
  case isTrue => exact List.mem_singleton_self _
  case isFalse =>
    have star : "*" ∈ r.clauses.select :=
      List.mem_append_right _ (List.mem_replicate.mpr ⟨Nat.ne_of_gt every, rfl⟩)
    have piece : ['*'] ∈ Text.pieces ',' (ofClauses r.clauses args).select.toList :=
      (mem_pieces_ofClauses.mpr ⟨_, star, List.mem_singleton_self _, List.cons_ne_nil _ _⟩).1
    exact List.mem_map.mpr ⟨_, piece, rfl⟩

/-! ## A row with a field that no name selects -/

/-- A row with a zero in each of some fields, and a field without a name. -/
def unnamedRow (fields : List String) : Record :=
  Record.ofList (("", .null) :: fields.map fun f => (f, .number (.ofInt64 0)))

/-- A row without names has zero in every field and null in a column without a name. -/
theorem get?_unnamedRow (fields : List String) (name : String) :
    (unnamedRow fields).get? name =
      if name ∈ fields then some (.number (.ofInt64 0)) else if name = "" then some .null else none := by
  have zeros : ∀ fields : List String,
      (fields.map fun f => (f, Json.number (.ofInt64 0))).lookup name =
        if name ∈ fields then some (.number (.ofInt64 0)) else none := by
    intro fields
    induction fields with
    | nil => rfl
    | cons f fs ih =>
      rw [List.map_cons, Record.lookup_cons_eq_if, ih]
      by_cases same : name = f
      · rw [if_pos same, if_pos (same ▸ List.mem_cons_self)]
      · simp only [if_neg same, List.mem_cons, or_iff_right same]
  rw [unnamedRow, Record.get?_ofList, List.reverse_cons, List.lookup_append, ← List.map_reverse, zeros,
    Record.lookup_cons_eq_if]
  simp only [List.mem_reverse]
  by_cases h : name ∈ fields
  · rw [if_pos h, if_pos h, Option.some_or]
  · rw [if_neg h, if_neg h, Option.none_or]
    rfl

/-- Zeros agree with such a row. -/
theorem agreesOn_unnamedRow (fields : List String) (n : Nat) :
    Store.agreesOn fields (List.replicate n (.int 0)) (unnamedRow fields) = true := by
  rw [Store.agreesOn, List.all_eq_true]
  rintro ⟨f, v⟩ h
  obtain ⟨hf, hv⟩ := List.of_mem_zip h
  dsimp only
  rw [get?_unnamedRow, if_pos hf, List.eq_of_mem_replicate hv]
  rfl

/-- A selection of columns never shows such a row whole. -/
theorem project_unnamedRow_ne {q : Query} (own : q.columns ≠ []) (fields : List String) :
    Record.project q.columns (unnamedRow fields) ≠ unnamedRow fields := by
  intro same
  have absent : (Record.project q.columns (unnamedRow fields)).get? "" = none := by
    rw [Record.project, if_neg (by simpa using own), Record.get?_ofList, List.lookup_eq_none_iff]
    intro field hf
    obtain ⟨c, hc, rfl⟩ := List.mem_map.mp (List.mem_reverse.mp hf)
    exact bne_iff_ne.mpr (ne_empty_of_mem_columns hc).symm
  rw [same, get?_unnamedRow] at absent
  split at absent
  · cases absent
  · cases absent

/-- Where a name has columns, some table has a row of which only these are found. -/
theorem exists_partial_row (recorded : Name.Records name r) (own : r.columns ≠ []) :
    ∃ args q, ofName name args = .ok q ∧ ∃ row found,
      (Store.mk [("users", [row])]).find "users" q = .ok found ∧ ∃ rec ∈ found.records, rec ≠ row := by
  let n := (ofClauses r.clauses []).placeholderCount
  let q := ofClauses r.clauses (List.replicate n (.int 0))
  let row := unnamedRow q.filterFields
  have columns : q.columns ≠ [] := fun none => own ((columns_eq_nil_iff recorded).mp none)
  have bound : q.checkBindings = .ok () := by
    rw [checkBindings, if_pos]
    exact (List.length_replicate).symm
  have selected : Store.select q [row] = [Record.project q.columns row] :=
    Store.select_singleton (agreesOn_unnamedRow _ n) rfl
  refine ⟨_, q, recorded.ofName _, row, _,
    Store.find_eq_ok_iff.mpr ⟨bound, [row], by simp [Store.rows?], rfl⟩,
    Record.project q.columns row, ?_, project_unnamedRow_ne columns _⟩
  rw [selected]
  cases q.wantsOne <;> exact List.mem_singleton_self _

/-- **When every column means every column.** The statement of a name with `all` or `one` selects a
star, whatever stands before it. What a store finds for such a name are whole rows of the table, for
all arguments, stores and tables, if and only if the name has no columns of its own. -/
theorem whole_rows_iff (recorded : Name.Records name r) (every : 0 < r.everys) :
    (∀ args q table s, ofName name args = .ok q → Statement.ofQuery q table = .ok s →
        "*" ∈ s.columns) ∧
      ((∀ args q (store : Store) table rows found, ofName name args = .ok q →
          store.rows? table = some rows → store.find table q = .ok found →
            ∀ rec ∈ found.records, rec ∈ rows) ↔
        r.columns = []) := by
  constructor
  · intro args q table s compiled made
    cases (recorded.ofName args).symm.trans compiled
    exact star_mem_columns every made
  constructor
  · intro whole
    by_contra own
    obtain ⟨args, q, compiled, row, found, finds, rec, hrec, other⟩ := exists_partial_row recorded own
    have stored := whole args q _ "users" [row] found compiled (by simp [Store.rows?]) finds rec hrec
    exact other (List.mem_singleton.mp stored)
  · intro none args q store table rows found compiled exist finds rec hrec
    cases (recorded.ofName args).symm.trans compiled
    obtain ⟨-, others, hothers, rfl⟩ := Store.find_eq_ok_iff.mp finds
    cases exist.symm.trans hothers
    obtain ⟨row, hrow, shown⟩ := Store.exists_of_mem_select (Found.mem_of_mem_records hrec)
    have columns : (ofClauses r.clauses args).columns = [] := (columns_eq_nil_iff recorded).mpr none
    rw [columns, Record.project] at shown
    exact shown ▸ hrow

theorem whole_rows_iff_of_one :
    ∃ r, Name.Records "findOneById" r ∧ 0 < r.everys ∧ r.columns = [] ∧
      ∀ args q (store : Store) table rows found, ofName "findOneById" args = .ok q →
        store.rows? table = some rows → store.find table q = .ok found →
          ∀ rec ∈ found.records, rec ∈ rows := by
  have recorded : Name.Records "findOneById" ⟨[], 1, ["id"], none, true⟩ :=
    .mk ["one", "by", "id"] rfl rfl rfl (by decide) rfl rfl (by decide)
  exact ⟨_, recorded, Nat.one_pos, rfl, (whole_rows_iff recorded Nat.one_pos).2.mpr rfl⟩

/-- A name that asks for a column and for every column: the statement selects both, a store returns
the column only. -/
theorem all_returns_one_column :
    ∃ q s row found, ofName "findIdAll" [] = .ok q ∧
      Name.Records "findIdAll" ⟨["id"], 1, [], none, false⟩ ∧
      Statement.ofQuery q "users" = .ok s ∧ s.columns = ["id", "*"] ∧
      row = Record.ofList [("id", .number (.ofInt64 1)), ("name", .string "mike")] ∧
      (Store.mk [("users", [row])]).find "users" q = .ok found ∧
      found.records = [Record.ofList [("id", .number (.ofInt64 1))]] ∧
      ¬ ∀ rec ∈ found.records, rec ∈ [row] := by
  let row := Record.ofList [("id", .number (.ofInt64 1)), ("name", .string "mike")]
  have id : row.get? "id" = some (.number (.ofInt64 1)) := by
    rw [Record.get?_ofList]
    rfl
  have columns : Query.columns ⟨"id,*", "", "", 0, 0, []⟩ = ["id"] := rfl
  have records : (Found.many (Store.select ⟨"id,*", "", "", 0, 0, []⟩ [row])).records =
      [Record.ofList [("id", .number (.ofInt64 1))]] := by
    rw [Store.select_singleton rfl rfl, columns]
    show [Record.ofList [("id", (row.get? "id").getD .null)]] = _
    rw [id]
    rfl
  refine ⟨⟨"id,*", "", "", 0, 0, []⟩, ⟨["id", "*"], "users", [], none, 0, 0⟩, row, _, rfl,
    .mk ["id", "all"] rfl rfl rfl (by decide) rfl rfl (by decide), rfl, rfl, rfl, rfl, records,
    fun whole => ?_⟩
  have stored := List.mem_singleton.mp (whole _ (records ▸ List.mem_singleton_self _))
  have name := congrArg (Record.get? · "name") stored
  simp only [row, Record.get?_ofList] at name
  cases name

end NameQuery.Query
