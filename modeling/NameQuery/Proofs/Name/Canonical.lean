import NameQuery.Proofs.Query.Recorded

/-!
# Canonical names

A plan says what a name is to select, to compare and to order by, and `Plan.name` writes it as a
name: the columns, `All` or `One`, then `By` and the predicates, then `OrderedBy` and the order
entry, each part only where there is something to say. What is proved: the query that the name
compiles to reads as the plan again (`Plan.ofName_name`), if the fields of the plan are plain words
and the name opens like a finder name (`Plan.IsPlain`).

The way back has three parts, one for each form in which the plan passes through: the name has the
words of the plan (`Plan.words?_name`), the words are read to its clauses
(`Plan.readWords_words`), and the texts of the query are cut into what they were joined from.
-/

set_option autoImplicit false

namespace NameQuery

/-! ## Plans -/

/-- Whether a name says `All`, `One` or neither. -/
inductive Extent
  | plain
  | all
  | one
deriving DecidableEq

/-- What a canonical name says. -/
structure Plan where
  columns : List String
  extent : Extent
  predicates : List String
  order : Option (String × Option Direction)
deriving DecidableEq

/-- A lowercase identifier that starts with a letter and is not reserved. -/
structure IsPlainWord (w : String) : Prop where
  identifier : isIdentifier w = true
  letter : w.toList.head?.any Char.isLower = true
  field : Name.IsField w

instance (w : String) : Decidable (IsPlainWord w) :=
  decidable_of_iff (isIdentifier w = true ∧ w.toList.head?.any Char.isLower = true ∧ Name.IsField w)
    ⟨fun ⟨identifier, letter, field⟩ => ⟨identifier, letter, field⟩,
      fun h => ⟨h.identifier, h.letter, h.field⟩⟩

/-- The words run together, each with a capital. -/
def runTogether (ws : List String) : String :=
  String.join (ws.map fun w => String.ofList (Name.capitalized w.toList))

namespace Extent

def text : Extent → String
  | .plain => ""
  | .all => "All"
  | .one => "One"

def words : Extent → List String
  | .plain => []
  | .all => [Keyword.all.word]
  | .one => [Keyword.one.word]

end Extent

/-- The direction as it stands in a name. -/
def Direction.text : Direction → String
  | .ascending => "Asc"
  | .descending => "Desc"

namespace Plan

def name (p : Plan) : String :=
  "find" ++ runTogether p.columns ++ p.extent.text ++
    (if p.predicates = [] then "" else "By" ++ runTogether p.predicates) ++
    (match p.order with
      | none => ""
      | some (field, d) => "OrderedBy" ++ runTogether [field] ++ d.elim "" Direction.text)

def orderWords : Option (String × Option Direction) → List String
  | none => []
  | some e => Keyword.ordered.word :: Keyword.by.word :: Name.entryWords e

def predicateWords : List String → List String
  | [] => []
  | w :: ws => Keyword.by.word :: w :: ws

def words (p : Plan) : List String :=
  p.columns ++ (p.extent.words ++ (predicateWords p.predicates ++ orderWords p.order))

/-- The fields are plain words, the plan says something, and its name opens like a finder name: the
second letter of the first column, which follows a capital there, is a small one. -/
structure IsPlain (p : Plan) : Prop where
  columns : ∀ w ∈ p.columns, IsPlainWord w
  predicates : ∀ w ∈ p.predicates, IsPlainWord w
  order : ∀ e ∈ p.order, IsPlainWord e.1
  nonempty : p.columns ≠ [] ∨ p.extent ≠ .plain ∨ p.predicates ≠ [] ∨ p.order ≠ none
  opening : ∀ w ∈ p.columns.head?, w.toList[1]?.any Char.isLower = true

end Plan

/-! ## Plain words -/

/-- An identifier that starts with a letter goes on without capitals. -/
theorem isSmallWord_of_isIdentifier {w : String} (h : isIdentifier w = true)
    (letter : w.toList.head?.any Char.isLower = true) : Name.IsSmallWord w.toList := by
  obtain ⟨c, hc, lower⟩ := (Option.any_eq_true _ _).mp letter
  obtain ⟨cs, hw⟩ := List.head?_eq_some_iff.mp hc
  rw [hw]
  exact .mk lower fun d hd => isUpper_of_isIdentifier h (hw ▸ List.mem_cons_of_mem _ hd)

namespace IsPlainWord

variable {w : String}

/-- A plain word can stand in a name. -/
theorem isSmallWord (h : IsPlainWord w) : Name.IsSmallWord w.toList :=
  isSmallWord_of_isIdentifier h.identifier h.letter

end IsPlainWord

/-! ## The words of the name -/

/-- Words run together are their characters, each word with a capital. -/
theorem toList_runTogether (ws : List String) :
    (runTogether ws).toList = (ws.map String.toList).flatMap Name.capitalized := by
  induction ws with
  | nil => rfl
  | cons w ws ih =>
    rw [runTogether] at ih ⊢
    rw [List.map_cons, String.join_cons, String.toList_append, ih, String.toList_ofList]
    rfl

namespace Extent

/-- An extent is written as its words run together. -/
theorem toList_text (e : Extent) :
    e.text.toList = (e.words.map String.toList).flatMap Name.capitalized := by
  cases e <;> rfl

end Extent

namespace Plan

/-- The name is the words of the plan run together. -/
theorem toList_name (p : Plan) :
    p.name.toList = "find".toList ++ (p.words.map String.toList).flatMap Name.capitalized := by
  have ordered : "OrderedBy".toList =
    ([Keyword.ordered.word, Keyword.by.word].map String.toList).flatMap Name.capitalized := rfl
  have predicates : (if p.predicates = [] then "" else "By" ++ runTogether p.predicates).toList =
      ((predicateWords p.predicates).map String.toList).flatMap Name.capitalized := by
    cases p.predicates with
    | nil => rfl
    | cons w ws =>
      rw [if_neg (by simp), String.toList_append, toList_runTogether]
      rfl
  have order : (match p.order with
      | none => ""
      | some (field, d) => "OrderedBy" ++ runTogether [field] ++ d.elim "" Direction.text).toList =
      ((orderWords p.order).map String.toList).flatMap Name.capitalized := by
    rcases p.order with - | ⟨field, d⟩
    · rfl
    · rw [String.toList_append, String.toList_append, ordered, toList_runTogether]
      rcases d with - | - | - <;> simp [orderWords, Name.entryWords, Direction.word, Direction.text]
      all_goals rfl
  rw [name, String.toList_append, String.toList_append, String.toList_append, String.toList_append,
    predicates, order, toList_runTogether, Extent.toList_text]
  simp only [words, List.map_append, List.flatMap_append, List.append_assoc]

theorem isSmallWord_keyword (k : Keyword) : Name.IsSmallWord k.word.toList := by
  cases k <;> exact isSmallWord_of_isIdentifier (by decide) (by decide)

theorem isSmallWord_direction (d : Direction) : Name.IsSmallWord d.word.toList := by
  cases d <;> exact isSmallWord_of_isIdentifier (by decide) (by decide)

theorem isSmallWord_extent {e : Extent} {w : String} (hw : w ∈ e.words) : Name.IsSmallWord w.toList := by
  cases e with
  | plain => cases hw
  | all => exact List.mem_singleton.mp hw ▸ isSmallWord_keyword .all
  | one => exact List.mem_singleton.mp hw ▸ isSmallWord_keyword .one

/-- Every word of a plain plan opens with a small letter and goes on without capitals. -/
theorem IsPlain.isSmallWord {p : Plan} (h : p.IsPlain) {w : String} (hw : w ∈ p.words) :
    Name.IsSmallWord w.toList := by
  have predicates : ∀ v ∈ predicateWords p.predicates, Name.IsSmallWord v.toList := by
    intro v hv
    cases hp : p.predicates with
    | nil => rw [hp] at hv; cases hv
    | cons u us =>
      rw [hp] at hv
      rcases List.mem_cons.mp hv with rfl | hv
      · exact isSmallWord_keyword _
      · exact (h.predicates v (hp ▸ hv)).isSmallWord
  have order : ∀ v ∈ orderWords p.order, Name.IsSmallWord v.toList := by
    intro v hv
    cases hp : p.order with
    | none => rw [hp] at hv; cases hv
    | some e =>
      obtain ⟨field, d⟩ := e
      have plain : IsPlainWord field := h.order _ hp
      rw [hp] at hv
      simp only [orderWords, Name.entryWords, List.mem_cons, Option.mem_toList, Option.map_eq_some_iff] at hv
      rcases hv with rfl | rfl | rfl | ⟨d, -, rfl⟩
      · exact isSmallWord_keyword _
      · exact isSmallWord_keyword _
      · exact plain.isSmallWord
      · exact isSmallWord_direction d
  simp only [words, List.mem_append] at hw
  rcases hw with hw | hw | hw | hw
  · exact (h.columns w hw).isSmallWord
  · exact isSmallWord_extent hw
  · exact predicates w hw
  · exact order w hw

/-- The first word of a plain plan goes on with a small letter. -/
theorem IsPlain.exists_first {p : Plan} (h : p.IsPlain) :
    ∃ w ws, p.words = w :: ws ∧ w.toList[1]?.any Char.isLower = true := by
  have keyword : ∀ (k : Keyword) (ws : List String),
      ∃ w vs, k.word :: ws = w :: vs ∧ w.toList[1]?.any Char.isLower = true := by
    intro k ws
    refine ⟨_, _, rfl, ?_⟩
    cases k <;> decide
  obtain ⟨columns, extent, predicates, order⟩ := p
  cases columns with
  | cons w ws => exact ⟨w, _, rfl, h.opening w rfl⟩
  | nil =>
    cases extent with
    | all => exact keyword .all _
    | one => exact keyword .one _
    | plain =>
      cases predicates with
      | cons w ws => exact keyword .by _
      | nil =>
        cases order with
        | some e => exact keyword .ordered _
        | none => simpa using h.nonempty

/-- The name of a plain plan has the words of the plan. -/
theorem IsPlain.words?_name {p : Plan} (h : p.IsPlain) : Name.words? p.name = some p.words := by
  obtain ⟨w, ws, first, second⟩ := h.exists_first
  have small : ∀ v ∈ w.toList :: ws.map String.toList, Name.IsSmallWord v := by
    rw [← List.map_cons, ← first]
    intro v hv
    obtain ⟨u, hu, rfl⟩ := List.mem_map.mp hv
    exact h.isSmallWord hu
  have text : p.name =
      String.ofList ("find".toList ++ (w.toList :: ws.map String.toList).flatMap Name.capitalized) := by
    rw [← List.map_cons, ← first, ← toList_name, String.ofList_toList]
  rw [text, Name.words?_find small second, first, ← List.map_cons, List.map_map]
  simp [Function.comp_def]

end Plan

/-! ## The clauses of the words -/

namespace Name

/-- A reading that gets through and leaves these clauses. -/
def Outcome.EndsWith (o : Outcome) (c : Clauses) : Prop := o.failure = none ∧ o.clauses = c

/-- Fields before the first keyword are columns. -/
theorem read_columns_append {fields : List String} (named : ∀ w ∈ fields, IsField w)
    (ws : List String) (c : Clauses) :
    read .columns (fields ++ ws) c = read .columns ws { c with select := c.select ++ fields } := by
  induction fields generalizing c with
  | nil => rw [List.append_nil, List.nil_append]
  | cons w fields ih =>
    have rest := ih (fun v hv => named v (List.mem_cons_of_mem _ hv)) (c.addColumn w)
    rw [List.cons_append,
      (Reads.column (named w List.mem_cons_self) (reads_read .columns (fields ++ ws) _)).read_eq, rest]
    simp [Clauses.addColumn]

/-- Fields under `by` are predicates. -/
theorem read_by_append {fields : List String} (named : ∀ w ∈ fields, IsField w)
    (ws : List String) (c : Clauses) :
    read (.under .by) (fields ++ ws) c =
      read (.under .by) ws { c with filters := c.filters ++ fields.map (· ++ "=?") } := by
  induction fields generalizing c with
  | nil => rw [List.map_nil, List.append_nil, List.nil_append]
  | cons w fields ih =>
    have rest := ih (fun v hv => named v (List.mem_cons_of_mem _ hv)) (c.addPredicate w)
    rw [List.cons_append,
      (Reads.predicate (named w List.mem_cons_self) (reads_read (.under .by) (fields ++ ws) _)).read_eq,
      rest]
    simp [Clauses.addPredicate]

/-- A keyword that takes over ends with what its rule ends with. -/
theorem endsWith_keyword {p : Place} {k : Keyword} {ws : List String} {c d : Clauses}
    (free : p ≠ .under .ordered) (h : (read (.under k) ws (p.enter c)).EndsWith d) :
    (read p (k.word :: ws) c).EndsWith d := by
  rw [read_keyword free]
  exact h

end Name

namespace Plan

open Name

/-- The order words, wherever a keyword may stand. -/
theorem endsWith_orderWords {p : Place} (free : p ≠ .under .ordered)
    {order : Option (String × Option Direction)} (named : ∀ e ∈ order, IsField e.1) (c : Clauses) :
    (read p (orderWords order) c).EndsWith
      { p.enter c with order := c.order ++ (order.map entryText).toList } := by
  cases order with
  | none =>
    rw [orderWords, (Reads.ends free).read_eq]
    exact ⟨rfl, by simp [← enter_order p c]⟩
  | some e =>
    obtain ⟨field, d⟩ := e
    refine endsWith_keyword free ?_
    rw [entryWords, (Reads.orderField (named _ rfl)).read_eq, ← List.append_nil (d.map _).toList,
      endInOrder_of_entryEnds (entryEnds_nil d)]
    refine ⟨rfl, ?_⟩
    rw [← enter_order p c]
    rfl

/-- The predicate words and the order words, wherever a keyword may stand. -/
theorem endsWith_predicateWords {p : Place} (free : p ≠ .under .ordered) {predicates : List String}
    (compared : ∀ w ∈ predicates, IsField w) {order : Option (String × Option Direction)}
    (named : ∀ e ∈ order, IsField e.1) (c : Clauses) :
    (read p (predicateWords predicates ++ orderWords order) c).EndsWith
      { p.enter c with
        filters := c.filters ++ predicates.map (· ++ "=?")
        order := c.order ++ (order.map entryText).toList } := by
  cases predicates with
  | nil => simpa [← enter_filters p c, predicateWords] using endsWith_orderWords free named c
  | cons w ws =>
    rw [predicateWords, List.cons_append]
    refine endsWith_keyword free ?_
    rw [read_by_append compared]
    have rest := endsWith_orderWords (p := .under .by) (by decide) named
      { p.enter c with filters := (p.enter c).filters ++ (w :: ws).map (· ++ "=?") }
    simpa only [enter_by, enter_filters, enter_order] using rest

/-- The clauses that the words of a plan add up to. -/
def clauses (p : Plan) : Clauses where
  select := p.columns ++ match p.extent with
    | .plain => []
    | .all | .one => ["*"]
  filters := p.predicates.map (· ++ "=?")
  order := (p.order.map entryText).toList
  limit := if p.extent = .one then some 1 else none

/-- The words of a plain plan are read to its clauses. -/
theorem IsPlain.readWords_words {p : Plan} (h : p.IsPlain) :
    (readWords p.words {}).EndsWith p.clauses := by
  have columns : ∀ w ∈ p.columns, IsField w := fun w hw => (h.columns w hw).field
  have predicates : ∀ w ∈ p.predicates, IsField w := fun w hw => (h.predicates w hw).field
  have order : ∀ e ∈ p.order, IsField e.1 := fun e he => (h.order e he).field
  rw [readWords, words, read_columns_append columns]
  cases extent : p.extent with
  | plain =>
    have rest := endsWith_predicateWords (p := .columns) (by decide) predicates order
      { select := p.columns }
    simpa [clauses, extent, Extent.words] using rest
  | all =>
    have rest := endsWith_predicateWords (p := .under .all) (by decide) predicates order
      { select := p.columns }
    refine endsWith_keyword (by decide) ?_
    simpa [clauses, extent, Place.enter, Clauses.addEveryColumn, Clauses.addColumn] using rest
  | one =>
    have rest := endsWith_predicateWords (p := .under .one) (by decide) predicates order
      { select := p.columns }
    refine endsWith_keyword (by decide) ?_
    simpa [clauses, extent, Place.enter, Clauses.addEveryColumn, Clauses.addColumn,
      Clauses.limitToOne] using rest

end Plan

/-! ## The query of the name -/

/-- A name whose words are read well compiles to the query of the clauses. -/
theorem Query.ofName_eq_ok {name : String} {words : List String} {c : Name.Clauses}
    (hw : Name.words? name = some words) (h : (Name.readWords words {}).EndsWith c)
    (args : List Value) : ofName name args = .ok (ofClauses c args) := by
  obtain ⟨ok, rfl⟩ := h
  exact ofName_eq_ok_iff.mpr ⟨words, hw, ok, rfl⟩

namespace Plan

/-- What the name of a plan records. -/
def recorded (p : Plan) : Name.Recorded where
  columns := p.columns
  everys := if p.extent = .plain then 0 else 1
  predicates := p.predicates
  order := p.order
  one := p.extent = .one

/-- What a plan records is made into the clauses of the plan. -/
theorem clauses_recorded (p : Plan) : p.recorded.clauses = p.clauses := by
  rw [clauses, Name.Recorded.clauses, recorded]
  cases p.extent <;> rfl

namespace IsPlain

variable {p : Plan}

/-- The fields of a plain plan can all stand in SQL text. -/
theorem identifiers (h : p.IsPlain) : ∀ f ∈ p.recorded.fields, isIdentifier f = true := by
  intro f hf
  rcases List.mem_append.mp hf with hf | hf
  · rcases List.mem_append.mp hf with hf | hf
    · exact (h.columns f hf).identifier
    · exact (h.predicates f hf).identifier
  · obtain ⟨e, he, rfl⟩ := Option.map_eq_some_iff.mp (Option.mem_toList.mp hf)
    exact (h.order e he).identifier

/-- The columns of the plan come back, and a `*` that `All` or `One` adds does not count. -/
theorem columns_clauses (h : p.IsPlain) (args : List Value) :
    (Query.ofClauses p.clauses args).columns = p.columns := by
  have read : (p.recorded.query args 0 0).columns = p.columns :=
    Name.Recorded.columns_query h.identifiers
  rw [← clauses_recorded]
  exact read

/-- The predicates come back without their marks. -/
theorem filterFields_clauses (h : p.IsPlain) (args : List Value) :
    (Query.ofClauses p.clauses args).filterFields = p.predicates := by
  have read : (p.recorded.query args 0 0).filterFields = p.predicates :=
    Name.Recorded.filterFields_query h.identifiers
  rw [← clauses_recorded]
  exact read

/-- The order entry comes back with its direction. -/
theorem orderFields_clauses (h : p.IsPlain) (args : List Value) :
    (Query.ofClauses p.clauses args).orderFields = p.order.toList := by
  have read : (p.recorded.query args 0 0).orderFields = p.order.toList :=
    Name.Recorded.orderFields_query h.identifiers
  rw [← clauses_recorded]
  exact read

end IsPlain

/-- **Canonical names decode to what they encode.** The name of a plain plan compiles, whatever the
arguments, and the query reads as the plan: its columns, its predicates, its order entry with the
direction, one record exactly if the name says `One`, no offset, and the arguments as they are. -/
theorem ofName_name (p : Plan) (h : p.IsPlain) (args : List Value) :
    ∃ q, Query.ofName p.name args = .ok q ∧ q.columns = p.columns ∧
      q.filterFields = p.predicates ∧ q.orderFields = p.order.toList ∧
      q.wantsOne = decide (p.extent = .one) ∧ q.offset = 0 ∧ q.values = args := by
  refine ⟨Query.ofClauses p.clauses args, Query.ofName_eq_ok h.words?_name h.readWords_words args,
    h.columns_clauses args, h.filterFields_clauses args, h.orderFields_clauses args, ?_, rfl, rfl⟩
  rw [Query.wantsOne, Query.ofClauses, clauses]
  by_cases one : p.extent = .one
  · rw [if_pos one, decide_eq_true one]
    rfl
  · rw [if_neg one, decide_eq_false one]
    rfl

theorem ofName_name_of_order_by_asc :
    ∃ q, Query.ofName "findIdUser_nameOneByNameZip5OrderedByAscDesc" [.null] = .ok q ∧
      q.columns = ["id", "user_name"] ∧ q.filterFields = ["name", "zip5"] ∧
      q.orderFields = [("asc", some .descending)] ∧ q.wantsOne = true ∧ q.offset = 0 ∧
      q.values = [.null] := by
  have plain : Plan.IsPlain ⟨["id", "user_name"], .one, ["name", "zip5"], some ("asc", some .descending)⟩ :=
    ⟨by decide, by decide, by decide, by decide, by decide⟩
  exact ofName_name _ plain [.null]

end Plan

end NameQuery
