import NameQuery.Proofs.Result
import NameQuery.Proofs.Sql.Outline
import NameQuery.Sql.Grammar.Command

/-!
# Reading the outline of a statement

The grammar reads the tokens of an outline clause by clause. Each reading either fails or leaves exactly
the tokens of the next clause (`Sql.Reading.Leaves`); how deep an expression may go does not matter for
that. An offset without a limit is no clause: the grammar stops before it, or takes its word for the
other name of the table and stops before its number. So what is read as a command has a limit, and it
has the page that the numbers write (`Sql.Reading.reads_command`).
-/

set_option autoImplicit false

namespace NameQuery.Sql

/-! ## Words -/

/-- A word with a meaning where an expression begins, or no word at all. -/
def isTaken (what : String) : Bool :=
  reservedWords.contains what || leadingWords.contains what ||
    what.toList.any fun c => !(c.isAlphanum || c = '_')

/-- A character of a bare word stays one in capitals. -/
theorem toUpper_of_bare {c : Char} (h : (c.isAlphanum || c = '_') = true) :
    (c.toUpper.isAlphanum || c.toUpper = '_') = true := by
  simp only [Char.isAlphanum, Bool.or_eq_true, decide_eq_true_eq] at h ⊢
  rcases h with (alpha | digit) | rfl
  · rw [Char.isAlpha_toUpper_eq_isAlpha]
    exact .inl (.inl alpha)
  · have same : c.toUpper = c := by
      refine Char.toUpper_eq_of_not_isLower fun lower => ?_
      have code : 48 ≤ c.toNat ∧ c.toNat ≤ 57 := Char.isDigit_iff_toNat.mp digit
      simp [Char.isLower, UInt32.le_iff_toNat_le] at lower
      omega
    rw [same]
    exact .inl (.inr digit)
  · exact .inr rfl

/-- A plain word is no keyword of the reader. -/
theorem isFreeWord_of_isPlainWord {w : String} (h : isPlainWord w = true) : isFreeWord w.toList = true := by
  unfold isPlainWord at h
  dsimp only at h
  split at h
  case h_1 => cases h
  case h_2 =>
    simp only [Bool.and_eq_true] at h
    exact h.1.1.1.2

/-- A bare word has the characters of words, in capitals too. -/
theorem capitals_ne {w : List Char} (bare : Token.IsBare w) {what : String}
    (symbol : what.toList.any (fun c => !(c.isAlphanum || c = '_')) = true) : capitals w ≠ what := by
  rintro rfl
  obtain ⟨c, hc, other⟩ := List.any_eq_true.mp symbol
  rw [capitals, String.toList_ofList] at hc
  obtain ⟨d, hd, rfl⟩ := List.mem_map.mp hc
  rw [toUpper_of_bare (bare.chars d hd)] at other
  cases other

/-- A bare word is not read as a symbol. -/
theorem reads_bare {w what : String} (bare : Token.IsBare w.toList)
    (symbol : what.toList.any (fun c => !(c.isAlphanum || c = '_')) = true) :
    (Token.word w).reads what = false :=
  decide_eq_false (capitals_ne bare symbol)

/-- A plain word is none of the words with a meaning, and no symbol. -/
theorem reads_plain {w what : String} (plain : isPlainWord w = true) (taken : isTaken what = true) :
    (Token.word w).reads what = false := by
  simp only [isTaken, Bool.or_eq_true] at taken
  rcases taken with (reserved | leading) | symbol
  · refine decide_eq_false ?_
    rintro rfl
    have free : isFreeWord w.toList = true := isFreeWord_of_isPlainWord plain
    have taken : reservedWords.contains (capitals w.toList) = true := reserved
    rw [isFreeWord, taken] at free
    cases free
  · refine decide_eq_false ?_
    rintro rfl
    have taken : leadingWords.contains (capitals w.toList) = true := leading
    unfold isPlainWord at plain
    dsimp only at plain
    split at plain
    case h_1 => cases plain
    case h_2 =>
      rw [taken, Bool.not_true, Bool.and_false, Bool.false_and, Bool.false_and] at plain
      cases plain
  · exact reads_bare (isBare_of_isPlainWord plain) symbol

/-- A plain word is read as a name. -/
theorem isName_plain {w : String} (plain : isPlainWord w = true) : (Token.word w).isName = true :=
  isFreeWord_of_isPlainWord plain

namespace Reading

/-- A reading that leaves the given tokens, unless it fails. -/
abbrev Leaves {α : Type} (rest : List Token) (x : Except Rejection (α × List Token)) : Prop :=
  Ensures (fun p => p.2 = rest) (fun _ => True) x

/-- No operator of the given rank or a stronger one goes on with a token, and no relation. -/
def stops (rank : Nat) (t : Token) : Bool :=
  match PairOp.ofToken? t with
  | some (_, r) => r < rank
  | none =>
    PairOp.equalityRank < rank || !(t.reads "ISNULL" || t.reads "NOTNULL" || t.reads "IS" ||
      t.reads "NOT" || t.reads "BETWEEN" || t.reads "IN")

/-- Neither a longer name nor a call goes on with a token. -/
def endsName (t : Token) : Bool := !(t.reads "." || t.reads "(")

/-- No operator is read before a token that stops its rank. -/
theorem further_stops {rank : Nat} {ts : List Token} (h : ∀ t ∈ ts.head?, stops rank t = true)
    (fuel : Nat) (a : Tall) : Ensures (fun p => p = (a, ts)) (fun _ => True) (further fuel rank a ts) := by
  cases fuel with
  | zero => 
    unfold further
    exact .error trivial
  | succ fuel =>
    cases ts with
    | nil =>
      unfold further
      exact .ok rfl
    | cons t ts =>
      have stop := h t rfl
      unfold stops at stop
      rw [further]
      split
      next op r operator =>
        rw [operator] at stop
        rw [if_pos (by simpa using stop)]
        exact .ok rfl
      next operator =>
        rw [operator] at stop
        simp only [Bool.or_eq_true, Bool.not_eq_true', Bool.or_eq_false_iff, decide_eq_true_eq] at stop
        rcases stop with weak | ⟨⟨⟨⟨⟨isnull, notnull⟩, is⟩, not⟩, between⟩, among⟩
        · rw [if_pos weak]
          exact .ok rfl
        · simp only [isnull, notnull, is, not, between, among, Bool.or_self, Bool.false_eq_true, if_false,
            ite_self]
          exact .ok rfl

/-! ## Operands -/

variable {ts : List Token}

/-- A plain word is read as a name. -/
theorem leaves_operand_word {f : String} (plain : isPlainWord f = true)
    (ends : ∀ t ∈ ts.head?, endsName t = true) (fuel : Nat) :
    Leaves ts (operand fuel (.word f :: ts)) := by
  have point : opens "." ts = false ∧ opens "(" ts = false := by
    cases ts with
    | nil => exact ⟨rfl, rfl⟩
    | cons t ts =>
      have ended := ends t rfl
      simp only [endsName, Bool.not_eq_true', Bool.or_eq_false_iff] at ended
      exact ended
  have leaf : Tall.ofToken? (.word f) = none := by
    have null : (Token.word f).reads "NULL" = false := reads_plain plain (by decide)
    have date : (Token.word f).reads "CURRENT_DATE" = false := reads_plain plain (by decide)
    have time : (Token.word f).reads "CURRENT_TIME" = false := reads_plain plain (by decide)
    have timestamp : (Token.word f).reads "CURRENT_TIMESTAMP" = false := reads_plain plain (by decide)
    show (if (Token.word f).reads "NULL" then _ else _) = _
    simp only [null, date, time, timestamp, Bool.false_eq_true, if_false]
  cases fuel with
  | zero =>
    unfold operand
    exact .error trivial
  | succ fuel =>
    rw [operand, reads_plain plain (by decide), reads_plain plain (by decide),
      reads_plain plain (by decide), reads_plain plain (by decide), reads_plain plain (by decide),
      reads_plain plain (by decide), reads_plain plain (by decide), reads_plain plain (by decide), leaf]
    simp only [Bool.false_eq_true, if_false, isName_plain plain, Bool.not_true, point.2, qualified, point.1]
    exact .ok rfl

/-- A parameter is read as an operand, and what is behind it is left. -/
theorem leaves_operand_parameter (n : Nat) (text : List Char) (fuel : Nat) :
    Leaves ts (operand fuel (.spaced (.parameter n) text :: ts)) := by
  have no : ∀ what, (Token.spaced (.parameter n) text).reads what = false := fun _ => rfl
  cases fuel with
  | zero =>
    unfold operand
    exact .error trivial
  | succ fuel =>
    rw [operand, Tall.ofToken?]
    simp only [no, Bool.false_eq_true, if_false]
    exact Ensures.bind_any fun leaf => .ok rfl

/-- A number is read as what it is written. -/
theorem reads_operand_number (n : Nat) (fuel : Nat) :
    Ensures (fun p => p.1.expr = .value (writtenNumber n) ∧ p.2 = ts) (fun _ => True)
      (operand fuel (.spaced .integer (Nat.toDigits 10 n) :: ts)) := by
  have no : ∀ what, (Token.spaced .integer (Nat.toDigits 10 n)).reads what = false := fun _ => rfl
  have number : Tall.number (Nat.toDigits 10 n) = .ok (.leaf (.value (writtenNumber n))) := by
    have digits : ∀ c ∈ Nat.toDigits 10 n, c.isDigit = true := fun c => isDigit_of_mem_toDigits
    unfold Tall.number
    split
    case h_1 x ds heq =>
      have digit : x.isDigit = true := digits x (by rw [heq]; simp)
      rw [if_neg]
      · rfl
      · rw [Bool.or_eq_true, decide_eq_true_eq, decide_eq_true_eq]
        rintro (rfl | rfl) <;> cases digit
    case h_2 => rfl
  cases fuel with
  | zero =>
    unfold operand
    exact .error trivial
  | succ fuel =>
    rw [operand, Tall.ofToken?]
    simp only [no, Bool.false_eq_true, if_false]
    show Ensures _ _ (do return (← Tall.number (Nat.toDigits 10 n), ts))
    rw [number]
    exact .ok ⟨rfl, rfl⟩

/-! ## Expressions -/

/-- An expression is its operand where nothing goes on with what follows. -/
theorem reads_expr {P : Tall → Prop} {us : List Token} {rank : Nat}
    (h : ∀ fuel, Ensures (fun p => P p.1 ∧ p.2 = ts) (fun _ => True) (operand fuel us))
    (stop : ∀ t ∈ ts.head?, stops rank t = true) (fuel : Nat) :
    Ensures (fun p => P p.1 ∧ p.2 = ts) (fun _ => True) (expr fuel rank us) := by
  cases fuel with
  | zero =>
    unfold expr
    exact .error trivial
  | succ fuel =>
    rw [expr]
    refine Ensures.bind (h fuel) ?_
    rintro ⟨a, us⟩ ⟨holds, rfl⟩
    refine (further_stops stop fuel a).mono ?_
    rintro p rfl
    exact ⟨holds, rfl⟩

/-- Where an operand is read and no operator follows, this is all of the expression. -/
theorem leaves_expr {us : List Token} {rank : Nat} (h : ∀ fuel, Leaves ts (operand fuel us))
    (stop : ∀ t ∈ ts.head?, stops rank t = true) (fuel : Nat) : Leaves ts (expr fuel rank us) :=
  (reads_expr (P := fun _ => True) (fun fuel => (h fuel).mono fun _ left => ⟨trivial, left⟩) stop
    fuel).mono fun _ left => left.2

/-- A comparison is read, and then what goes on with it. -/
theorem leaves_expr_comparison {c : Comparison} {rank : Nat} {us : List Token}
    (plain : isPlainWord c.field = true) (weak : rank ≤ PairOp.equalityRank)
    (stop : ∀ t ∈ us.head?, stops (PairOp.equalityRank + 1) t = true)
    (rest : ∀ fuel a, Leaves ts (further fuel rank a us)) (fuel : Nat) :
    Leaves ts (expr fuel rank (c.tokens ++ us)) := by
  have field : ∀ fuel, Leaves (.spaced .symbol ['='] :: .spaced (.parameter c.number) c.text :: us)
      (operand fuel (c.tokens ++ us)) :=
    leaves_operand_word plain (by rintro t ⟨⟩; decide)
  cases fuel with
  | zero =>
    unfold expr
    exact .error trivial
  | succ fuel =>
    rw [expr]
    refine Ensures.bind (field fuel) ?_
    rintro ⟨a, _⟩ rfl
    cases fuel with
    | zero =>
      unfold further
      exact .error trivial
    | succ fuel =>
      have equal : PairOp.ofToken? (.spaced .symbol ['=']) = some (.equal, PairOp.equalityRank) := by decide
      dsimp only
      rw [further, equal]
      dsimp only
      rw [if_neg (Nat.not_lt.mpr weak)]
      refine Ensures.bind (leaves_expr (leaves_operand_parameter _ _) stop fuel) ?_
      rintro ⟨b, _⟩ rfl
      refine Ensures.bind_any fun both => ?_
      exact rest fuel both

/-- What nothing at all goes on with ends an expression of any rank. -/
theorem stops_of_stops_zero {t : Token} (h : stops 0 t = true) (rank : Nat) : stops rank t = true := by
  unfold stops at h ⊢
  split at h
  case h_1 => simp at h
  case h_2 =>
    have other : ¬ PairOp.equalityRank < 0 := Nat.not_lt_zero _
    rw [decide_eq_false other, Bool.false_or] at h
    rw [h, Bool.or_true]

/-- Behind a comparison stands an AND, or what ends the condition. -/
theorem stops_head_comparisons {conditions : List Comparison} {rank : Nat} (strong : PairOp.andRank < rank)
    (stop : ∀ t ∈ ts.head?, stops 0 t = true) :
    ∀ t ∈ (conditions.flatMap (fun c => .word "AND" :: c.tokens) ++ ts).head?, stops rank t = true := by
  cases conditions with
  | nil => exact fun t ht => stops_of_stops_zero (stop t ht) rank
  | cons c conditions =>
    rintro t ⟨⟩
    have and : PairOp.ofToken? (.word "AND") = some (.and, PairOp.andRank) := by decide
    simp only [stops, and, strong, decide_true]

/-- Further comparisons are read, each after its AND. -/
theorem leaves_further_comparisons {conditions : List Comparison}
    (plain : ∀ c ∈ conditions, isPlainWord c.field = true)
    (stop : ∀ t ∈ ts.head?, stops 0 t = true) (fuel : Nat) (a : Tall) :
    Leaves ts (further fuel 0 a (conditions.flatMap (fun c => .word "AND" :: c.tokens) ++ ts)) := by
  induction conditions generalizing fuel a with
  | nil =>
    refine (further_stops stop fuel a).mono ?_
    rintro p rfl
    rfl
  | cons c conditions ih =>
    rw [List.forall_mem_cons] at plain
    cases fuel with
    | zero =>
      unfold further
      exact .error trivial
    | succ fuel =>
      have and : PairOp.ofToken? (.word "AND") = some (.and, PairOp.andRank) := by decide
      rw [List.flatMap_cons, List.cons_append, List.cons_append, List.append_assoc, further, and]
      dsimp only
      rw [if_neg (Nat.not_lt_zero _)]
      have comparison : Leaves (conditions.flatMap (fun c => .word "AND" :: c.tokens) ++ ts)
          (expr fuel (PairOp.andRank + 1) (c.tokens ++
            (conditions.flatMap (fun c => .word "AND" :: c.tokens) ++ ts))) := by
        refine leaves_expr_comparison plain.1 (Nat.le_succ 3)
          (stops_head_comparisons (by decide) stop) ?_ fuel
        intro fuel a
        refine (further_stops (stops_head_comparisons (by decide) stop) fuel a).mono ?_
        rintro p rfl
        rfl
      refine Ensures.bind comparison ?_
      rintro ⟨b, _⟩ rfl
      refine Ensures.bind_any fun both => ?_
      exact ih plain.2 fuel both

/-! ## Clauses -/

/-- The WHERE clause of plain comparisons is read, and what is behind it is left. -/
theorem leaves_conditions {conditions : List Comparison}
    (plain : ∀ c ∈ conditions, isPlainWord c.field = true)
    (stop : ∀ t ∈ ts.head?, stops 0 t = true ∧ t.reads "WHERE" = false) :
    Leaves ts (clause? "WHERE" (Outline.conditionTokens conditions ++ ts)) := by
  cases conditions with
  | nil =>
    have no : opens "WHERE" ts = false := by
      cases ts with
      | nil => rfl
      | cons t ts => exact (stop t rfl).2
    show Leaves ts (clause? "WHERE" ts)
    rw [clause?, no]
    exact .ok rfl
  | cons c conditions =>
    rw [List.forall_mem_cons] at plain
    have stop : ∀ t ∈ ts.head?, stops 0 t = true := fun t ht => (stop t ht).1
    have where_ : opens "WHERE" (Outline.conditionTokens (c :: conditions) ++ ts) = true := by
      show (Token.word "WHERE").reads "WHERE" = true
      decide
    rw [clause?, if_pos where_]
    refine Ensures.map ?_
    show Leaves ts (expr _ 0 (c.tokens ++ conditions.flatMap (fun c => .word "AND" :: c.tokens) ++ ts))
    rw [List.append_assoc]
    exact leaves_expr_comparison plain.1 (Nat.zero_le _) (stops_head_comparisons (by decide) stop)
      (fun fuel a => leaves_further_comparisons plain.2 stop fuel a) _

/-- The tokens of the two numbers of a page. -/
def pageTokens (limit offset : Nat) : List Token :=
  Outline.numberTokens "LIMIT" limit ++ Outline.numberTokens "OFFSET" offset

/-- Behind the order stands a limit, an offset or nothing. -/
theorem head_pageTokens {limit offset : Nat} :
    ∀ t ∈ (pageTokens limit offset).head?, t = .word "LIMIT" ∨ t = .word "OFFSET" := by
  unfold pageTokens Outline.numberTokens
  split_ifs
  · exact nofun
  · rintro t ⟨⟩
    exact .inr rfl
  · rintro t ⟨⟩
    exact .inl rfl
  · rintro t ⟨⟩
    exact .inl rfl

theorem forall_head_pageTokens {limit offset : Nat} {p : Token → Bool} (hl : p (.word "LIMIT") = true)
    (ho : p (.word "OFFSET") = true) : ∀ t ∈ (pageTokens limit offset).head?, p t = true := by
  intro t ht
  rcases head_pageTokens t ht with rfl | rfl
  · exact hl
  · exact ho

theorem opens_pageTokens {limit offset : Nat} {what : String} (hl : (Token.word "LIMIT").reads what = false)
    (ho : (Token.word "OFFSET").reads what = false) : opens what (pageTokens limit offset) = false := by
  cases tokens : pageTokens limit offset with
  | nil => rfl
  | cons t ts =>
    rcases head_pageTokens t (by rw [tokens]; rfl) with rfl | rfl
    · exact hl
    · exact ho

/-- One order entry is read with its direction. -/
theorem leaves_orderTerms {field : String} (plain : isPlainWord field = true)
    (direction : Option Direction) (limit offset fuel : Nat) :
    Leaves (pageTokens limit offset)
      (orderTerms fuel (.word field :: (Outline.directionTokens direction ++ pageTokens limit offset))) := by
  have entry : ∀ fuel, Leaves (Outline.directionTokens direction ++ pageTokens limit offset)
      (expr fuel 0 (.word field :: (Outline.directionTokens direction ++ pageTokens limit offset))) := by
    refine leaves_expr (leaves_operand_word plain ?_) ?_ <;> rcases direction with - | - | -
    case refine_1.none | refine_2.none => exact forall_head_pageTokens (by decide) (by decide)
    all_goals
      rintro t ⟨⟩
      decide
  have desc : opens "DESC" (pageTokens limit offset) = false := opens_pageTokens (by decide) (by decide)
  have asc : opens "ASC" (pageTokens limit offset) = false := opens_pageTokens (by decide) (by decide)
  have comma : opens "," (pageTokens limit offset) = false := opens_pageTokens (by decide) (by decide)
  cases fuel with
  | zero => exact .error trivial
  | succ fuel =>
    rw [orderTerms]
    refine Ensures.bind (entry _) ?_
    rintro ⟨e, _⟩ rfl
    rcases direction with - | - | -
    · simp only [Outline.directionTokens, List.nil_append, desc, asc, comma, Bool.false_eq_true, if_false]
      exact .ok rfl
    all_goals
      show Ensures _ _ (if opens "," (pageTokens limit offset) = true then _ else _)
      rw [comma, if_neg Bool.false_ne_true]
      exact .ok rfl

/-- The ORDER BY clause of a plain entry is read, and what is behind it is left. -/
theorem leaves_order {e : Option (String × Option Direction)} (plain : ∀ f ∈ e, isPlainWord f.1 = true)
    (limit offset : Nat) :
    Leaves (pageTokens limit offset) (order (Outline.orderTokens e ++ pageTokens limit offset)) := by
  rcases e with - | ⟨field, direction⟩
  · have closed : opens "ORDER" (pageTokens limit offset) = false :=
      opens_pageTokens (by decide) (by decide)
    show Leaves _ (order (pageTokens limit offset))
    rw [order, closed]
    exact .ok rfl
  · have opened : opens "ORDER"
        (Outline.orderTokens (some (field, direction)) ++ pageTokens limit offset) = true := by
      show (Token.word "ORDER").reads "ORDER" = true
      decide
    rw [order, if_pos opened]
    exact leaves_orderTerms (plain _ rfl) direction limit offset _

/-- A clause of a number. -/
theorem reads_numberClause (keyword : String) (own : (Token.word keyword).reads keyword = true) {n : Nat}
    (positive : n ≠ 0) (stop : ∀ t ∈ ts.head?, stops 0 t = true) :
    Ensures (fun p => p = (some (.value (writtenNumber n)), ts)) (fun _ => True)
      (clause? keyword (Outline.numberTokens keyword n ++ ts)) := by
  have tokens : Outline.numberTokens keyword n =
      [.word keyword, .spaced .integer (Nat.toDigits 10 n)] := if_neg positive
  have opened : opens keyword (Outline.numberTokens keyword n ++ ts) = true := by
    rw [tokens]
    exact own
  rw [clause?, if_pos opened, tokens]
  have number := reads_expr (P := fun e => e.expr = .value (writtenNumber n)) (reads_operand_number n) stop
  refine Ensures.map ((number _).mono ?_)
  rintro ⟨e, _⟩ ⟨value, rfl⟩
  show (some e.expr, _) = _
  rw [value]

/-- The numbers of a page are read as they are written, but an offset without a limit is left. -/
theorem reads_paging (limit offset : Nat) :
    Ensures (fun p => (limit ≠ 0 ∧ p = (some ⟨.value (writtenNumber limit),
          if offset = 0 then none else some (.value (writtenNumber offset))⟩, [])) ∨
        (limit = 0 ∧ p = (none, Outline.numberTokens "OFFSET" offset)))
      (fun _ => True) (paging? (pageTokens limit offset)) := by
  have stop : ∀ t ∈ (Outline.numberTokens "OFFSET" offset).head?, stops 0 t = true := by
    unfold Outline.numberTokens
    split_ifs
    · exact nofun
    · rintro t ⟨⟩
      decide
  have closed : ∀ {what}, (Token.word "OFFSET").reads what = false →
      opens what (Outline.numberTokens "OFFSET" offset) = false := by
    intro what other
    unfold Outline.numberTokens
    split_ifs
    · rfl
    · exact other
  by_cases unlimited : limit = 0
  · have page : pageTokens limit offset = Outline.numberTokens "OFFSET" offset := by
      rw [pageTokens, unlimited]
      rfl
    have no : opens "LIMIT" (Outline.numberTokens "OFFSET" offset) = false := closed (by decide)
    rw [page, paging?, clause?, no]
    exact .ok (.inr ⟨unlimited, rfl⟩)
  · have comma : opens "," (Outline.numberTokens "OFFSET" offset) = false := closed (by decide)
    rw [paging?]
    refine Ensures.bind (reads_numberClause "LIMIT" (by decide) unlimited stop) ?_
    rintro _ rfl
    dsimp only
    rw [comma, if_neg Bool.false_ne_true]
    by_cases start : offset = 0
    · have none_ : Outline.numberTokens "OFFSET" offset = [] := if_pos start
      rw [none_, if_pos start]
      exact .ok (.inl ⟨unlimited, rfl⟩)
    · have last : ∀ t ∈ ([] : List Token).head?, stops 0 t = true := nofun
      have number := reads_numberClause "OFFSET" (by decide) start last
      rw [List.append_nil] at number
      refine Ensures.bind number ?_
      rintro _ rfl
      rw [if_neg start]
      exact .ok (.inl ⟨unlimited, rfl⟩)

/-! ## What is selected -/

/-- An item is read before a comma or FROM. -/
theorem leaves_item {c : String} (plain : c = "*" ∨ isPlainWord c = true) {t u : Token}
    (next : t = .comma ∨ t = .word "FROM") :
    Leaves (t :: u :: ts) (item (Outline.itemToken c :: t :: u :: ts)) := by
  unfold Outline.itemToken
  split
  case isTrue =>
    have star : (Token.spaced .symbol ['*']).reads "*" = true := by decide
    rw [item, if_pos star]
    exact .ok rfl
  case isFalse other =>
    have column := plain.resolve_left other
    have point : t.reads "." = false := by
      rcases next with rfl | rfl <;> decide
    rw [item, reads_plain column (by decide), if_neg Bool.false_ne_true, point, Bool.and_false,
      Bool.false_and, if_neg Bool.false_ne_true, item.expression]
    have name : ∀ fuel, Leaves (t :: u :: ts) (expr fuel 0 (.word c :: t :: u :: ts)) := by
      refine leaves_expr (leaves_operand_word column ?_) ?_
      all_goals
        rintro _ ⟨⟩
        rcases next with rfl | rfl <;> decide
    refine Ensures.bind (name _) ?_
    rintro ⟨e, _⟩ rfl
    have unnamed : alias? (t :: u :: ts) = .ok (none, t :: u :: ts) := by
      rcases next with rfl | rfl <;> rfl
    dsimp only
    rw [unnamed]
    exact .ok rfl

/-- All items are read up to FROM. -/
theorem leaves_items {items : List String} (ne : items ≠ [])
    (plain : ∀ c ∈ items, c = "*" ∨ isPlainWord c = true) (table : Token) (fuel : Nat) :
    Leaves (.word "FROM" :: table :: ts)
      (Reading.items fuel (Outline.itemTokens items ++ .word "FROM" :: table :: ts)) := by
  obtain ⟨c, cs, rfl⟩ := List.exists_cons_of_ne_nil ne
  clear ne
  induction cs generalizing c fuel with
  | nil =>
    cases fuel with
    | zero => exact .error trivial
    | succ fuel =>
      show Leaves _ (Reading.items (fuel + 1) (Outline.itemToken c :: .word "FROM" :: table :: ts))
      rw [Reading.items]
      refine Ensures.bind (leaves_item (plain c List.mem_cons_self) (.inr rfl)) ?_
      rintro ⟨i, _⟩ rfl
      exact .ok rfl
  | cons d ds ih =>
    cases fuel with
    | zero => exact .error trivial
    | succ fuel =>
      show Leaves _ (Reading.items (fuel + 1) (Outline.itemToken c :: .comma :: Outline.itemToken d ::
        (ds.flatMap (fun c => [.comma, Outline.itemToken c]) ++ .word "FROM" :: table :: ts)))
      rw [Reading.items]
      refine Ensures.bind (leaves_item (plain c List.mem_cons_self) (.inl rfl)) ?_
      rintro ⟨i, _⟩ rfl
      refine Ensures.bind (ih fuel d fun e he => plain e (List.mem_cons_of_mem _ he)) ?_
      rintro ⟨is, _⟩ rfl
      exact .ok rfl

/-! ## The table -/

/-- A plain table is read as a name, and no argument is. -/
theorem path_table {table : String} (plain : isPlainTable table = true) {t : Token}
    (ends : endsName t = true) :
    path (.word table :: t :: ts) = .ok ([(Token.word table).plain], t :: ts) := by
  have named : (Token.word table).isName = true := by
    show isFreeWord table.toList = true
    unfold isPlainTable at plain
    split at plain
    case h_1 => cases plain
    case h_2 heq =>
      rw [heq]
      simp only [Bool.and_eq_true] at plain
      exact plain.2
  have point : t.reads "." = false := by
    simp only [endsName, Bool.not_eq_true', Bool.or_eq_false_iff] at ends
    exact ends.1
  rw [path, name, named, Bool.true_or, if_pos rfl]
  show (if t.reads "." = true then _ else _) = _
  rw [point, if_neg Bool.false_ne_true]
  rfl

/-- The table is read with what follows it as its other name, and the source ends there. -/
theorem leaves_sources {table : String} (plain : isPlainTable table = true) {t : Token}
    {us : List Token} (ends : endsName t = true) {a : Option String}
    (alias_ : alias? (t :: ts) = .ok (a, us)) (use : indexed us = .ok (.plain, us))
    (alone : joinCondition us = .ok ((none, []), us)) (last : join? us = .ok (none, us)) (fuel : Nat) :
    Leaves us (sources fuel (.word table :: t :: ts)) := by
  have bracket : (Token.word table).reads "(" = false :=
    reads_bare (isBare_of_isPlainTable plain) (by decide)
  have call : t.reads "(" = false := by
    simp only [endsName, Bool.not_eq_true', Bool.or_eq_false_iff] at ends
    exact ends.2
  have table_ : ∀ fuel, Leaves us (source fuel true (.word table :: t :: ts)) := by
    intro fuel
    cases fuel with
    | zero =>
      unfold source
      exact .error trivial
    | succ fuel =>
      rw [source]
      show Leaves us (if (Token.word table).reads "(" = true then _ else _)
      rw [bracket, if_neg Bool.false_ne_true, path_table plain ends]
      show Leaves us (if t.reads "(" = true then _ else _)
      rw [call, if_neg Bool.false_ne_true, alias_]
      refine Ensures.bind (P := fun p => p = (a, us)) (.ok rfl) ?_
      rintro _ rfl
      dsimp only
      rw [use]
      exact .ok rfl
  cases fuel with
  | zero =>
    unfold sources
    exact .error trivial
  | succ fuel =>
    rw [sources]
    refine Ensures.bind (table_ fuel) ?_
    rintro ⟨s, _⟩ rfl
    dsimp only
    rw [alone]
    show Leaves _ (joined fuel s _)
    cases fuel with
    | zero =>
      unfold joined
      exact .error trivial
    | succ fuel =>
      rw [joined, last]
      exact .ok rfl

/-! ## The whole statement -/

/-- What stands behind the table. -/
def behind (o : Outline) : List Token := Outline.conditionTokens o.conditions ++ o.closing

/-- The numbers of a page, the second one where it is not zero. -/
def written (limit offset : Nat) : Paging :=
  ⟨.value (writtenNumber limit), if offset = 0 then none else some (.value (writtenNumber offset))⟩

/-- A statement with the page of an outline, and with a limit. -/
def IsPaged (o : Outline) (s : Select) : Prop :=
  o.limit ≠ 0 ∧ ∃ distinct items source filter? order,
    s = .simple distinct items source filter? order (some (written o.limit o.offset))

/-- Tokens with which a statement neither goes on nor ends. -/
def IsStuck (ts : List Token) : Prop :=
  ∃ t us, ts = t :: us ∧ t.reads ";" = false ∧ compoundOp? ts = none

/-- Behind the table stands the word of a clause, or an offset alone. -/
theorem behind_cases {o : Outline} (numbers : o.limit ≠ 0 ∨ o.offset ≠ 0) :
    (∃ t ts, behind o = t :: ts ∧ (t = .word "WHERE" ∨ t = .word "ORDER" ∨ t = .word "LIMIT")) ∨
      (o.limit = 0 ∧ behind o = [.word "OFFSET", .spaced .integer (Nat.toDigits 10 o.offset)]) := by
  unfold behind Outline.closing
  cases o.conditions with
  | cons c cs => exact .inl ⟨_, _, rfl, .inl rfl⟩
  | nil =>
    rcases o.order with - | ⟨field, direction⟩
    · unfold Outline.numberTokens
      by_cases unlimited : o.limit = 0
      · rw [if_pos unlimited, if_neg (numbers.resolve_left (not_not_intro unlimited))]
        exact .inr ⟨unlimited, rfl⟩
      · rw [if_neg unlimited]
        exact .inl ⟨_, _, rfl, .inr (.inr rfl)⟩
    · exact .inl ⟨_, _, rfl, .inr (.inl rfl)⟩

/-- No item opens with a word of its own. -/
theorem opens_itemTokens {items : List String} (ne : items ≠ [])
    (plain : ∀ c ∈ items, c = "*" ∨ isPlainWord c = true) {what : String} (taken : isTaken what = true)
    (other : what ≠ "*") : opens what (Outline.itemTokens items ++ ts) = false := by
  obtain ⟨c, cs, rfl⟩ := List.exists_cons_of_ne_nil ne
  show (Outline.itemToken c).reads what = false
  unfold Outline.itemToken
  split
  case isTrue => exact decide_eq_false (Ne.symm other)
  case isFalse named => exact reads_plain ((plain c List.mem_cons_self).resolve_left named) taken

/-- The clauses behind the table are read one after the other. -/
theorem reads_clauses {o : Outline} (plain : o.IsPlain) (distinct : Bool) (items : List Item)
    (source : Source) :
    Ensures (fun p => (p.2 = [] ∧ IsPaged o p.1) ∨
        (o.limit = 0 ∧ p.2 = Outline.numberTokens "OFFSET" o.offset))
      (fun _ => True) (do
        let (filter?, ts) ← clause? "WHERE" (behind o)
        let (terms, ts) ← order ts
        let (page?, ts) ← paging? ts
        return (Select.simple distinct items source filter? terms page?, ts)) := by
  have stop : ∀ t ∈ o.closing.head?, stops 0 t = true ∧ t.reads "WHERE" = false := by
    intro t ht
    have head : t = .word "ORDER" ∨ t = .word "LIMIT" ∨ t = .word "OFFSET" := by
      unfold Outline.closing at ht
      cases entry : o.order with
      | none =>
        rw [entry] at ht
        exact .inr (head_pageTokens t ht)
      | some e =>
        rw [entry] at ht
        cases ht
        exact .inl rfl
    rcases head with rfl | rfl | rfl <;> decide
  refine Ensures.bind (leaves_conditions plain.conditions stop) ?_
  rintro ⟨filter?, _⟩ rfl
  refine Ensures.bind (leaves_order plain.order o.limit o.offset) ?_
  rintro ⟨terms, _⟩ rfl
  refine Ensures.bind (reads_paging o.limit o.offset) ?_
  rintro _ (⟨positive, rfl⟩ | ⟨zero, rfl⟩)
  · exact .ok (.inl ⟨rfl, positive, distinct, items, source, filter?, terms, rfl⟩)
  · exact .ok (.inr ⟨zero, rfl⟩)

/-- A statement with a limit is read as a whole, with its page. One with an offset alone is not: its
offset is left, or the number of it. -/
theorem reads_simple {o : Outline} (plain : o.IsPlain) (numbers : o.limit ≠ 0 ∨ o.offset ≠ 0) (fuel : Nat) :
    Ensures (fun p => (p.2 = [] ∧ IsPaged o p.1) ∨ IsStuck p.2) (fun _ => True)
      (simple fuel o.tokens) := by
  cases fuel with
  | zero =>
    unfold simple
    exact .error trivial
  | succ fuel =>
    have start : o.tokens = ⟨.word, "SELECT".toList, []⟩ ::
        (Outline.itemTokens o.items ++ .word "FROM" :: .word o.table :: behind o) := rfl
    have distinct : opens "DISTINCT"
        (Outline.itemTokens o.items ++ .word "FROM" :: .word o.table :: behind o) = false :=
      opens_itemTokens plain.items.1 plain.items.2 (by decide) (by decide)
    have all : opens "ALL"
        (Outline.itemTokens o.items ++ .word "FROM" :: .word o.table :: behind o) = false :=
      opens_itemTokens plain.items.1 plain.items.2 (by decide) (by decide)
    rw [start, simple]
    refine Ensures.bind (P := fun ts =>
      ts = Outline.itemTokens o.items ++ .word "FROM" :: .word o.table :: behind o) (.ok rfl) ?_
    rintro _ rfl
    simp only [distinct, all, Bool.false_eq_true, if_false]
    refine Ensures.bind (leaves_items plain.items.1 plain.items.2 _ _) ?_
    rintro ⟨is, _⟩ rfl
    have from_ : opens "FROM" (.word "FROM" :: .word o.table :: behind o) = true := by
      show (Token.word "FROM").reads "FROM" = true
      decide
    dsimp only
    rw [if_pos from_]
    rcases behind_cases numbers with ⟨t, ts, tail, clause⟩ | ⟨zero, tail⟩
    · have source : Leaves (behind o) (sources fuel (.word o.table :: behind o)) := by
        rw [tail]
        rcases clause with rfl | rfl | rfl <;>
          exact leaves_sources plain.table (by decide) (a := none) rfl rfl rfl rfl fuel
      refine Ensures.bind source ?_
      rintro ⟨s, _⟩ rfl
      refine (reads_clauses plain false is s).mono ?_
      rintro ⟨_, _⟩ (paged | ⟨zero, rfl⟩)
      · exact .inl paged
      · have tokens : Outline.numberTokens "OFFSET" o.offset =
            [.word "OFFSET", .spaced .integer (Nat.toDigits 10 o.offset)] :=
          if_neg (numbers.resolve_left (not_not_intro zero))
        rw [tokens]
        exact .inr ⟨_, _, rfl, by decide, rfl⟩
    · -- the word is taken for the other name of the table
      have source : Leaves [.spaced .integer (Nat.toDigits 10 o.offset)]
          (sources fuel (.word o.table :: behind o)) := by
        rw [tail]
        exact leaves_sources plain.table (by decide) (a := some "OFFSET") rfl rfl rfl rfl fuel
      refine Ensures.bind source ?_
      rintro ⟨s, _⟩ rfl
      exact .ok (.inr ⟨_, _, rfl, rfl, rfl⟩)

/-- No other statement is put together with one that is read as a whole or stuck. -/
theorem reads_select {o : Outline} (plain : o.IsPlain) (numbers : o.limit ≠ 0 ∨ o.offset ≠ 0) (fuel : Nat) :
    Ensures (fun p => (p.2 = [] ∧ IsPaged o p.1) ∨ IsStuck p.2) (fun _ => True)
      (select fuel o.tokens) := by
  cases fuel with
  | zero =>
    unfold select
    exact .error trivial
  | succ fuel =>
    rw [select]
    refine Ensures.bind (reads_simple plain numbers fuel) ?_
    rintro ⟨s, rest⟩ read
    have alone : compoundOp? rest = none := by
      rcases read with ⟨none, -⟩ | ⟨t, us, -, -, alone⟩
      · cases none
        rfl
      · exact alone
    cases fuel with
    | zero =>
      dsimp only
      unfold compounds
      exact .error trivial
    | succ fuel =>
      dsimp only
      rw [compounds, alone]
      exact .ok read

/-- **A statement is read as a command only with a limit**, and then with the page that its numbers
write. -/
theorem reads_command {o : Outline} (plain : o.IsPlain) (numbers : o.limit ≠ 0 ∨ o.offset ≠ 0) :
    Ensures (fun p => p.2 = [] ∧ ∃ s, p.1 = .select s ∧ IsPaged o s) (fun _ => True)
      (command o.tokens) := by
  unfold command
  refine Ensures.bind (P := fun p => (p.2 = [] ∧ ∃ s, p.1 = .select s ∧ IsPaged o s) ∨ IsStuck p.2) ?_ ?_
  · refine Ensures.map ((reads_select plain numbers _).mono ?_)
    rintro ⟨s, rest⟩ (⟨none, paged⟩ | stuck)
    · exact .inl ⟨none, s, rfl, paged⟩
    · exact .inr stuck
  · rintro ⟨c, rest⟩ (⟨none, s, rfl, paged⟩ | ⟨t, us, tokens, going, -⟩)
    · cases none
      exact .ok ⟨rfl, s, rfl, paged⟩
    · cases tokens
      show Ensures _ _ (if t.reads ";" = true then _ else _)
      rw [going, if_neg Bool.false_ne_true]
      exact .error trivial

end Reading

end NameQuery.Sql
