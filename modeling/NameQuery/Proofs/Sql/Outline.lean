import NameQuery.Proofs.Query.Recorded
import NameQuery.Proofs.Sql.Tokens
import NameQuery.Text.Blank

/-!
# The outline of a statement

The tokens of a statement with one placeholder in each predicate are known from what it is made of
(`Sql.Outline.tokens`): where columns, fields and table are plain words, the text of the statement comes
apart into them (`Sql.Outline.spells_text`). A text becomes tokens after it is trimmed, and its
parameters are numbered then, which changes nothing but the numbers (`Sql.Outline.exists_tokens`).
-/

set_option autoImplicit false

namespace NameQuery.Sql

open Token (Adds Spells IsBare)

def Token.spaced (kind : TokenKind) (text : List Char) : Token := ⟨kind, text, [' ']⟩

def Token.word (w : String) : Token := spaced .word w.toList

def Token.comma : Token := ⟨.symbol, [','], []⟩

/-- A field compared with a parameter that has a number and a text. -/
structure Comparison where
  field : String
  number : Nat
  text : List Char

/-- What a statement is made of whose predicates have one placeholder each. -/
structure Outline where
  items : List String
  table : String
  conditions : List Comparison
  order : Option (String × Option Direction)
  limit : Nat
  offset : Nat

/-! ## Tokens -/

namespace Comparison

def tokens (c : Comparison) : List Token :=
  [.word c.field, .spaced .symbol ['='], .spaced (.parameter c.number) c.text]

/-- The comparisons of fields, before parameters are numbered. Their texts are placeholders from the
given number on. -/
def ofFields (style : Placeholder) : Nat → List String → List Comparison
  | _, [] => []
  | n, f :: fs => ⟨f, 0, (Statement.placeholderText style n).toList⟩ :: ofFields style (n + 1) fs

end Comparison

namespace Outline

/-- What is selected: a star or a column. -/
def itemToken (c : String) : Token := if c = "*" then .spaced .symbol ['*'] else .word c

def itemTokens : List String → List Token
  | [] => []
  | c :: cs => itemToken c :: cs.flatMap fun c => [.comma, itemToken c]

def conditionTokens : List Comparison → List Token
  | [] => []
  | c :: cs => .word "WHERE" :: c.tokens ++ cs.flatMap fun c => .word "AND" :: c.tokens

def directionTokens : Option Direction → List Token
  | none => []
  | some .ascending => [.word "ASC"]
  | some .descending => [.word "DESC"]

def orderTokens : Option (String × Option Direction) → List Token
  | none => []
  | some (field, direction) =>
    .word "ORDER" :: .word "BY" :: .word field :: directionTokens direction

def numberTokens (keyword : String) (n : Nat) : List Token :=
  if n = 0 then [] else [.word keyword, .spaced .integer (Nat.toDigits 10 n)]

/-- The tokens behind the conditions. -/
def closing (o : Outline) : List Token :=
  orderTokens o.order ++ (numberTokens "LIMIT" o.limit ++ numberTokens "OFFSET" o.offset)

def tokens (o : Outline) : List Token :=
  ⟨.word, "SELECT".toList, []⟩ :: (itemTokens o.items ++
    (.word "FROM" :: .word o.table :: (conditionTokens o.conditions ++ o.closing)))

/-- Columns, fields and table are words that mean nothing else. -/
structure IsPlain (o : Outline) : Prop where
  items : o.items ≠ [] ∧ ∀ c ∈ o.items, c = "*" ∨ isPlainWord c = true
  table : isPlainTable o.table = true
  conditions : ∀ c ∈ o.conditions, isPlainWord c.field = true
  order : ∀ e ∈ o.order, isPlainWord e.1 = true

end Outline

/-! ## Words of the text -/

theorem isBare_of_isPlainWord {w : String} (h : isPlainWord w = true) : IsBare w.toList := by
  unfold isPlainWord at h
  dsimp only at h
  split at h
  case h_1 => cases h
  case h_2 c cs heq =>
    simp only [Bool.and_eq_true, Bool.not_eq_true', List.all_eq_true] at h
    rw [heq] at h ⊢
    refine ⟨List.cons_ne_nil _ _, ?_, h.1.1.1.1.2⟩
    rintro d ⟨⟩
    exact h.1.1.1.1.1

theorem isBare_of_isPlainTable {w : String} (h : isPlainTable w = true) : IsBare w.toList := by
  unfold isPlainTable at h
  split at h
  case h_1 => cases h
  case h_2 c cs heq =>
    simp only [Bool.and_eq_true, Bool.not_eq_true', List.all_eq_true] at h
    rw [heq]
    refine ⟨List.cons_ne_nil _ _, ?_, h.1.2⟩
    rintro d ⟨⟩
    exact h.1.1

/-- The words of statements that have a meaning. -/
theorem isBare_keyword {w : String}
    (h : w ∈ ["FROM", "WHERE", "AND", "ORDER", "BY", "ASC", "DESC", "LIMIT", "OFFSET"]) :
    IsBare w.toList := by
  fin_cases h <;> exact ⟨by decide, by rintro c ⟨⟩; rfl, List.all_eq_true.mp (by decide)⟩

/-- A bare word behind a blank adds one token. -/
theorem adds_word {w : String} (h : IsBare w.toList) : Adds (' ' :: w.toList) [.word w] := h.makes.adds

/-- A keyword of a statement behind a blank adds one token. -/
theorem adds_keyword (w : String)
    (h : w ∈ ["FROM", "WHERE", "AND", "ORDER", "BY", "ASC", "DESC", "LIMIT", "OFFSET"]) :
    Adds (' ' :: w.toList) [.word w] :=
  adds_word (isBare_keyword h)

/-! ## Parts of the text -/

/-- The first text, and the others each after the separator. -/
theorem intercalate_cons (sep t : List Char) (ts : List (List Char)) :
    sep.intercalate (t :: ts) = t ++ ts.flatMap (sep ++ ·) := by
  induction ts generalizing t with
  | nil => simp
  | cons u ts ih =>
    have step : sep.intercalate (t :: u :: ts) = t ++ (sep ++ sep.intercalate (u :: ts)) := by
      simp [List.intercalate]
    rw [step, ih, List.flatMap_cons, List.append_assoc]

namespace Comparison

/-- A comparison as it is written. -/
def chars (c : Comparison) : List Char := c.field.toList ++ (" = ".toList ++ c.text)

/-- A comparison behind a blank adds its tokens. -/
theorem adds_ofFields (style : Placeholder) (n : Nat) {fields : List String}
    (bare : ∀ f ∈ fields, IsBare f.toList) :
    ∀ c ∈ ofFields style n fields, Adds (' ' :: c.chars) c.tokens := by
  induction fields generalizing n with
  | nil => exact nofun
  | cons f fields ih =>
    rw [List.forall_mem_cons] at bare
    rw [ofFields, List.forall_mem_cons]
    refine ⟨?_, ih (n + 1) bare.2⟩
    have sign : Adds [' ', '='] [.spaced .symbol ['=']] := (Token.makes_symbol (.inr (.inl rfl))).adds
    exact (adds_word bare.1).append (sign.append (Token.makes_parameter style n).adds)

/-- The predicates of a statement are written as comparisons. -/
theorem predicateTexts_eq (style : Placeholder) (n : Nat) (fields : List String) :
    (Statement.predicateTexts style n (fields.map fun f => ⟨f, 1⟩)).map String.toList =
      (ofFields style n fields).map chars := by
  induction fields generalizing n with
  | nil => rfl
  | cons f fields ih =>
    have text : (Statement.predicateText style n ⟨f, 1⟩).toList =
        f.toList ++ (" = ".toList ++ (Statement.placeholderText style n).toList) := by
      simp [Statement.predicateText]
    rw [List.map_cons, Statement.predicateTexts, List.map_cons, text, ih]
    rfl

/-- The comparisons over fields compare these fields. -/
theorem map_field_ofFields (style : Placeholder) (n : Nat) (fields : List String) :
    (ofFields style n fields).map field = fields := by
  induction fields generalizing n with
  | nil => rfl
  | cons f fields ih => rw [ofFields, List.map_cons, ih]

end Comparison

namespace Outline

def whereText (style : Placeholder) (fields : List String) : String :=
  let predicates := fields.map fun f => (⟨f, 1⟩ : Predicate)
  if predicates.isEmpty then ""
  else " WHERE " ++ " AND ".intercalate (Statement.predicateTexts style 1 predicates)

def orderText (order : Option (String × Option Direction)) : String :=
  match order.map fun e => [e] with
  | none => ""
  | some entries => " ORDER BY " ++ ", ".intercalate (entries.map Statement.orderText)

/-- A number behind the order. -/
def numberText (keyword : String) (n : UInt64) : String :=
  if n = 0 then "" else " " ++ keyword ++ " " ++ toString n.toNat

/-- A column or a star behind a blank adds one token. -/
theorem adds_item {c : String} (h : c = "*" ∨ isPlainWord c = true) :
    Adds (' ' :: c.toList) [itemToken c] := by
  unfold itemToken
  split
  case isTrue star =>
    subst star
    exact (Token.makes_symbol (.inl rfl)).adds
  case isFalse other => exact adds_word (isBare_of_isPlainWord (h.resolve_left other))

/-- Columns behind a blank add a token each, and a comma between any two. -/
theorem adds_items {items : List String} (ne : items ≠ [])
    (plain : ∀ c ∈ items, c = "*" ∨ isPlainWord c = true) :
    Adds (' ' :: (", ".intercalate items).toList) (itemTokens items) := by
  obtain ⟨c, cs, rfl⟩ := List.exists_cons_of_ne_nil ne
  rw [List.forall_mem_cons] at plain
  have comma : Adds [','] [.comma] := by
    refine ⟨?_, (Token.makes_symbol (.inr (.inr rfl))).spells⟩
    rintro c ⟨⟩
    exact .inr rfl
  have others : ∀ d ∈ cs, Adds (", ".toList ++ d.toList) [.comma, itemToken d] :=
    fun d hd => comma.append (adds_item (plain.2 d hd))
  rw [String.toList_intercalate, List.map_cons, intercalate_cons, List.flatMap_map]
  exact (adds_item plain.1).append (Token.adds_flatMap others)

/-- The WHERE text adds the tokens of its comparisons. -/
theorem adds_conditions (style : Placeholder) {fields : List String}
    (bare : ∀ f ∈ fields, IsBare f.toList) :
    Adds (whereText style fields).toList (conditionTokens (Comparison.ofFields style 1 fields)) := by
  unfold whereText
  dsimp only
  have comparisons := Comparison.adds_ofFields style 1 bare
  cases fields with
  | nil => exact Token.adds_nil
  | cons f fields =>
    have some_ : ((f :: fields).map fun f => (⟨f, 1⟩ : Predicate)).isEmpty = false := rfl
    rw [some_, if_neg Bool.false_ne_true, String.toList_append, String.toList_intercalate,
      Comparison.predicateTexts_eq]
    rw [Comparison.ofFields] at comparisons ⊢
    rw [List.forall_mem_cons] at comparisons
    rw [List.map_cons, intercalate_cons, List.flatMap_map]
    have others : ∀ c ∈ Comparison.ofFields style 2 fields,
        Adds (" AND ".toList ++ c.chars) (.word "AND" :: c.tokens) :=
      fun c hc => (adds_keyword "AND" (by decide)).append (comparisons.2 c hc)
    exact (adds_keyword "WHERE" (by decide)).append (comparisons.1.append (Token.adds_flatMap others))

/-- The ORDER BY text adds the tokens of its entry. -/
theorem adds_order {order : Option (String × Option Direction)} (bare : ∀ e ∈ order, IsBare e.1.toList) :
    Adds (orderText order).toList (orderTokens order) := by
  unfold orderText
  cases order with
  | none => exact Token.adds_nil
  | some e =>
    obtain ⟨field, direction⟩ := e
    have column : Adds (' ' :: field.toList) [.word field] := adds_word (bare _ rfl)
    have entry : Adds (' ' :: (Statement.orderText (field, direction)).toList)
        (.word field :: directionTokens direction) := by
      rcases direction with - | - | -
      · exact column
      · rw [Statement.orderText, String.toList_append]
        exact column.append (adds_keyword "ASC" (by decide))
      · rw [Statement.orderText, String.toList_append]
        exact column.append (adds_keyword "DESC" (by decide))
    have text : (" ORDER BY " ++ ", ".intercalate [Statement.orderText (field, direction)]).toList =
        ' ' :: "ORDER".toList ++ (' ' :: "BY".toList ++
          ' ' :: (Statement.orderText (field, direction)).toList) := by
      simp
    rw [Option.map_some]
    dsimp only
    rw [List.map_singleton, text]
    exact (adds_keyword "ORDER" (by decide)).append ((adds_keyword "BY" (by decide)).append entry)

/-- The number of rows, or of rows that are passed over. -/
theorem adds_number {keyword : String} (h : keyword = "LIMIT" ∨ keyword = "OFFSET") (n : UInt64) :
    Adds (numberText keyword n).toList (numberTokens keyword n.toNat) := by
  unfold numberText
  have zero : n.toNat = 0 ↔ n = 0 := UInt64.toNat_inj (b := 0)
  unfold numberTokens
  simp only [zero]
  split
  case isTrue => exact Token.adds_nil
  case isFalse =>
    have text : (" " ++ keyword ++ " " ++ toString n.toNat).toList =
        ' ' :: keyword.toList ++ ' ' :: Nat.toDigits 10 n.toNat := by
      simp
    have bare : keyword ∈ ["FROM", "WHERE", "AND", "ORDER", "BY", "ASC", "DESC", "LIMIT", "OFFSET"] := by
      rcases h with rfl | rfl <;> decide
    rw [text]
    exact (adds_keyword keyword bare).append (Token.makes_integer _).adds

/-! ## The whole text -/

variable {r : Name.Recorded} {table : String} {limit offset : UInt64}

/-- The outline of a recorded statement with the given comparisons. -/
def ofRecorded (r : Name.Recorded) (table : String) (limit offset : UInt64)
    (conditions : List Comparison) : Outline :=
  ⟨r.items, table, conditions, r.order, limit.toNat, offset.toNat⟩

/-- The text of a recorded statement, clause by clause. -/
theorem text_eq (style : Placeholder) :
    (r.statement table limit offset).text style =
      "SELECT " ++ ", ".intercalate r.items ++ " FROM " ++ table ++ (whereText style r.predicates ++
        orderText r.order ++ numberText "LIMIT" limit ++ numberText "OFFSET" offset) :=
  rfl

/-- The text of a recorded statement with a blank at the head of each part. -/
theorem toList_text (style : Placeholder) :
    ((r.statement table limit offset).text style).toList =
      "SELECT".toList ++ (' ' :: (", ".intercalate r.items).toList ++ (' ' :: "FROM".toList ++
        (' ' :: table.toList ++ ((whereText style r.predicates).toList ++ ((orderText r.order).toList ++
          ((numberText "LIMIT" limit).toList ++ (numberText "OFFSET" offset).toList)))))) := by
  rw [text_eq]
  simp only [String.toList_append, List.append_assoc]
  rfl

/-- The text of a recorded statement is read as the tokens of its outline. -/
theorem spells_text (style : Placeholder)
    (plain : (ofRecorded r table limit offset (Comparison.ofFields style 1 r.predicates)).IsPlain) :
    Spells ((r.statement table limit offset).text style).toList
      (ofRecorded r table limit offset (Comparison.ofFields style 1 r.predicates)).tokens := by
  have select : IsBare "SELECT".toList :=
    ⟨by decide, by rintro c ⟨⟩; rfl, List.all_eq_true.mp (by decide)⟩
  have fields : ∀ f ∈ r.predicates, IsBare f.toList := by
    intro f hf
    rw [← Comparison.map_field_ofFields style 1 r.predicates] at hf
    obtain ⟨c, hc, rfl⟩ := List.mem_map.mp hf
    exact isBare_of_isPlainWord (plain.conditions c hc)
  have order : ∀ e ∈ r.order, IsBare e.1.toList := fun e he => isBare_of_isPlainWord (plain.order e he)
  have closing := (adds_order order).append
    ((adds_number (.inl rfl) limit).append (adds_number (.inr rfl) offset))
  rw [toList_text]
  exact select.makes.spells.append ((adds_items plain.items.1 plain.items.2).append
    ((adds_keyword "FROM" (by decide)).append ((adds_word (isBare_of_isPlainTable plain.table)).append
      ((adds_conditions style fields).append closing))))

end Outline

/-! ## Numbered parameters -/

/-- A token that the numbering of parameters passes over. -/
def Token.isFixed (t : Token) : Bool :=
  match t.kind with
  | .parameter _ => false
  | .symbol => t.text ≠ [';']
  | _ => true

/-- Tokens that are no parameters keep their places under numbering. -/
theorem Token.numbered_append {ts : List Token} (fixed : ∀ t ∈ ts, t.isFixed = true)
    (named : List (List Char × Nat)) (n : Nat) (us : List Token) :
    numbered named n (ts ++ us) = ts ++ numbered named n us := by
  induction ts with
  | nil => rfl
  | cons t ts ih =>
    rw [List.forall_mem_cons] at fixed
    obtain ⟨own, others⟩ := fixed
    rw [List.cons_append, List.cons_append, ← ih others]
    unfold isFixed at own
    cases kind : t.kind with
    | parameter k =>
      rw [kind] at own
      cases own
    | symbol =>
      rw [kind] at own
      have going : t.text ≠ [';'] := by simpa using own
      rw [numbered]
      simp only [kind, if_neg going]
    | _ =>
      rw [numbered]
      simp only [kind]

namespace Outline

/-- The parameters of comparisons are numbered, and nothing else of them changes. -/
theorem exists_numbered_comparisons (conditions : List Comparison) (named : List (List Char × Nat))
    (n : Nat) (us : List Token) :
    ∃ (conditions' : List Comparison) (named' : List (List Char × Nat)) (n' : Nat),
      conditions'.map Comparison.field = conditions.map Comparison.field ∧
      Token.numbered named n (conditions.flatMap (fun c => .word "AND" :: c.tokens) ++ us) =
        conditions'.flatMap (fun c => .word "AND" :: c.tokens) ++ Token.numbered named' n' us := by
  induction conditions generalizing named n with
  | nil => exact ⟨[], named, n, rfl, rfl⟩
  | cons c conditions ih =>
    let number := Token.parameterNumber named n c.text
    obtain ⟨others, named', n', fields, rest⟩ := ih ((c.text, number) :: named) (max n number)
    refine ⟨{ c with number } :: others, named', n', ?_, ?_⟩
    · rw [List.map_cons, List.map_cons, fields]
    · rw [List.flatMap_cons, List.flatMap_cons, List.append_assoc, List.append_assoc, ← rest]
      rfl

theorem isFixed_of_mem_itemTokens {items : List String} :
    ∀ t ∈ itemTokens items, t.isFixed = true := by
  have item : ∀ c, (itemToken c).isFixed = true := by
    intro c
    unfold itemToken
    split <;> rfl
  cases items with
  | nil => exact nofun
  | cons c cs =>
    refine List.forall_mem_cons.mpr ⟨item c, fun t ht => ?_⟩
    obtain ⟨d, -, ht⟩ := List.mem_flatMap.mp ht
    rcases List.mem_cons.mp ht with rfl | ht
    · rfl
    · rw [List.mem_singleton.mp ht]
      exact item d

theorem isFixed_of_mem_closing {o : Outline} : ∀ t ∈ o.closing, t.isFixed = true := by
  have number : ∀ keyword n, ∀ t ∈ numberTokens keyword n, t.isFixed = true := by
    intro keyword n t ht
    unfold numberTokens at ht
    split at ht
    · cases ht
    · rcases List.mem_pair.mp ht with rfl | rfl <;> rfl
  have order : ∀ order, ∀ t ∈ orderTokens order, t.isFixed = true := by
    intro order t ht
    rcases order with - | ⟨field, - | - | -⟩ <;> simp [orderTokens, directionTokens] at ht
    · rcases ht with rfl | rfl | rfl <;> rfl
    · rcases ht with rfl | rfl | rfl | rfl <;> rfl
    · rcases ht with rfl | rfl | rfl | rfl <;> rfl
  exact List.forall_mem_append.mpr ⟨order _, List.forall_mem_append.mpr ⟨number _ _, number _ _⟩⟩

/-- Numbering the parameters of a statement changes the numbers of its comparisons only. -/
theorem exists_numbered (o : Outline) :
    ∃ conditions : List Comparison, conditions.map Comparison.field = o.conditions.map Comparison.field ∧
      Token.numbered [] 0 o.tokens = { o with conditions }.tokens := by
  have before : ∀ t ∈ ⟨.word, "SELECT".toList, []⟩ :: itemTokens o.items ++ [.word "FROM", .word o.table],
      Token.isFixed t = true := by
    refine List.forall_mem_append.mpr ⟨List.forall_mem_cons.mpr ⟨rfl, isFixed_of_mem_itemTokens⟩, ?_⟩
    exact List.forall_mem_cons.mpr ⟨rfl, List.forall_mem_singleton.mpr rfl⟩
  have split : ∀ conditions, { o with conditions : Outline }.tokens =
      (⟨.word, "SELECT".toList, []⟩ :: itemTokens o.items ++ [.word "FROM", .word o.table]) ++
        (conditionTokens conditions ++ o.closing) := by
    intro conditions
    simp [tokens, closing]
  have closed : ∀ named n, Token.numbered named n o.closing = o.closing := by
    intro named n
    have whole := Token.numbered_append (isFixed_of_mem_closing (o := o)) named n []
    rwa [List.append_nil, Token.numbered, List.append_nil] at whole
  rw [split o.conditions, Token.numbered_append before]
  cases conditions : o.conditions with
  | nil =>
    refine ⟨[], rfl, ?_⟩
    rw [split, conditionTokens, List.nil_append, closed]
  | cons c cs =>
    obtain ⟨others, named, n, fields, rest⟩ := exists_numbered_comparisons cs
      [(c.text, Token.parameterNumber [] 0 c.text)] (max 0 (Token.parameterNumber [] 0 c.text)) o.closing
    refine ⟨{ c with number := Token.parameterNumber [] 0 c.text } :: others, ?_, ?_⟩
    · rw [List.map_cons, List.map_cons, fields]
    · rw [closed] at rest
      rw [split, conditionTokens, conditionTokens, List.append_assoc _ _ o.closing,
        List.append_assoc _ _ o.closing, ← rest]
      rfl

/-! ## The tokens of the text -/

variable {r : Name.Recorded} {table : String} {limit offset : UInt64}

/-- A text with a limit or an offset ends with a digit. -/
theorem exists_last_digit (style : Placeholder) (table : String) (numbers : limit ≠ 0 ∨ offset ≠ 0) :
    ∃ front c, ((r.statement table limit offset).text style).toList = 'S' :: front ++ [c] ∧
      c.isDigit = true := by
  have ends : ∀ keyword (n : UInt64), n ≠ 0 → ∃ front c,
      (numberText keyword n).toList = front ++ [c] ∧ c.isDigit = true := by
    intro keyword n positive
    obtain ⟨before, c, digits⟩ : ∃ before c, Nat.toDigits 10 n.toNat = before ++ [c] :=
      ⟨_, _, (List.dropLast_append_getLast Nat.toDigits_ne_nil).symm⟩
    have text : (numberText keyword n).toList = ' ' :: keyword.toList ++ ' ' :: Nat.toDigits 10 n.toNat := by
      simp [numberText, positive]
    refine ⟨' ' :: keyword.toList ++ ' ' :: before, c, ?_, isDigit_of_mem_toDigits (n := n.toNat) ?_⟩
    · rw [text, digits, List.append_assoc]
      rfl
    · rw [digits]
      exact List.mem_append_right _ List.mem_cons_self
  have last : ∃ front c, (numberText "LIMIT" limit).toList ++ (numberText "OFFSET" offset).toList =
      front ++ [c] ∧ c.isDigit = true := by
    by_cases passes : offset = 0
    · obtain ⟨front, c, text, digit⟩ := ends "LIMIT" limit (numbers.resolve_right (not_not_intro passes))
      refine ⟨front, c, ?_, digit⟩
      rw [passes, ← text]
      exact List.append_nil _
    · obtain ⟨front, c, text, digit⟩ := ends "OFFSET" offset passes
      exact ⟨_, c, by rw [text, ← List.append_assoc], digit⟩
  obtain ⟨front, c, text, digit⟩ := last
  rw [toList_text, text]
  exact ⟨_, c, by simp only [← List.append_assoc]; rfl, digit⟩

/-- Nothing is trimmed of a text between a letter and a digit. -/
theorem trimmed_eq_self {front : List Char} {c : Char} (digit : c.isDigit = true) :
    Text.trimmed ('S' :: front ++ [c]) = 'S' :: front ++ [c] := by
  have code : 48 ≤ c.toNat ∧ c.toNat ≤ 57 := Char.isDigit_iff_toNat.mp digit
  have shown : ¬ Text.isBlank c = true := by
    simp [Text.isBlank]
    omega
  rw [Text.trimmed, List.cons_append, List.dropWhile_cons_of_neg (by decide), ← List.cons_append,
    List.reverse_append, List.reverse_singleton, List.singleton_append, List.dropWhile_cons_of_neg shown,
    List.reverse_cons, List.reverse_reverse]

/-- The text of a plain statement with a limit or an offset has the tokens of its outline, with some
numbers for the parameters. -/
theorem exists_tokens (style : Placeholder)
    (plain : (ofRecorded r table limit offset (Comparison.ofFields style 1 r.predicates)).IsPlain)
    (numbers : limit ≠ 0 ∨ offset ≠ 0) :
    ∃ conditions : List Comparison, conditions.map Comparison.field = r.predicates ∧
      Token.ofText (String.ofList (Text.trimmed ((r.statement table limit offset).text style).toList)) =
        (ofRecorded r table limit offset conditions).tokens := by
  obtain ⟨whole, lexes⟩ := spells_text style plain
  obtain ⟨front, c, text, digit⟩ := exists_last_digit (r := r) style table numbers
  have kept : ((r.statement table limit offset).text style).toList.takeWhile (·.toNat != 0) =
      ((r.statement table limit offset).text style).toList :=
    List.takeWhile_eq_self_iff.mpr fun c hc => bne_iff_ne.mpr (whole c hc)
  have tokens := lexes [] [] nofun Token.lexes_nil _ (Nat.le_refl _)
  rw [List.append_nil, List.append_nil] at tokens
  obtain ⟨conditions, fields, numbered⟩ :=
    exists_numbered (ofRecorded r table limit offset (Comparison.ofFields style 1 r.predicates))
  refine ⟨conditions, fields.trans (Comparison.map_field_ofFields style 1 r.predicates), ?_⟩
  rw [Token.ofText, String.toList_ofList, text, trimmed_eq_self digit, ← text, kept, tokens, numbered]
  rfl

end Outline

end NameQuery.Sql
