import NameQuery.Proofs.Sql.Counts
import NameQuery.Proofs.Sql.Gate
import NameQuery.Sql.Statement
import NameQuery.Sql.Token

/-!
# Texts that come apart into tokens

The text of a statement is made of parts that each add tokens to it: a word, a number, a placeholder,
a symbol, with a blank or a comma before it. What such a part comes apart into depends on nothing else
(`Token.Adds`), so parts one after the other add their tokens one after the other
(`Token.Adds.append`). A single token is one part if it ends where the next blank or comma stands
(`Token.Makes`).
-/

set_option autoImplicit false

namespace NameQuery.Sql

namespace Token

/-! ## Texts that come apart into tokens -/

/-- A blank or a comma follows, or nothing, so that every token ends here. -/
def EndsToken (rest : List Char) : Prop := ∀ c ∈ rest.head?, c = ' ' ∨ c = ','

/-- A text comes apart into tokens. -/
def Lexes (cs : List Char) (ts : List Token) : Prop :=
  ∀ fuel, cs.length ≤ fuel → list [] fuel cs = ts

/-- A text without null characters comes apart into tokens, whatever follows that ends a token. -/
structure Spells (cs : List Char) (ts : List Token) : Prop where
  whole : ∀ c ∈ cs, c.toNat ≠ 0
  lexes : ∀ rest us, EndsToken rest → Lexes rest us → Lexes (cs ++ rest) (ts ++ us)

/-- A text comes apart into tokens behind a token. -/
structure Adds (cs : List Char) (ts : List Token) : Prop where
  ends : EndsToken cs
  spells : Spells cs ts

/-- A character that neither a blank nor a comment begins with. -/
def IsVisible (c : Char) : Prop := 32 < c.toNat ∧ c.toNat < 127 ∧ c ≠ '-' ∧ c ≠ '/'

/-- A text makes one token, whatever follows that ends a token. -/
structure Makes (kind : TokenKind) (text : List Char) : Prop where
  ne : text ≠ []
  visible : ∀ c ∈ text, IsVisible c
  first : ∀ rest, EndsToken rest → Token.first (text ++ rest) = (kind, text.length)

theorem lexes_nil : Lexes [] [] := by
  intro fuel _
  cases fuel <;> rfl

theorem EndsToken.append {cs rest : List Char} (h : EndsToken cs) (h' : EndsToken rest) :
    EndsToken (cs ++ rest) := by
  cases cs with
  | nil => exact h'
  | cons c cs => exact h

theorem Spells.append {cs ds : List Char} {ts us : List Token} (h : Spells cs ts) (h' : Adds ds us) :
    Spells (cs ++ ds) (ts ++ us) := by
  refine ⟨List.forall_mem_append.mpr ⟨h.whole, h'.spells.whole⟩, fun rest vs after lexes => ?_⟩
  rw [List.append_assoc, List.append_assoc]
  exact h.lexes _ _ (h'.ends.append after) (h'.spells.lexes _ _ after lexes)

theorem adds_nil : Adds [] [] := ⟨nofun, nofun, fun _ _ _ lexes => lexes⟩

theorem Adds.append {cs ds : List Char} {ts us : List Token} (h : Adds cs ts) (h' : Adds ds us) :
    Adds (cs ++ ds) (ts ++ us) :=
  ⟨h.ends.append h'.ends, h.spells.append h'⟩

/-- Parts one after the other add their tokens. -/
theorem adds_flatMap {α : Type} {text : α → List Char} {tokens : α → List Token} {l : List α}
    (h : ∀ a ∈ l, Adds (text a) (tokens a)) : Adds (l.flatMap text) (l.flatMap tokens) := by
  induction l with
  | nil => exact adds_nil
  | cons a l ih =>
    rw [List.forall_mem_cons] at h
    exact h.1.append (ih h.2)

theorem IsVisible.isBlank {c : Char} (h : IsVisible c) : Numeral.isBlank c = false := by
  unfold IsVisible at h
  have code : c = ' ' ↔ c.toNat = 32 := Char.toNat_inj.symm
  rw [Numeral.isBlank, Bool.or_eq_false_iff, decide_eq_false_iff_not, code, Bool.and_eq_false_iff,
    decide_eq_false_iff_not, decide_eq_false_iff_not]
  omega

theorem IsVisible.blankLength {c : Char} (h : IsVisible c) (cs : List Char) :
    blankLength (c :: cs) = 0 := by
  unfold IsVisible at h
  have code : ∀ d : Char, c = d ↔ c.toNat = d.toNat := fun d => Char.toNat_inj.symm
  have closed : opensBlanks c = false := by
    simp only [opensBlanks, code, Char.reduceToNat, Bool.or_eq_false_iff, decide_eq_false_iff_not]
    omega
  have mark : ¬ c = '\uFEFF' := by
    rw [code]
    show ¬ c.toNat = 65279
    omega
  unfold Token.blankLength
  split
  case h_1 same =>
    cases same
    exact absurd rfl h.2.2.1
  case h_2 same =>
    cases same
    exact absurd rfl h.2.2.2
  case h_3 same =>
    cases same
    rw [closed, if_neg Bool.false_ne_true, if_neg mark]
  case h_4 none => cases none

/-- A token at the beginning of a text. -/
theorem Makes.lexes {kind : TokenKind} {text rest : List Char} {us : List Token}
    (makes : Makes kind text) (ends : EndsToken rest) (lexes : Lexes rest us) :
    ∀ before fuel, (text ++ rest).length ≤ fuel →
      list before fuel (text ++ rest) = ⟨kind, text, before⟩ :: us := by
  obtain ⟨ne, visible, first⟩ := makes
  obtain ⟨c, cs, rfl⟩ := List.exists_cons_of_ne_nil ne
  intro before fuel enough
  rw [List.cons_append, List.length_cons, List.length_append] at enough
  obtain ⟨fuel, rfl⟩ := Nat.exists_eq_add_of_lt (Nat.lt_of_lt_of_le (Nat.succ_pos _) enough)
  rw [Nat.zero_add] at enough ⊢
  have length := first rest ends
  rw [List.cons_append] at length ⊢
  simp only [list, (visible c List.mem_cons_self).blankLength, Nat.lt_irrefl, if_false, length]
  rw [← List.cons_append, List.take_left, List.drop_left, lexes fuel (by omega)]

/-- A text that makes a token has no character of code zero. -/
theorem Makes.whole {kind : TokenKind} {text : List Char} (makes : Makes kind text) :
    ∀ c ∈ text, c.toNat ≠ 0 := by
  intro c hc
  exact Nat.ne_of_gt (Nat.zero_lt_of_lt (makes.visible c hc).1)

/-- A token with nothing before it. -/
theorem Makes.spells {kind : TokenKind} {text : List Char} (makes : Makes kind text) :
    Spells text [⟨kind, text, []⟩] :=
  ⟨makes.whole, fun _ _ ends lexes => makes.lexes ends lexes []⟩

/-- A token after a blank. -/
theorem Makes.adds {kind : TokenKind} {text : List Char} (makes : Makes kind text) :
    Adds (' ' :: text) [⟨kind, text, [' ']⟩] := by
  refine ⟨fun c hc => .inl (by cases hc; rfl), List.forall_mem_cons.mpr ⟨by decide, makes.whole⟩, ?_⟩
  intro rest us ends lexes fuel enough
  obtain ⟨c, cs, heq⟩ := List.exists_cons_of_ne_nil makes.ne
  have one : blankLength (' ' :: (text ++ rest)) = 1 := by
    have visible : Numeral.isBlank c = false := (makes.visible c (by rw [heq]; exact List.mem_cons_self)).isBlank
    have none : ((text ++ rest).takeWhile Numeral.isBlank).length = 0 := by
      rw [heq, List.cons_append, List.takeWhile_cons_of_neg (by simp [visible]), List.length_nil]
    show 1 + ((text ++ rest).takeWhile Numeral.isBlank).length = 1
    rw [none]
  rw [List.cons_append, List.length_cons] at enough
  obtain ⟨fuel, rfl⟩ := Nat.exists_eq_add_of_lt (Nat.lt_of_lt_of_le (Nat.succ_pos _) enough)
  rw [Nat.zero_add] at enough ⊢
  rw [List.cons_append]
  simp only [list, one, Nat.zero_lt_one, if_true, List.take_succ_cons, List.take_zero, List.drop_succ_cons,
    List.drop_zero, List.nil_append]
  exact makes.lexes ends lexes [' '] fuel (by omega)

/-! ## Words -/

/-- A word without a digit in front. -/
structure IsBare (w : List Char) : Prop where
  ne : w ≠ []
  first : ∀ c ∈ w.head?, c.isDigit = false
  chars : ∀ c ∈ w, (c.isAlphanum || c = '_') = true

/-- A character of a bare word has the code of a letter, a digit or the underscore. -/
theorem code_of_bare {c : Char} (h : (c.isAlphanum || c = '_') = true) :
    (48 ≤ c.toNat ∧ c.toNat ≤ 57) ∨ (65 ≤ c.toNat ∧ c.toNat ≤ 90) ∨ (97 ≤ c.toNat ∧ c.toNat ≤ 122) ∨
      c.toNat = 95 := by
  have underscore : c = '_' ↔ c.toNat = 95 := Char.toNat_inj.symm
  simp [Char.isAlphanum, Char.isAlpha, Char.isUpper, Char.isLower, Char.isDigit,
    UInt32.le_iff_toNat_le, underscore] at h
  omega

theorem isVisible_of_code {c : Char}
    (h : (48 ≤ c.toNat ∧ c.toNat ≤ 57) ∨ (65 ≤ c.toNat ∧ c.toNat ≤ 90) ∨
      (97 ≤ c.toNat ∧ c.toNat ≤ 122) ∨ c.toNat = 95) : IsVisible c := by
  unfold IsVisible
  have dash : c = '-' ↔ c.toNat = 45 := Char.toNat_inj.symm
  have slash : c = '/' ↔ c.toNat = 47 := Char.toNat_inj.symm
  rw [Ne, Ne, dash, slash]
  omega

theorem isWordChar_of_bare {c : Char} (h : (c.isAlphanum || c = '_') = true) : isWordChar c = true := by
  simp only [Char.isAlphanum, Bool.or_eq_true, decide_eq_true_eq] at h
  rcases h with (alpha | digit) | rfl
  · simp [isWordChar, opensWord, alpha]
  · simp [isWordChar, digit]
  · rfl

theorem takeWhile_isWordChar (cs : List Char) {rest : List Char} (chars : ∀ c ∈ cs, isWordChar c = true)
    (ends : EndsToken rest) : (cs ++ rest).takeWhile isWordChar = cs := by
  rw [List.takeWhile_append_of_pos chars]
  cases rest with
  | nil => rw [List.takeWhile_nil, List.append_nil]
  | cons c rest =>
    have stops : ¬ isWordChar c = true := by
      rcases ends c rfl with rfl | rfl <;> decide
    rw [List.takeWhile_cons_of_neg stops, List.append_nil]

theorem IsBare.makes {w : List Char} (h : IsBare w) : Makes .word w := by
  obtain ⟨c, cs, rfl⟩ := List.exists_cons_of_ne_nil h.ne
  have code := code_of_bare (h.chars c List.mem_cons_self)
  have noDigit := h.first c rfl
  have letter : opensWord c = true := by
    have bare := h.chars c List.mem_cons_self
    simp only [Char.isAlphanum, noDigit, Bool.or_false, Bool.or_eq_true] at bare
    simp only [opensWord, Bool.or_eq_true]
    exact .inl bare
  refine ⟨h.ne, fun d hd => isVisible_of_code (code_of_bare (h.chars d hd)), fun rest ends => ?_⟩
  have is : ∀ d : Char, c = d ↔ c.toNat = d.toNat := fun d => Char.toNat_inj.symm
  have quote : ¬ (cs ++ rest).head? = some '\'' := by
    intro head
    cases cs with
    | nil =>
      have mark := ends '\'' head
      simp at mark
    | cons d cs =>
      cases head
      have bare := h.chars '\'' (by simp)
      cases bare
  rw [List.cons_append, Token.first, if_neg, if_neg, if_neg, if_neg, if_pos letter]
  · rw [takeWhile_isWordChar cs (fun d hd => isWordChar_of_bare (h.chars d (List.mem_cons_of_mem _ hd))) ends,
      List.length_cons, Nat.add_comm]
  · rw [decide_eq_false quote, Bool.and_false]
    exact Bool.false_ne_true
  · simp only [noDigit, is, Char.reduceToNat]
    simp
    omega
  · simp only [is, Char.reduceToNat]
    omega
  · simp only [is, Char.reduceToNat, Bool.or_eq_true, decide_eq_true_eq]
    omega

/-! ## Numbers, placeholders and symbols -/

theorem isVisible_of_isDigit {c : Char} (h : c.isDigit = true) : IsVisible c :=
  isVisible_of_code (.inl (Char.isDigit_iff_toNat.mp h))

theorem takeWhile_isDigit (ds : List Char) {rest : List Char} (digits : ∀ c ∈ ds, c.isDigit = true)
    (ends : EndsToken rest) : (ds ++ rest).takeWhile Char.isDigit = ds := by
  rw [List.takeWhile_append_of_pos digits]
  cases rest with
  | nil => rw [List.takeWhile_nil, List.append_nil]
  | cons c rest =>
    have stops : ¬ c.isDigit = true := by
      rcases ends c rfl with rfl | rfl <;> decide
    rw [List.takeWhile_cons_of_neg stops, List.append_nil]

/-- Digits have neither a point nor an exponent nor letters behind them. -/
theorem decimal_of_isDigit {ds rest : List Char} (digits : ∀ c ∈ ds, c.isDigit = true)
    (ends : EndsToken rest) : decimal (ds ++ rest) = (.integer, ds.length) := by
  have letters : rest.takeWhile isWordChar = [] := takeWhile_isWordChar [] nofun ends
  have exponent : exponentLength rest = 0 := by
    rcases rest with - | ⟨c, - | ⟨d, rest⟩⟩
    · rfl
    · rfl
    · rcases ends c rfl with rfl | rfl <;> rfl
  have point : ∀ cs, rest ≠ '.' :: cs := by
    rintro cs rfl
    have mark := ends '.' rfl
    simp at mark
  rw [decimal]
  simp only [takeWhile_isDigit ds digits ends, List.drop_left, Nat.add_zero, exponent, letters,
    List.length_nil, Nat.lt_irrefl, if_false, if_true]

/-- Digits with no character of a number behind them are an integer. -/
theorem number_of_isDigit {ds rest : List Char} (digits : ∀ c ∈ ds, c.isDigit = true) (ne : ds ≠ [])
    (ends : EndsToken rest) : number (ds ++ rest) = (.integer, ds.length) := by
  rw [← decimal_of_isDigit digits ends]
  obtain ⟨c, cs, rfl⟩ := List.exists_cons_of_ne_nil ne
  rw [List.forall_mem_cons] at digits
  unfold number
  split
  case h_1 x d others heq =>
    -- behind the first digit stands a digit, or what ends the number
    have second : x ≠ 'x' ∧ x ≠ 'X' := by
      obtain ⟨-, tail⟩ := List.cons.inj heq
      cases cs with
      | nil =>
        rcases ends x (by rw [show rest = x :: d :: others from tail]; rfl) with rfl | rfl <;> decide
      | cons e cs =>
        obtain ⟨rfl, -⟩ := List.cons.inj (show e :: (cs ++ rest) = x :: d :: others from tail)
        have digit := digits.2 e List.mem_cons_self
        constructor <;> (rintro rfl; cases digit)
    rw [if_neg]
    simp [second]
  case h_2 => rfl

theorem makes_integer (n : Nat) : Makes .integer (Nat.toDigits 10 n) := by
  have digits : ∀ c ∈ Nat.toDigits 10 n, c.isDigit = true := fun c => isDigit_of_mem_toDigits
  obtain ⟨c, cs, heq⟩ := List.exists_cons_of_ne_nil (Nat.toDigits_ne_nil (n := n) (b := 10))
  rw [heq] at digits ⊢
  have digit := digits c List.mem_cons_self
  have code : 48 ≤ c.toNat ∧ c.toNat ≤ 57 := Char.isDigit_iff_toNat.mp digit
  refine ⟨List.cons_ne_nil _ _, fun d hd => isVisible_of_isDigit (digits d hd), fun rest ends => ?_⟩
  · have is : ∀ d : Char, c = d ↔ c.toNat = d.toNat := fun d => Char.toNat_inj.symm
    rw [List.cons_append, Token.first, if_neg, if_neg, if_pos, ← List.cons_append,
      number_of_isDigit digits (List.cons_ne_nil _ _) ends]
    · rw [digit, Bool.true_or]
    · simp only [is, Char.reduceToNat]
      omega
    · simp only [is, Char.reduceToNat, Bool.or_eq_true, decide_eq_true_eq]
      omega

/-- Digits are the name of a parameter. -/
theorem parameterName_of_isDigit {ds rest : List Char} (digits : ∀ c ∈ ds, c.isDigit = true)
    (ends : EndsToken rest) (n : Nat) (some_ : n ≠ 0 ∨ ds ≠ []) :
    parameterName n (ds ++ rest) = (.parameter 0, ds.length) := by
  induction ds generalizing n with
  | nil =>
    have before : n ≠ 0 := some_.resolve_right (fun ne => ne rfl)
    cases rest with
    | nil => rw [List.nil_append, parameterName, if_neg before]; rfl
    | cons c rest =>
      rcases ends c rfl with rfl | rfl <;>
      · show (if n = 0 then TokenKind.illegal else .parameter 0, 0) = _
        rw [if_neg before]
        rfl
  | cons c cs ih =>
    rw [List.forall_mem_cons] at digits
    have code : 48 ≤ c.toNat ∧ c.toNat ≤ 57 := Char.isDigit_iff_toNat.mp digits.1
    have inside : isWordChar c = true := by simp [isWordChar, digits.1]
    have is : ∀ d : Char, c = d ↔ c.toNat = d.toNat := fun d => Char.toNat_inj.symm
    have bracket : c ≠ '(' := by
      rw [Ne, is]
      simp
      omega
    have colon : c ≠ ':' := by
      rw [Ne, is]
      simp
      omega
    rw [List.cons_append, parameterName]
    · rw [if_pos inside, ih digits.2 (n + 1) (.inl (Nat.succ_ne_zero n))]
      rfl
    · exact bracket
    · intro ds h
      exact absurd h colon

theorem isVisible_of_symbol {c : Char} (h : c = '*' ∨ c = '=' ∨ c = ',' ∨ c = '?' ∨ c = '$') :
    IsVisible c := by
  rcases h with rfl | rfl | rfl | rfl | rfl <;> exact ⟨by decide, by decide, by decide, by decide⟩

theorem makes_parameter (style : Placeholder) (n : Nat) :
    Makes (.parameter 0) (Statement.placeholderText style n).toList := by
  cases style with
  | question =>
    have text : (Statement.placeholderText .question n).toList = ['?'] := by
      simp [Statement.placeholderText]
    rw [text]
    refine ⟨List.cons_ne_nil _ _, List.forall_mem_singleton.mpr ?_, fun rest ends => ?_⟩
    · exact isVisible_of_symbol (.inr (.inr (.inr (.inl rfl))))
    have digits : rest.takeWhile Char.isDigit = [] := takeWhile_isDigit [] nofun ends
    show (TokenKind.parameter 0, 1 + (rest.takeWhile Char.isDigit).length) = _
    rw [digits]
    rfl
  | dollar =>
    have text : (Statement.placeholderText .dollar n).toList = '$' :: Nat.toDigits 10 n := by
      simp [Statement.placeholderText]
    rw [text]
    refine ⟨List.cons_ne_nil _ _, List.forall_mem_cons.mpr ⟨?_, fun c hc => ?_⟩, fun rest ends => ?_⟩
    · exact isVisible_of_symbol (.inr (.inr (.inr (.inr rfl))))
    · exact isVisible_of_isDigit (isDigit_of_mem_toDigits hc)
    have name := parameterName_of_isDigit (fun c => isDigit_of_mem_toDigits) ends 0
      (.inr (Nat.toDigits_ne_nil (n := n) (b := 10)))
    show namedParameter (Nat.toDigits 10 n ++ rest) = _
    rw [namedParameter, name]
    rfl

/-- A star, an equality sign and a comma. -/
theorem makes_symbol {c : Char} (h : c = '*' ∨ c = '=' ∨ c = ',') : Makes .symbol [c] := by
  refine ⟨List.cons_ne_nil _ _, List.forall_mem_singleton.mpr ?_, fun rest ends => ?_⟩
  · rcases h with rfl | rfl | rfl <;> exact isVisible_of_symbol (by simp)
  · rcases rest with - | ⟨d, rest⟩
    · rcases h with rfl | rfl | rfl <;> simp [Token.first, opensWord, pairs, Char.isAlpha]
    · rcases ends d rfl with rfl | rfl <;> rcases h with rfl | rfl | rfl <;>
        simp [Token.first, opensWord, pairs]

end Token

end NameQuery.Sql
