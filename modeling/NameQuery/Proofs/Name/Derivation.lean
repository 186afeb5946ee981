import NameQuery.Proofs.Name.Rules

/-!
# The grammar of finder names

The words of a finder name derive from the grammar

```text
call  ::= field* chain?
chain ::= all chain? | one chain? | by field* chain?
        | and | and chain | and field any*
        | ordered by chain | ordered by field any*
```

in which a field is any word but the five keywords, and `any*` any words at all (`Call`, `Chain`).
The grammar knows nothing of places, clauses or failures.

What is proved: a reading succeeds exactly on the words that derive, from whatever clauses it
starts. Where the words do not derive, there is one first place at which every derivation gets stuck
(`FirstStuck`): the words before it begin a call, and they begin none together with the word that
stands there, or they are no call and no word is left. The failure names the rule that was entered
last: a field after `all` or `one` is an unknown continuation, and `ordered` without `by`, or
without a word after `by`, is a malformed order (`Stuck`).

`Reached` says which words bring a derivation to which place. What is left to derive from there on
depends on the place alone (`call_append_iff`), and so does the rest of the reading, from the clauses
that they left (`readWords_append`); the two facts carry both directions.
-/

set_option autoImplicit false

namespace NameQuery.Name

/-! ## The grammar -/

mutual
/-- A keyword and what its rule derives. -/
inductive Chain : List String → Prop
  | all {ws : List String} (rest : Continuation ws) : Chain (Keyword.all.word :: ws)
  | one {ws : List String} (rest : Continuation ws) : Chain (Keyword.one.word :: ws)
  | by {fields ws : List String} (named : ∀ w ∈ fields, IsField w) (rest : Continuation ws) :
      Chain (Keyword.by.word :: (fields ++ ws))
  | and {ws : List String} (rest : Continuation ws) : Chain (Keyword.and.word :: ws)
  | andField {w : String} (ignored : List String) (named : IsField w) :
      Chain (Keyword.and.word :: w :: ignored)
  | orderedBy {ws : List String} (rest : Chain ws) :
      Chain (Keyword.ordered.word :: Keyword.by.word :: ws)
  | orderedByField {w : String} (ignored : List String) (named : IsField w) :
      Chain (Keyword.ordered.word :: Keyword.by.word :: w :: ignored)
/-- A chain or nothing. -/
inductive Continuation : List String → Prop
  | none : Continuation []
  | some {ws : List String} (chain : Chain ws) : Continuation ws
end

/-- The words of a finder name: columns, then a chain or nothing. -/
inductive Call : List String → Prop
  | mk {fields ws : List String} (named : ∀ w ∈ fields, IsField w) (rest : Continuation ws) :
      Call (fields ++ ws)

/-! ## How derivations begin -/

/-- A chain opens with a keyword. -/
theorem Chain.exists_keyword {w : String} {ws : List String} (h : Chain (w :: ws)) :
    ∃ k : Keyword, w = k.word := by
  cases h with
  | all => exact ⟨.all, rfl⟩
  | one => exact ⟨.one, rfl⟩
  | «by» => exact ⟨.by, rfl⟩
  | and | andField => exact ⟨.and, rfl⟩
  | orderedBy | orderedByField => exact ⟨.ordered, rfl⟩

theorem not_chain_nil : ¬ Chain [] := nofun

/-- A continuation that has words is a chain. -/
theorem continuation_cons_iff {w : String} {ws : List String} :
    Continuation (w :: ws) ↔ Chain (w :: ws) :=
  ⟨fun h => by cases h; assumption, .some⟩

/-- A continuation does not open with a field. -/
theorem not_continuation_field {w : String} {ws : List String} (h : IsField w) :
    ¬ Continuation (w :: ws) := fun hc => by
  obtain ⟨k, rfl⟩ := (continuation_cons_iff.mp hc).exists_keyword
  exact not_isField_word k h

/-- Behind `all` and `one` stands a continuation. -/
theorem chain_every_iff {k : Keyword} {ws : List String} (hk : k = .all ∨ k = .one) :
    Chain (k.word :: ws) ↔ Continuation ws := by
  constructor
  · intro h
    generalize hv : k.word :: ws = v at h
    cases h <;> injection hv with hw hws <;> cases Keyword.word_injective hw <;> simp_all
  · intro h
    rcases hk with rfl | rfl
    · exact .all h
    · exact .one h

/-- Behind `by` stands a call. -/
theorem chain_by_iff {ws : List String} : Chain (Keyword.by.word :: ws) ↔ Call ws := by
  constructor
  · intro h
    generalize hv : Keyword.by.word :: ws = v at h
    cases h <;> injection hv with hw hws <;> cases Keyword.word_injective hw
    next named rest => exact hws ▸ .mk named rest
  · rintro ⟨named, rest⟩
    exact .by named rest

/-- Behind `and` stands a continuation, or a field and words that are ignored. -/
theorem chain_and_iff {ws : List String} : Chain (Keyword.and.word :: ws) ↔
    Continuation ws ∨ ∃ w ignored, ws = w :: ignored ∧ IsField w := by
  constructor
  · intro h
    generalize hv : Keyword.and.word :: ws = v at h
    cases h <;> injection hv with hw hws <;> cases Keyword.word_injective hw
    next rest => exact .inl (hws ▸ rest)
    next w ignored named => exact .inr ⟨w, ignored, hws, named⟩
  · rintro (rest | ⟨w, ignored, rfl, named⟩)
    · exact .and rest
    · exact .andField ignored named

/-- Behind `ordered` stands `by`, and behind it a chain, or a field and words that are ignored. -/
theorem chain_ordered_iff {ws : List String} : Chain (Keyword.ordered.word :: ws) ↔
    ∃ w rest, ws = Keyword.by.word :: w :: rest ∧ (Chain (w :: rest) ∨ IsField w) := by
  constructor
  · intro h
    generalize hv : Keyword.ordered.word :: ws = v at h
    cases h <;> injection hv with hw hws <;> cases Keyword.word_injective hw
    next vs chain =>
      cases vs with
      | nil => exact absurd chain not_chain_nil
      | cons w rest => exact ⟨w, rest, hws, .inl chain⟩
    next w ignored named => exact ⟨w, ignored, hws, .inr named⟩
  · rintro ⟨w, rest, rfl, chain | named⟩
    · exact .orderedBy chain
    · exact .orderedByField rest named

/-- What a continuation derives is a call without columns. -/
theorem call_of_continuation {ws : List String} (h : Continuation ws) : Call ws :=
  List.nil_append ws ▸ Call.mk (fun _ hw => absurd hw List.not_mem_nil) h

theorem call_nil : Call [] := call_of_continuation .none

/-- A field before a call leaves it a call. -/
theorem call_field_iff {w : String} {ws : List String} (h : IsField w) : Call (w :: ws) ↔ Call ws := by
  constructor
  · intro hc
    generalize hv : w :: ws = v at hc
    obtain ⟨named, rest⟩ := hc
    rename_i fields ws'
    cases fields with
    | nil =>
      rw [List.nil_append] at hv
      exact absurd (hv ▸ rest) (not_continuation_field h)
    | cons f fs =>
      injection hv with _ hws
      exact hws ▸ .mk (fun w hw => named w (List.mem_cons_of_mem _ hw)) rest
  · rintro ⟨named, rest⟩
    rw [← List.cons_append]
    exact .mk (fun v hv => (List.mem_cons.mp hv).elim (fun e => e ▸ h) (named v)) rest

/-- A call that opens with a keyword is a chain. -/
theorem call_keyword_iff {k : Keyword} {ws : List String} :
    Call (k.word :: ws) ↔ Chain (k.word :: ws) := by
  constructor
  · intro hc
    generalize hv : k.word :: ws = v at hc
    obtain ⟨named, rest⟩ := hc
    rename_i fields ws'
    cases fields with
    | nil =>
      rw [List.nil_append] at hv
      subst hv
      exact continuation_cons_iff.mp rest
    | cons f fs =>
      injection hv with hf _
      exact absurd (hf ▸ named f List.mem_cons_self) (not_isField_word k)
  · intro h
    exact call_of_continuation (.some h)

/-! ## Places -/

/-- What the words from a place on have to derive. -/
def Derives : Place → List String → Prop
  | .columns, ws => Call ws
  | .under k, ws => Chain (k.word :: ws)

/-- The words bring a derivation to a place: each is consumed by a rule, fields before the first
keyword and under `by`, a keyword anywhere but directly after `ordered`. -/
inductive Reached : List String → Place → Prop
  | start : Reached [] .columns
  | column {ws : List String} {w : String} (before : Reached ws .columns) (named : IsField w) :
      Reached (ws ++ [w]) .columns
  | predicate {ws : List String} {w : String} (before : Reached ws (.under .by))
      (named : IsField w) : Reached (ws ++ [w]) (.under .by)
  | keyword {ws : List String} {p : Place} (before : Reached ws p) (free : p ≠ .under .ordered)
      (k : Keyword) : Reached (ws ++ [k.word]) (.under k)
  | orderKeyword {ws : List String} (before : Reached ws (.under .ordered)) (k : Keyword) :
      Reached (ws ++ [Keyword.by.word, k.word]) (.under k)

theorem derives_nil {p : Place} (h : p ≠ .under .ordered) : Derives p [] := by
  cases p with
  | columns => exact call_nil
  | under k =>
    cases k with
    | all => exact .all .none
    | one => exact .one .none
    | «by» => exact chain_by_iff.mpr call_nil
    | and => exact .and .none
    | ordered => exact absurd rfl h

/-- A keyword hands over to the place of its rule. -/
theorem derives_keyword_iff {p : Place} {k : Keyword} {ws : List String}
    (h : p ≠ .under .ordered) : Derives p (k.word :: ws) ↔ Derives (.under k) ws := by
  cases p with
  | columns => exact call_keyword_iff
  | under l =>
    cases l with
    | all => exact (chain_every_iff (.inl rfl)).trans continuation_cons_iff
    | one => exact (chain_every_iff (.inr rfl)).trans continuation_cons_iff
    | «by» => exact chain_by_iff.trans call_keyword_iff
    | and =>
      refine chain_and_iff.trans ⟨?_, fun hc => .inl (.some hc)⟩
      rintro (rest | ⟨w, ignored, heq, named⟩)
      · exact continuation_cons_iff.mp rest
      · injection heq with hw _
        exact absurd (hw ▸ named) (not_isField_word k)
    | ordered => exact absurd rfl h

/-- A keyword behind `ordered by` hands over to the place of its rule. -/
theorem derives_orderKeyword_iff {k : Keyword} {ws : List String} :
    Derives (.under .ordered) (Keyword.by.word :: k.word :: ws) ↔ Derives (.under k) ws := by
  refine chain_ordered_iff.trans ⟨?_, fun hc => ⟨_, _, rfl, .inl hc⟩⟩
  rintro ⟨w, rest, heq, chain | named⟩
  · injection heq with _ heq
    rw [← heq] at chain
    exact chain
  · injection heq with _ heq
    injection heq with hw _
    exact absurd (hw ▸ named) (not_isField_word k)

/-- A field may not follow `all` and `one`. -/
theorem not_derives_field {p : Place} {w : String} {ws : List String} (needs : p.NeedsKeyword)
    (h : IsField w) : ¬ Derives p (w :: ws) := by
  rcases needs with rfl | rfl
  · exact fun hc => not_continuation_field h ((chain_every_iff (.inl rfl)).mp hc)
  · exact fun hc => not_continuation_field h ((chain_every_iff (.inr rfl)).mp hc)

/-- What is left to derive after some words depends on the place alone that they lead to. -/
theorem call_append_iff {ws : List String} {p : Place} (h : Reached ws p) :
    ∀ rest, Call (ws ++ rest) ↔ Derives p rest := by
  induction h with
  | start => exact fun _ => Iff.rfl
  | column _ named ih =>
    intro rest
    rw [List.append_assoc, ih]
    exact call_field_iff named
  | predicate _ named ih =>
    intro rest
    rw [List.append_assoc, ih]
    exact chain_by_iff.trans ((call_field_iff named).trans chain_by_iff.symm)
  | keyword _ free k ih =>
    intro rest
    rw [List.append_assoc, ih]
    exact derives_keyword_iff free
  | orderKeyword _ k ih =>
    intro rest
    rw [List.append_assoc, ih]
    exact derives_orderKeyword_iff

/-! ## Where a derivation gets stuck -/

/-- Some call begins with these words. -/
def BeginsCall (ws : List String) : Prop := ∃ more, Call (ws ++ more)

/-- The words `before` begin a call, and with the next word of `rest` they begin none; where no word
is left, they are no call themselves. -/
def FirstStuck (before : List String) : List String → Prop
  | [] => BeginsCall before ∧ ¬ Call before
  | w :: _ => BeginsCall before ∧ ¬ BeginsCall (before ++ [w])

/-- The consumed words `before` cannot be continued by `rest`, and the failure that says why. -/
inductive Stuck : List String → List String → Failure → Prop
  /-- A field stands directly after an `all` or `one` that a rule consumed. -/
  | unknown {before : List String} {p : Place} {w : String} (rest : List String)
      (reached : Reached before p) (needs : p.NeedsKeyword) (field : IsField w) :
      Stuck before (w :: rest) (.unknownContinuation w)
  /-- An `ordered` that a rule consumed is not followed by `by`. -/
  | notBy {before rest : List String} (reached : Reached before (.under .ordered))
      (other : rest.head? ≠ some Keyword.by.word) : Stuck before rest .malformedOrder
  /-- The words end in an `ordered` that a rule consumed and `by`. -/
  | ended {before : List String} (reached : Reached before (.under .ordered)) :
      Stuck (before ++ [Keyword.by.word]) [] .malformedOrder

/-- Words that lead to a place begin a call. -/
theorem beginsCall_of_reached {ws : List String} {p : Place} (h : Reached ws p) : BeginsCall ws := by
  by_cases hp : p = .under .ordered
  · subst hp
    refine ⟨[Keyword.by.word, Keyword.all.word], (call_append_iff h _).mpr ?_⟩
    exact derives_orderKeyword_iff.mpr (derives_nil (by decide))
  · exact ⟨[], (call_append_iff h _).mpr (derives_nil hp)⟩

/-- Stuck words go on to no call, whatever stands behind the word they are stuck at. -/
theorem firstStuck_of_stuck {before rest : List String} {e : Failure} (h : Stuck before rest e) :
    FirstStuck before rest := by
  cases h with
  | unknown rest reached needs field =>
    refine ⟨beginsCall_of_reached reached, ?_⟩
    rintro ⟨more, hc⟩
    rw [List.append_assoc, call_append_iff reached] at hc
    exact not_derives_field needs field hc
  | notBy reached other =>
    cases rest with
    | nil =>
      refine ⟨beginsCall_of_reached reached, fun hc => ?_⟩
      rw [← List.append_nil before, call_append_iff reached] at hc
      obtain ⟨_, _, heq, _⟩ := chain_ordered_iff.mp hc
      cases heq
    | cons w rest =>
      refine ⟨beginsCall_of_reached reached, ?_⟩
      rintro ⟨more, hc⟩
      rw [List.append_assoc, call_append_iff reached] at hc
      obtain ⟨_, _, heq, _⟩ := chain_ordered_iff.mp hc
      injection heq with hw _
      exact other (congrArg some hw)
  | @ended ws reached =>
    have all : Reached (ws ++ [Keyword.by.word, Keyword.all.word]) (.under .all) :=
      .orderKeyword reached .all
    obtain ⟨more, hc⟩ := beginsCall_of_reached all
    refine ⟨⟨Keyword.all.word :: more, by simpa using hc⟩, fun hc => ?_⟩
    obtain ⟨_, _, heq, _⟩ := chain_ordered_iff.mp ((call_append_iff reached _).mp hc)
    injection heq with _ hnil
    cases hnil

/-- Words that begin a call begin it with every part from their start. -/
theorem BeginsCall.of_append {ws more : List String} (h : BeginsCall (ws ++ more)) :
    BeginsCall ws := by
  obtain ⟨rest, hc⟩ := h
  exact ⟨more ++ rest, by rwa [← List.append_assoc]⟩

/-- Words that get stuck are no call. -/
theorem FirstStuck.not_call {before rest : List String} (h : FirstStuck before rest) :
    ¬ Call (before ++ rest) := by
  cases rest with
  | nil => exact fun hc => h.2 (by rwa [List.append_nil] at hc)
  | cons w rest => exact fun hc => h.2 ⟨rest, by simpa using hc⟩

/-- Words get stuck at one place only. -/
theorem FirstStuck.unique {before rest before' rest' : List String} (h : FirstStuck before rest)
    (h' : FirstStuck before' rest') (heq : before ++ rest = before' ++ rest') :
    before = before' ∧ rest = rest' := by
  -- of two places the earlier one would lie inside words that begin a call
  have behind : ∀ {b more r : List String}, FirstStuck b (more ++ r) → BeginsCall (b ++ more) →
      more = [] := by
    intro b more r hb hbegins
    cases more with
    | nil => rfl
    | cons w more =>
      rw [List.append_cons] at hbegins
      exact absurd hbegins.of_append hb.2
  have begins : ∀ {b r : List String}, FirstStuck b r → BeginsCall b := by
    intro b r hb
    cases r <;> exact hb.1
  rcases List.append_eq_append_iff.mp heq with ⟨more, rfl, rfl⟩ | ⟨more, rfl, rfl⟩
  · have := behind h (begins h')
    simp [this]
  · have := behind h' (begins h)
    simp [this]

/-! ## Readings -/

/-- The rest of a reading comes to what a reading does from the place to which the words before lead, from the
clauses that they left. -/
theorem readWords_append {ws : List String} {p : Place} (h : Reached ws p) (c : Clauses) :
    ∃ d, ∀ rest, (readWords (ws ++ rest) c).result = (read p rest d).result := by
  induction h with
  | start => exact ⟨c, fun _ => rfl⟩
  | @column _ w _ named ih =>
    obtain ⟨d, hd⟩ := ih
    refine ⟨d.addColumn w, fun rest => ?_⟩
    rw [List.append_assoc, List.singleton_append, hd, (Reads.column named (reads_read ..)).read_eq]
  | @predicate _ w _ named ih =>
    obtain ⟨d, hd⟩ := ih
    refine ⟨d.addPredicate w, fun rest => ?_⟩
    rw [List.append_assoc, List.singleton_append, hd, (Reads.predicate named (reads_read ..)).read_eq]
  | @keyword _ p _ free k ih =>
    obtain ⟨d, hd⟩ := ih
    refine ⟨p.enter d, fun rest => ?_⟩
    rw [List.append_assoc, List.singleton_append, hd, read_keyword free, Outcome.result_after]
  | orderKeyword _ k ih =>
    obtain ⟨d, hd⟩ := ih
    refine ⟨d, fun rest => ?_⟩
    rw [List.append_assoc, List.cons_append, List.singleton_append, hd,
      (Reads.orderKeyword (reads_read ..)).read_eq, Outcome.result_after]

/-- So it fails as that reading does. -/
theorem readWords_append_failure {ws : List String} {p : Place} (h : Reached ws p)
    (c : Clauses) : ∃ d, ∀ rest, (readWords (ws ++ rest) c).failure = (read p rest d).failure := by
  obtain ⟨d, hd⟩ := readWords_append h c
  exact ⟨d, fun rest => congrArg Prod.snd (hd rest)⟩

/-- A reading that gets through derives its words. -/
theorem derives_of_reads {p : Place} {ws : List String} {c : Clauses} {o : Outcome}
    (h : Reads p ws c o) (ok : o.failure = none) : Derives p ws := by
  induction h with
  | ends free => exact derives_nil free
  | keyword free _ ih => exact (derives_keyword_iff free).mpr (ih ok)
  | column named _ ih => exact (call_field_iff named).mpr (ih ok)
  | predicate named _ ih =>
    exact chain_by_iff.mpr ((call_field_iff named).mpr (chain_by_iff.mp (ih ok)))
  | lastPredicate named => exact .andField _ named
  | unknown | malformed => cases ok
  | orderKeyword _ ih => exact derives_orderKeyword_iff.mpr (ih ok)
  | orderField named => exact .orderedByField _ named

/-- A reading that fails gets stuck at a place that the words before lead to. -/
theorem stuck_of_reads {p : Place} {ws : List String} {c : Clauses} {o : Outcome} {e : Failure}
    (h : Reads p ws c o) (failed : o.failure = some e) :
    ∀ {read : List String}, Reached read p →
      ∃ before rest, read ++ ws = before ++ rest ∧ Stuck before rest e := by
  induction h with
  | ends | lastPredicate | orderField => cases failed
  | @keyword _ k _ _ _ free _ ih =>
    intro read reached
    simpa using ih failed (.keyword reached free k)
  | column named _ ih =>
    intro read reached
    simpa using ih failed (.column reached named)
  | predicate named _ ih =>
    intro read reached
    simpa using ih failed (.predicate reached named)
  | @orderKeyword k _ _ _ _ ih =>
    intro read reached
    simpa using ih failed (.orderKeyword reached k)
  | unknown needs named =>
    intro read reached
    cases failed
    exact ⟨read, _, rfl, .unknown _ reached needs named⟩
  | @malformed ws c short =>
    intro read reached
    cases failed
    by_cases hby : ws.head? = some Keyword.by.word
    · obtain ⟨rest, rfl⟩ := List.head?_eq_some_iff.mp hby
      cases rest with
      | nil => exact ⟨read ++ [Keyword.by.word], [], by simp, .ended reached⟩
      | cons w rest => exact absurd rfl (short w rest)
    · exact ⟨read, ws, rfl, .notBy reached hby⟩

/-- Stuck words are not read, and the failure is the one that they are stuck with. -/
theorem failure_of_stuck {before rest : List String} {e : Failure} (h : Stuck before rest e)
    (c : Clauses) : (readWords (before ++ rest) c).failure = some e := by
  cases h with
  | unknown rest reached needs field =>
    obtain ⟨d, hd⟩ := readWords_append_failure reached c
    rw [hd, (Reads.unknown needs field).read_eq, Outcome.failed_failure]
  | notBy reached other =>
    obtain ⟨d, hd⟩ := readWords_append_failure reached c
    have short : ∀ w ws, rest ≠ Keyword.by.word :: w :: ws := fun w ws hr => other (by rw [hr]; rfl)
    rw [hd, (Reads.malformed short).read_eq, Outcome.failed_failure]
  | ended reached =>
    obtain ⟨d, hd⟩ := readWords_append_failure reached c
    rw [List.append_nil, hd, (Reads.malformed (by simp)).read_eq, Outcome.failed_failure]

/-- **A reading succeeds exactly on the words that derive from the grammar**, whatever clauses it
starts from. Words that do not derive get stuck at one place, the first at which no call goes on as
they do, and the failure is what the rule consumed last says of that place; the grammar raises no
failure but these two. -/
theorem readWords_derives_or_sticks (ws : List String) (c : Clauses) :
    ((readWords ws c).failure = none ↔ Call ws) ∧
    (∀ e, (readWords ws c).failure = some e ↔
      ∃ before rest, ws = before ++ rest ∧ FirstStuck before rest ∧ Stuck before rest e) ∧
    (∀ before rest before' rest', ws = before ++ rest → ws = before' ++ rest' →
      FirstStuck before rest → FirstStuck before' rest' → before = before' ∧ rest = rest') ∧
    (∀ e, (readWords ws c).failure = some e →
      (∃ w, e = .unknownContinuation w) ∨ e = .malformedOrder) := by
  have reads : Reads .columns ws c (readWords ws c) := reads_read .columns ws c
  have sticks : ∀ e, (readWords ws c).failure = some e →
      ∃ before rest, ws = before ++ rest ∧ Stuck before rest e :=
    fun e he => stuck_of_reads reads he .start
  refine ⟨⟨derives_of_reads reads, fun call => ?_⟩, fun e => ⟨fun he => ?_, ?_⟩, ?_, fun e he => ?_⟩
  · cases he : (readWords ws c).failure with
    | none => rfl
    | some e =>
      obtain ⟨before, rest, rfl, stuck⟩ := sticks e he
      exact absurd call (firstStuck_of_stuck stuck).not_call
  · obtain ⟨before, rest, heq, stuck⟩ := sticks e he
    exact ⟨before, rest, heq, firstStuck_of_stuck stuck, stuck⟩
  · rintro ⟨before, rest, rfl, -, stuck⟩
    exact failure_of_stuck stuck c
  · intro before rest before' rest' heq heq' h h'
    exact h.unique h' (heq ▸ heq')
  · obtain ⟨before, rest, -, stuck⟩ := sticks e he
    cases stuck with
    | @unknown _ _ w => exact .inl ⟨w, rfl⟩
    | notBy | ended => exact .inr rfl

/-- The order of the rules is free: an order without a field may go on to the next keyword. -/
example : (readWords ["ordered", "by", "ordered", "by", "and", "one"] {}).failure = none := by
  decide

end NameQuery.Name
