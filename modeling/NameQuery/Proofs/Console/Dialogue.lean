import NameQuery.Console.Program
import NameQuery.Proofs.Console.Actions
import NameQuery.Proofs.Console.Lines
import NameQuery.Proofs.Text.Trimmed

/-!
# Dialogues line by line

A dialogue that reads some lines shows its greeting, a reply to each line up to one of the four words that end it,
and its farewell (`Program.run_repl_replies`). What is decided here is that a reply is told by the trimmed line
alone (`Dialogue.reply`): lines before it leave nothing behind that counts for it, neither arguments nor clauses
nor a failure, also where the text of a query is refused after its descriptor has been shown.

A line does not tell the times in its log lines. So what a reply shows to the side is kept as notes, and its text
is a function of the notes and a clock: with the clock at another time the messages are the same, and so are the
log lines from their times on. A program that keeps no log shows the same text under every clock.

The reply to a name with its arguments shows the descriptor that a run of the program shows that compiles them, or
the same message (`Program.Agrees`). The two come to the name and the arguments in different ways: a line is cut
at blank characters, whatever they are and however many (`Text.Spaced`).
-/

set_option autoImplicit false

namespace NameQuery

namespace Dialogue

/-! ## The reply to a line -/

/-- A line as it counts, without blank characters at its ends. -/
def trim (line : String) : String := String.ofList (Text.trimmed line.toList)

def lineWords (line : String) : List String := (Text.words line.toList).map String.ofList

/-- The lines that end a dialogue. -/
def leaving : List String := [".exit", ".quit", "exit", "quit"]

/-- The lines that ask for the reference. -/
def asking : List String := [".help", "help"]

/-- What follows the descriptor of a query: its text over the table of records, or why there is none. -/
def sqlReply (q : Query) : Transcript :=
  match q.sql .question "records" with
  | .ok sql => { out := s!"→ {sql}\n" ++ "\n" }
  | .error why => { out := "\n", err := [.message s!"✗ {why.message}\n"] }

/-- The reply to a name with its arguments, after its log: a descriptor and what follows it, or why there is
none. -/
def nameReply (log : Verbosity) (name : String) (args : List String) : Transcript :=
  let compilation := Query.compilation name (args.map Value.ofArgument)
  { err := log.notes compilation.events } ++
    match compilation.result with
    | .ok q => { out := Report.query q .table } ++ sqlReply q
    | .error why => { err := [.message s!"✗ {why.message}\n"] }

/-- The reply to a trimmed line that does not end the dialogue. -/
def reply (log : Verbosity) (line : String) : Transcript :=
  if line ∈ asking then { out := Reference.page }
  else
    match lineWords line with
    | [] => {}
    | name :: args => nameReply log name args

/-- The replies to the lines of a dialogue, up to the one that ends it. -/
def replies (log : Verbosity) (lines : List String) : List Transcript :=
  ((lines.map trim).takeWhile (· ∉ leaving)).map (reply log)

open NameQuery.Action

/-- A complaint is the message of a failure, to the side. -/
theorem ends_complain (why : Failure) :
    Ends (complain why) (.ok ()) { err := [.message s!"✗ {why.message}\n"] } :=
  ends_note _

/-- The answer to a query is its descriptor, and its SQL text or a complaint. -/
theorem ends_answerQuery (q : Query) :
    Ends (answerQuery q) (.ok ()) ({ out := Report.query q .table } ++ sqlReply q) := by
  unfold answerQuery sqlReply
  refine (ends_say _).bind ?_
  cases q.sql .question "records" with
  | ok sql =>
    have parts : ({ out := s!"→ {sql}\n" ++ "\n" } : Transcript) =
        { out := s!"→ {sql}\n" } ++ { out := "\n" } :=
      rfl
    dsimp only
    rw [parts]
    exact (ends_say _).bind (ends_say _)
  | error why =>
    have parts : ({ out := "\n", err := [.message s!"✗ {why.message}\n"] } : Transcript) =
        { err := [.message s!"✗ {why.message}\n"] } ++ { out := "\n" } :=
      Transcript.ext (by simp) rfl
    dsimp only
    rw [parts]
    exact (ends_complain why).bind (ends_say _)

/-- The answer to a name is the reply to it, which breaks nothing off. -/
theorem ends_answerName (log : Verbosity) (name : String) (args : List String) :
    Ends (answerName log name args) (.ok ()) (nameReply log name args) := by
  unfold answerName nameReply
  refine (ends_notes _).bind ?_
  cases (Query.compilation name (args.map Value.ofArgument)).result with
  | ok q => exact ends_answerQuery q
  | error why => exact ends_complain why

/-! ## What a line asks for -/

/-- Blank characters at the ends of a line make no words. -/
theorem lineWords_trim (line : String) : lineWords (trim line) = lineWords line := by
  rw [lineWords, trim, String.toList_ofList, Text.words_trimmed]
  rfl

/-- A line has a single word exactly if trimming leaves this word. -/
theorem lineWords_eq_singleton_iff {line word : String} (hw : Text.IsWord word.toList) :
    lineWords line = [word] ↔ trim line = word := by
  rw [lineWords, List.map_eq_singleton_iff, trim, ← String.toList_inj, String.toList_ofList]
  constructor
  · rintro ⟨w, single, rfl⟩
    rw [String.toList_ofList]
    exact (Text.words_eq_singleton_iff.mp single).2
  · intro same
    exact ⟨word.toList, Text.words_eq_singleton_iff.mpr ⟨hw, same⟩, String.ofList_toList⟩

/-- The words that end a dialogue or ask for the reference have no blank characters. -/
theorem isWord_of_mem {word : String} (h : word ∈ leaving ++ asking) : Text.IsWord word.toList := by
  have words : ∀ word ∈ leaving ++ asking,
      word.toList ≠ [] ∧ ∀ c ∈ word.toList, Text.isBlank c = false := by
    simp [leaving, asking, Text.isBlank]
  exact words word h

/-- What a line asks for, told by the trimmed line and its words. -/
theorem ofLine_cases (line : String) :
    (Request.ofLine line = .nothing ∧ lineWords line = []) ∨
      (Request.ofLine line = .leave ∧ trim line ∈ leaving) ∨
      (Request.ofLine line = .reference ∧ trim line ∈ asking) ∨
      ∃ name args, Request.ofLine line = .query name args ∧ lineWords line = name :: args ∧
        trim line ∉ leaving ++ asking := by
  have alone : ∀ word ∈ leaving ++ asking, lineWords line = [word] ↔ trim line = word := fun word mem =>
    lineWords_eq_singleton_iff (isWord_of_mem mem)
  have leaves : ∀ word ∈ leaving, lineWords line = [word] → trim line ∈ leaving := fun word mem single =>
    (alone word (List.mem_append_left _ mem)).mp single ▸ mem
  have asks : ∀ word ∈ asking, lineWords line = [word] → trim line ∈ asking := fun word mem single =>
    (alone word (List.mem_append_right _ mem)).mp single ▸ mem
  unfold Request.ofLine
  rw [← lineWords]
  split
  · next none => exact .inl ⟨rfl, none⟩
  · next single => exact .inr (.inl ⟨rfl, leaves _ (by simp [leaving]) single⟩)
  · next single => exact .inr (.inl ⟨rfl, leaves _ (by simp [leaving]) single⟩)
  · next single => exact .inr (.inl ⟨rfl, leaves _ (by simp [leaving]) single⟩)
  · next single => exact .inr (.inl ⟨rfl, leaves _ (by simp [leaving]) single⟩)
  · next single => exact .inr (.inr (.inl ⟨rfl, asks _ (by simp [asking]) single⟩))
  · next single => exact .inr (.inr (.inl ⟨rfl, asks _ (by simp [asking]) single⟩))
  · next name args _ _ _ _ _ _ some =>
    refine .inr (.inr (.inr ⟨name, args, rfl, some, fun mem => ?_⟩))
    have single := some.symm.trans ((alone _ mem).mpr rfl)
    rw [List.cons.injEq] at single
    rw [← single.1] at mem
    simp only [leaving, asking, List.cons_append, List.nil_append, List.mem_cons, List.not_mem_nil, or_false]
      at mem
    grind

/-- A line that ends the dialogue is taken for nothing else. -/
theorem ofLine_of_leaving {line : String} (h : trim line ∈ leaving) : Request.ofLine line = .leave := by
  rcases ofLine_cases line with ⟨-, none⟩ | ⟨leave, -⟩ | ⟨-, asks⟩ | ⟨_, _, _, _, other⟩
  · rw [(lineWords_eq_singleton_iff (isWord_of_mem (List.mem_append_left _ h))).mpr rfl] at none
    cases none
  · exact leave
  · have apart : ∀ word ∈ leaving, word ∉ asking := by simp [leaving, asking]
    exact absurd asks (apart _ h)
  · exact absurd (List.mem_append_left _ h) other

/-- The reply to a line of a name and arguments, in whatever way they are spaced, is the one to the name. -/
theorem reply_of_spaced (log : Verbosity) {line name : String} {args : List String}
    (h : Text.Spaced (name.toList :: args.map String.toList) line.toList) (other : trim line ∉ asking) :
    reply log (trim line) = nameReply log name args := by
  have words : lineWords (trim line) = name :: args := by
    rw [lineWords_trim, lineWords, h.words_eq]
    simp [Function.comp_def]
  rw [reply, if_neg other, words]

/-- No log line comes with the text of a query. -/
theorem readings_sqlReply (q : Query) : Note.readings (sqlReply q).err = 0 := by
  unfold sqlReply
  split
  · rfl
  · exact Note.readings_message _ _

/-- Without a log no clock is read for a reply. -/
theorem readings_of_mem_replies {lines : List String} {r : Transcript} (h : r ∈ replies .silent lines) :
    Note.readings r.err = 0 := by
  have named : ∀ name args, Note.readings (nameReply .silent name args).err = 0 := by
    intro name args
    unfold nameReply
    dsimp only
    rw [Transcript.err_append, Verbosity.notes_silent, List.nil_append]
    split
    · exact readings_sqlReply _
    · exact Note.readings_message _ _
  obtain ⟨line, -, rfl⟩ := List.mem_map.mp h
  unfold reply
  split
  · rfl
  · split
    · rfl
    · exact named _ _

/-- A line that does not end the dialogue gets its reply, and the dialogue goes on. -/
theorem ends_course_cons (log : Verbosity) {line : String} {lines : List (Option String)}
    (stays : trim line ∉ leaving) {shown : Transcript} (rest : Ends (course log lines) (.ok ()) shown) :
    Ends (course log (some line :: lines)) (.ok ()) (reply log (trim line) ++ shown) := by
  rw [course, reply, lineWords_trim]
  rcases ofLine_cases line with ⟨request, none⟩ | ⟨-, leaves⟩ | ⟨request, asks⟩ |
    ⟨name, args, request, some, other⟩
  · have other : trim line ∉ asking := by
      intro asks
      rw [(lineWords_eq_singleton_iff (isWord_of_mem (List.mem_append_right _ asks))).mpr rfl] at none
      cases none
    rw [request, if_neg other, none]
    dsimp only
    rwa [Transcript.empty_append]
  · exact absurd leaves stays
  · rw [request, if_pos asks]
    exact (ends_say _).bind rest
  · rw [request, if_neg fun asks => other (List.mem_append_right _ asks), some]
    exact (ends_answerName log name args).bind rest

/-- The course of a dialogue is the replies in the order of the lines, and a farewell. -/
theorem ends_course (log : Verbosity) (lines : List String) :
    Ends (course log (lines.map some)) (.ok ())
      (.concat (replies log lines) ++ { out := "Goodbye!\n" }) := by
  unfold replies
  induction lines with
  | nil => exact ends_say _
  | cons line lines ih =>
    by_cases leaves : trim line ∈ leaving
    · rw [List.map_cons, List.map_cons, List.takeWhile_cons_of_neg (by simpa using leaves), course,
        ofLine_of_leaving leaves]
      exact ends_say _
    · rw [List.map_cons, List.map_cons, List.takeWhile_cons_of_pos (by simpa using leaves), List.map_cons,
        Transcript.concat_cons, Transcript.append_assoc]
      exact ends_course_cons log leaves ih

end Dialogue

/-! ## Runs of the program -/

namespace Program

open NameQuery.Action Dialogue

variable {s : Surroundings} {args : List String} {i : Invocation} {settings : Settings}

/-- Where the settings are read, a dialogue is its greeting, its replies and its farewell. -/
theorem ends_perform_repl (loaded : Settings.load s i.settingsFile = .ok settings) (repl : i.command = .repl)
    {lines : List String} (read : Dialogue.lines s.input = lines.map some) :
    Ends (perform s i) (.ok ())
      ({ out := greeting } ++ (.concat (replies (s.verbosity i.verbose) lines) ++ { out := "Goodbye!\n" })) := by
  rw [← Transcript.empty_append (_ ++ _)]
  unfold perform
  rw [loaded]
  refine ends_attempt_ok.bind ?_
  dsimp only
  rw [repl, read]
  exact (ends_say _).bind (ends_course _ _)

/-- A reply to a name with its arguments beside the ending of a run that compiles them and shows a table: the same
descriptor, with more behind it in the reply, or the same message, each after its own log. -/
inductive Agrees (log log' : Verbosity) (name : String) (words : List String) : Transcript → Ending → Prop
  | described {events : List Event} {q : Query}
      (compiled : Query.compilation name (words.map Value.ofArgument) = ⟨events, .ok q⟩) :
      Agrees log log' name words
        ({ err := log.notes events } ++ ({ out := Report.query q .table } ++ sqlReply q))
        ⟨{ err := log'.notes events } ++ { out := Report.query q .table }, 0⟩
  | refused {events : List Event} {why : Failure}
      (refused : Query.compilation name (words.map Value.ofArgument) = ⟨events, .error why⟩) :
      Agrees log log' name words ({ err := log.notes events } ++ { err := [.message s!"✗ {why.message}\n"] })
        ⟨{ err := log'.notes events ++ [.message ("Error: " ++ why.message ++ "\n")] }, 1⟩

/-- Where the settings are read, compiling a name is all there is to a run that compiles it. -/
theorem ends_perform_compile (loaded : Settings.load s i.settingsFile = .ok settings) {name : String}
    {words : List String} {format : Option Format} (compile : i.command = .compile name words format)
    (r : Except String Unit) (shown : Transcript)
    (ends : Ends (do
      let q ← logged (s.verbosity i.verbose) (Query.compilation name (words.map Value.ofArgument))
      say (Report.query q (format.getD settings.format))) r shown) :
    Ends (perform s i) r shown := by
  rw [← Transcript.empty_append shown]
  unfold perform
  rw [loaded]
  refine ends_attempt_ok.bind ?_
  dsimp only
  rw [compile]
  exact ends

/-- A run that compiles a name with its arguments shows what the reply to them begins with. -/
theorem agrees_run_compile (log : Verbosity) (asked : Invocation.ofArguments args = .ok i)
    (loaded : Settings.load s i.settingsFile = .ok settings) {name : String} {words : List String}
    {format : Option Format} (compile : i.command = .compile name words format)
    (table : format.getD settings.format = .table) :
    Agrees log (s.verbosity i.verbose) name words (nameReply log name words) (run s args) := by
  have carried := ends_perform_compile loaded compile
  rw [table] at carried
  rw [run, asked, nameReply]
  dsimp only
  obtain ⟨⟨events, result⟩, compiled⟩ :
      ∃ traced, Query.compilation name (words.map Value.ofArgument) = traced := ⟨_, rfl⟩
  rw [compiled] at carried ⊢
  cases result with
  | ok q =>
    rw [(carried _ _ ((ends_logged_ok _ rfl).bind (ends_say _))).ending_ok]
    exact .described compiled
  | error why =>
    rw [(carried _ _ (ends_logged_error _ rfl).bind_error).ending_error]
    exact .refused compiled

/-- **A dialogue is its greeting, one reply to each line up to the one that ends it, and one farewell.** The reply to
a line is told by the trimmed line alone, what it shows out and its notes to the side. The text to the side is that
of the replies one after the other, whatever times the clock shows in the log lines among them: lines before count
only for how often the clock has been read, and without a log they do not count at all. The reply to a name with its
arguments shows the descriptor, or the message, of a run that compiles them. -/
theorem run_repl_replies (asked : Invocation.ofArguments args = .ok i)
    (loaded : Settings.load s i.settingsFile = .ok settings) (repl : i.command = .repl) {lines : List String}
    (read : Dialogue.lines s.input = lines.map some) :
    run s args = ⟨{
        out := greeting ++ String.join ((replies (s.verbosity i.verbose) lines).map (·.out)) ++ "Goodbye!\n"
        err := (replies (s.verbosity i.verbose) lines).flatMap (·.err) }, 0⟩ ∧
      (∀ clock : Nat → String, (run s args).shown.sideText clock =
        String.join (Transcript.sideTexts clock 0 (replies (s.verbosity i.verbose) lines))) ∧
      (s.logs = false → ∀ clock clock' : Nat → String,
        Transcript.sideTexts clock 0 (replies (s.verbosity i.verbose) lines) =
          (replies (s.verbosity i.verbose) lines).map (·.sideText clock')) ∧
      ∀ (line name : String) (words : List String),
        Text.Spaced (name.toList :: words.map String.toList) line.toList → trim line ∉ leaving ++ asking →
        ∀ (s' : Surroundings) (args' : List String) (i' : Invocation) (settings' : Settings)
          (format : Option Format), Invocation.ofArguments args' = .ok i' →
          Settings.load s' i'.settingsFile = .ok settings' → i'.command = .compile name words format →
          format.getD settings'.format = .table →
          Agrees (s.verbosity i.verbose) (s'.verbosity i'.verbose) name words
            (reply (s.verbosity i.verbose) (trim line)) (run s' args') := by
  have shown : run s args = ⟨{
      out := greeting ++ String.join ((replies (s.verbosity i.verbose) lines).map (·.out)) ++ "Goodbye!\n"
      err := (replies (s.verbosity i.verbose) lines).flatMap (·.err) }, 0⟩ := by
    rw [run, asked]
    dsimp only
    rw [(ends_perform_repl loaded repl read).ending_ok]
    congr 1
    ext <;> simp [Transcript.concat, String.append_assoc]
  refine ⟨shown, fun clock => ?_, fun silent clock clock' => ?_, ?_⟩
  · rw [shown]
    exact Transcript.texts_flatMap clock 0 _
  · have off : s.verbosity i.verbose = .silent := by simp [Surroundings.verbosity, silent]
    rw [off]
    exact Transcript.sideTexts_of_timeless (fun r hr => readings_of_mem_replies hr) clock clock' 0
  · intro line name words spaced other s' args' i' settings' format asked' loaded' compile table
    rw [reply_of_spaced _ spaced fun asks => other (List.mem_append_right _ asks)]
    exact agrees_run_compile _ asked' loaded' compile table

/-- A run around which there are no files, with some lines to be read. -/
def reading (lines : List String) (logs : Bool) : Surroundings where
  file _ := .absent "No such file or directory (os error 2)"
  place _ := .vacant
  userSettings := none
  databaseUrl := none
  input := (unlines lines).toUTF8
  logs := logs

/-- Lines with a name that logs a warning and two arguments, blank characters, a word for the reference, what is no
name, and a word that ends the dialogue before another name. -/
def session : List String :=
  ["findByNameAndStatusId  mike\t1 ", " ", "help", "mike", " exit", "findAll"]

/-- The session with a log, without one at two times of the day, and its first line as arguments of a verbose run. -/
theorem run_repl_replies_of_session :
    run (reading session true) ["repl"] = ⟨{
        out := greeting ++ String.join ((replies .warnings session).map (·.out)) ++ "Goodbye!\n"
        err := (replies .warnings session).flatMap (·.err) }, 0⟩ ∧
      (run (reading session true) ["repl"]).shown.sideText (fun n => toString n) =
        String.join (Transcript.sideTexts (fun n => toString n) 0 (replies .warnings session)) ∧
      Transcript.sideTexts (fun _ => "08:00") 0 (replies .silent session) =
        (replies .silent session).map (·.sideText fun _ => "20:00") ∧
      Agrees .warnings .debugging "findByNameAndStatusId" ["mike", "1"]
        (reply .warnings (trim "findByNameAndStatusId  mike\t1 "))
        (run (reading [] true) ["-v", "compile", "findByNameAndStatusId", "-a", "mike", "-a", "1"]) := by
  have asked : Invocation.ofArguments ["repl"] = .ok ⟨none, false, .repl⟩ := by decide +kernel
  have asked' : Invocation.ofArguments ["-v", "compile", "findByNameAndStatusId", "-a", "mike", "-a", "1"] =
      .ok ⟨none, true, .compile "findByNameAndStatusId" ["mike", "1"] none⟩ := by
    decide +kernel
  have read : ∀ logs, Dialogue.lines (reading session logs).input = session.map some :=
    fun _ => lines_unlines (by decide +kernel)
  have spaced : Text.Spaced ["findByNameAndStatusId".toList, "mike".toList, "1".toList]
      "findByNameAndStatusId  mike\t1 ".toList :=
    Text.words_eq_iff.mp (by decide +kernel)
  obtain ⟨shown, timed, -, agrees⟩ := run_repl_replies asked rfl rfl (read true)
  obtain ⟨-, -, silent, -⟩ := run_repl_replies asked rfl rfl (read false)
  exact ⟨shown, timed _, silent rfl _ _,
    agrees _ _ _ spaced (by decide +kernel) (reading [] true) _ _ {} none asked' rfl rfl rfl⟩

end Program

end NameQuery
