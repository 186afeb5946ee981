import NameQuery.Log

/-!
# What a program shows

A program shows text in two places: what it was asked for goes out, and what went wrong, with the
log, goes to the side. An `Action` adds to such a transcript step by step and can be broken off with
a message; what was shown before stays shown.

What goes to the side is kept as notes, since the text of a log line has a time in it that no action
tells (`Note`). A transcript becomes text by a clock that is read once for every log line
(`Transcript.sideText`); with another clock the same transcript has the same messages and the same
lines with other times at their start.
-/

set_option autoImplicit false

namespace NameQuery

/-- What is shown to the side. -/
inductive Note
  | message (text : String)
  /-- An event in the log. -/
  | logged (e : Event)

/-- The text of notes written one after another. The clock is read for every log line, and has been read `n`
times before. -/
def Note.texts (clock : Nat → String) : Nat → List Note → String
  | _, [] => ""
  | n, .message text :: notes => text ++ texts clock n notes
  | n, .logged e :: notes => e.line (clock n) ++ texts clock (n + 1) notes

/-- The notes of a log on some events. -/
def Verbosity.notes (v : Verbosity) (events : List Event) : List Note := (events.filter v.shows).map .logged

/-- What has been shown. -/
structure Transcript where
  out : String := ""
  err : List Note := []

/-- The text to the side, with the times that a clock shows when it is read for the first time, the second time,
and so on. -/
def Transcript.sideText (clock : Nat → String) (t : Transcript) : String := Note.texts clock 0 t.err

/-- How a run of the program ends: what it has shown, and a code, zero where all went well. -/
structure Ending where
  shown : Transcript
  code : UInt32

/-- A course of steps that show something, until one of them breaks it off with a message. -/
abbrev Action := ExceptT String (StateM Transcript)

namespace Action

/-- Shows what was asked for. -/
def say (text : String) : Action Unit := modify fun t => { t with out := t.out ++ text }

/-- Shows notes to the side. -/
def notes (ns : List Note) : Action Unit := modify fun t => { t with err := t.err ++ ns }

/-- Shows a message to the side. -/
def note (text : String) : Action Unit := notes [.message text]

/-- Goes on with a result, or is broken off by the message of a failure. -/
def attempt {α : Type} : Except Failure α → Action α
  | .ok a => pure a
  | .error why => throw why.message

/-- Shows the log of a result before it goes on with it. -/
def logged {α : Type} (log : Verbosity) (t : Traced α) : Action α := do
  notes (log.notes t.events)
  attempt t.result

/-- The ending of an action. The message that breaks it off is the last thing shown. -/
def ending (a : Action Unit) : Ending :=
  match (a.run.run {} : Except String Unit × Transcript) with
  | (.ok _, shown) => ⟨shown, 0⟩
  | (.error message, shown) =>
    ⟨{ shown with err := shown.err ++ [.message ("Error: " ++ message ++ "\n")] }, 1⟩

end Action

end NameQuery
