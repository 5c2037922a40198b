import PodCommand.Session.Script

namespace PodCommand

/-!
A script that need not be known to its end.

A stream may go on for ever, and what it will do may depend on how often it is looked at.  A tape is
the part of its script that is at hand, and what every further look adds to that part.  From where
nothing is added any more the end of the part is the end of the stream; until then it is a place to
wait at.
-/

/-- What the far side of a stream will do, look after look. -/
structure Tape where
  /-- What is at hand. -/
  script : Script
  /-- What the looks to come will add, one after the other, up to the first that adds nothing. -/
  later : Nat → Option Script

namespace Tape

/-- A tape that is at hand as a whole. -/
def ofScript (script : Script) : Tape := ⟨script, fun _ => none⟩

instance : Coe Script Tape := ⟨ofScript⟩

instance : Coe (Option Script) (Option Tape) := ⟨Option.map ofScript⟩

/-- Whether nothing will be added to what is at hand. -/
def isWhole (tape : Tape) : Bool := (tape.later 0).isNone

/-- The tape when it is looked at again. -/
def turn (tape : Tape) : Tape :=
  match tape.later 0 with
  | none => tape
  | some more => ⟨tape.script ++ more, fun look => tape.later (look + 1)⟩

/-- The tape after what stands in front of a part of what is at hand. -/
def goTo (tape : Tape) (rest : Script) : Tape := { tape with script := rest }

/-- The tape with octets in front that are still to be read. -/
def unread (bytes : Bytes) (tape : Tape) : Tape :=
  if bytes.isEmpty then tape else tape.goTo (.data bytes :: tape.script)

/-- The tape with the readiness in front to take so many octets more. -/
def readyFor (count : Nat) (tape : Tape) : Tape :=
  if count = 0 then tape else tape.goTo (.accept count :: tape.script)

/-- What becomes of a request to a stream, with what is left of its tape. -/
inductive Reply
  /-- The stream has come to its end. -/
  | ended
  /-- The request has to be made again. -/
  | passed (left : Tape)
  /-- The request has to be made again, and the caller has given up. -/
  | gaveUp (left : Tape)
  | held (left : Tape)
  | data (bytes : Bytes) (left : Tape)
  | failed (failure : StreamFailure) (left : Tape)
  | accepts (count : Nat) (left : Tape)

/-- Makes a request to a stream. -/
def ask (around : Surroundings) (tape : Tape) : Reply :=
  match tape.script with
  | [] => if tape.isWhole then .ended else .held tape
  | step :: rest =>
    match step.meet around with
    | .passed => .passed (tape.goTo rest)
    | .gaveUp => .gaveUp (tape.goTo rest)
    | .held step => .held (tape.goTo (step :: rest))
    | .data bytes => .data bytes (tape.goTo rest)
    | .failed failure => .failed failure (tape.goTo rest)
    | .accepts count => .accepts count (tape.goTo rest)

theorem turn_of_isWhole {tape : Tape} (whole : tape.isWhole = true) : tape.turn = tape := by
  rw [turn, Option.isNone_iff_eq_none.mp whole]

/-- A step that a reader passes without reading anything. -/
inductive Idle (around : Surroundings) : Step → Prop
  | passed {step : Step} (met : step.meet around = .passed) : Idle around step
  | accept (count : Nat) : Idle around (.accept count)
  | empty : Idle around (.data [])

/-- What is left of a tape that holds a request back. -/
inductive Held (around : Surroundings) (tape : Tape) : Tape → Prop
  | dry (nothing : tape.script = []) (part : tape.isWhole = false) : Held around tape tape
  | step {step as : Step} {rest : Script} (front : tape.script = step :: rest)
      (held : step.meet around = .held as) : Held around tape (tape.goTo (as :: rest))

/-- What stands at the front of a tape where a request to its stream comes to a reply. -/
inductive Asked (around : Surroundings) (tape : Tape) : Reply → Prop
  | ended (nothing : tape.script = []) (whole : tape.isWhole = true) : Asked around tape .ended
  | passed {step : Step} {rest : Script} (front : tape.script = step :: rest)
      (met : step.meet around = .passed) : Asked around tape (.passed (tape.goTo rest))
  | gaveUp {rest : Script} (front : tape.script = .cancel :: rest) :
      Asked around tape (.gaveUp (tape.goTo rest))
  | held {left : Tape} (held : tape.Held around left) : Asked around tape (.held left)
  | data {bytes : Bytes} {rest : Script} (front : tape.script = .data bytes :: rest) :
      Asked around tape (.data bytes (tape.goTo rest))
  | failed {failure : StreamFailure} {rest : Script} (front : tape.script = .fail failure :: rest) :
      Asked around tape (.failed failure (tape.goTo rest))
  | accepts {count : Nat} {rest : Script} (front : tape.script = .accept count :: rest) :
      Asked around tape (.accepts count (tape.goTo rest))

theorem asked (tape : Tape) (around : Surroundings) : tape.Asked around (tape.ask around) := by
  unfold ask
  split
  · rename_i nothing
    split
    · rename_i whole
      exact .ended nothing whole
    · rename_i part
      exact .held (.dry nothing (Bool.eq_false_iff.mpr part))
  · rename_i step rest front
    cases step with
    | data bytes => exact .data front
    | fail failure => exact .failed front
    | cancel => exact .gaveUp front
    | accept count => exact .accepts front
    | hang => exact .held (.step front rfl)
    | wait | sleep | awaitInput | awaitInputEnd =>
        -- A pause is passed or held, by what it waits for.
        cases met : Step.meet around _ with
        | passed => exact .passed front met
        | held => exact .held (.step front met)
        | _ =>
            simp only [Step.meet] at met
            split at met <;> cases met

end Tape
end PodCommand
