import PodCommand.Session.Copying
import PodCommand.Session.Event

namespace PodCommand

/-- The session's input: local octets on their way to the remote command. -/
structure Input where
  /-- What is forwarded; none if there is no local input, or the session takes none. -/
  copying : Option Copying
  /-- Whether the session takes input. -/
  attached : Bool
  /-- Whether forwarding is still under way. -/
  forwarding : Bool
  /-- Whether the far side has been closed. -/
  closed : Bool

namespace Input

/-!
Forwarding local input.  It is copied to the far side, which is shut down after the last octet; a
far side that stops reading before that has not failed.  Where one of the two sides is missing the
other is closed at once.
-/

/-- Input of which nothing has been read. -/
def start (source : Option Tape) (sink : Option Sink) : Input :=
  ⟨source.bind fun source => sink.map (Copying.start source), sink.isSome, true, false⟩

/-- Octets that the far side has taken. -/
def received (input : Input) : Bytes :=
  match input.copying with
  | some copying => copying.copy.received
  | none => []

/-- What scripts can see while the input is as it is. -/
def surroundings (input : Input) (now : Instant) : Surroundings :=
  ⟨now, input.received.length, input.closed⟩

/-- The scripts that forwarding waits on. -/
def awaited (input : Input) : List Script :=
  match input.copying with
  | some copying => if input.forwarding then copying.copy.awaited else []
  | none => []

/-- How much is still to be forwarded. -/
def load (input : Input) : Nat :=
  if input.forwarding then
    match input.copying with
    | some copying => copying.copy.load + 1
    | none => 1
  else 0

/-- What a look at the input comes to. -/
structure Look where
  input : Input
  outcome : Copy.Outcome
  cancelled : Bool
  events : List Event

/-- Ends forwarding after an attempt that came to an end: the far side is closed, and one that has
stopped reading is no failure. -/
def settle (input : Input) (outcome : Copy.Outcome) (cancelled : Bool) (events : List Event) :
    Look :=
  match outcome with
  | .pending => ⟨input, .pending, cancelled, events⟩
  | .done =>
    ⟨{ input with forwarding := false, closed := true }, .done, cancelled,
      events ++ [.inputShut, .forwarded input.received.length]⟩
  | .failed failure =>
    if failure.kind = .brokenPipe then
      ⟨{ input with forwarding := false, closed := true }, .done, cancelled,
        events ++ [.inputRefused]⟩
    else
      ⟨{ input with forwarding := false, closed := true }, .failed failure, cancelled,
        events ++ [.inputFailed failure]⟩

/-- Looks at the input while forwarding is under way. -/
def look (now : Instant) (cancelled : Bool) (input : Input) : Look :=
  match input.copying with
  | some copying =>
    let attempt := copying.attempt now
    settle { input with copying := some (copying.next now) } attempt.outcome
      (cancelled || attempt.gaveUp) (attempt.writes.map Event.wrote)
  | none => ⟨{ input with forwarding := false, closed := input.attached }, .done, cancelled, []⟩

end Input
end PodCommand
