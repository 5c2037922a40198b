import PodCommand.Session.Failure
import PodCommand.Text.Utf8
import PodCommand.Time.Instant

namespace PodCommand

/-!
The far side of a stream as a script: what it will do, step by step, when the near side asks for
more.  A script is read lazily.  A step that cannot be passed yet holds everything after it back;
the end of a script is the end of the stream, and for the sink of a stream the readiness to take
whatever comes.
-/

/-- One step of a script. -/
inductive Step
  /-- A pause, counted from the moment when the step is reached. -/
  | wait (span : Duration)
  /-- A pause that has begun and ends at an instant. -/
  | sleep (wake : Instant)
  /-- Octets to be read. -/
  | data (bytes : Bytes)
  | fail (failure : StreamFailure)
  /-- Nothing happens ever again. -/
  | hang
  /-- The caller gives up the session at this point. -/
  | cancel
  /-- A sink takes so many octets, in one write or in several; none at all is a refusal. -/
  | accept (count : Nat)
  /-- Held back until the session's input has taken so many octets. -/
  | awaitInput (count : Nat)
  /-- Held back until the session's input has been closed. -/
  | awaitInputEnd
  deriving DecidableEq, Repr

/-- What the far side of a stream will do. -/
abbrev Script := List Step

/-- What a script can see of the world around it. -/
structure Surroundings where
  now : Instant
  /-- How many octets the session's input has taken. -/
  received : Nat
  /-- Whether the session's input has been closed. -/
  inputClosed : Bool
  deriving DecidableEq, Repr

/-- What becomes of the step at the front of a script. -/
inductive Meeting
  | passed
  /-- The step is passed, and the caller has given up. -/
  | gaveUp
  /-- The step stays, in this form. -/
  | held (as : Step)
  | data (bytes : Bytes)
  | failed (failure : StreamFailure)
  | accepts (count : Nat)
  deriving DecidableEq, Repr

/-- Asks for the step at the front of a script. -/
def Step.meet (around : Surroundings) : Step → Meeting
  | wait span =>
    if span.nanos = 0 then .passed else .held (.sleep (around.now + span.nanos))
  | sleep wake => if wake ≤ around.now then .passed else .held (.sleep wake)
  | data bytes => .data bytes
  | fail failure => .failed failure
  | hang => .held .hang
  | cancel => .gaveUp
  | accept count => .accepts count
  | awaitInput count => if count ≤ around.received then .passed else .held (.awaitInput count)
  | awaitInputEnd => if around.inputClosed then .passed else .held .awaitInputEnd

/-- How many octets a step carries. -/
def Step.octets : Step → Nat
  | data bytes => bytes.length
  | _ => 0

namespace Script

/-- The octets of a script's data steps, in order. -/
def bytes (script : Script) : Bytes :=
  script.flatMap fun step =>
    match step with
    | .data bytes => bytes
    | _ => []

/-- How much there is to be read of a script, octets and steps. -/
def load : Script → Nat
  | [] => 0
  | step :: rest => step.octets + 1 + load rest

/-- The instant at which the pause at the front of a script ends. -/
def wake? : Script → Option Instant
  | .sleep wake :: _ => some wake
  | _ => none

/-- Pieces of at most the given size; the fuel bounds their number. -/
def slices (size fuel : Nat) (bytes : Bytes) : List Bytes :=
  match fuel with
  | 0 => [bytes]
  | fuel + 1 =>
    if bytes.length ≤ size then [bytes]
    else bytes.take size :: slices size fuel (bytes.drop size)

/-- What playing a script that is not read from comes to. -/
inductive Played
  /-- Some step holds. -/
  | held
  /-- The script has ended, or has come to a step that ends it. -/
  | over (failure : Option StreamFailure)
  deriving DecidableEq, Repr

/-- Plays a script up to its end or to the first step that is not a pause; gives what remains, and
whether the caller has given up. -/
def play (around : Surroundings) (cancelled : Bool) : Script → Played × Script × Bool
  | [] => (.over none, [], cancelled)
  | step :: rest =>
    match step.meet around with
    | .passed => play around cancelled rest
    | .gaveUp => play around true rest
    | .held step => (.held, step :: rest, cancelled)
    | .data _ | .accepts _ => (.over none, rest, cancelled)
    | .failed failure => (.over (some failure), rest, cancelled)

end Script
end PodCommand
