import PodCommand.Session.Channel
import PodCommand.Session.Input
import PodCommand.Session.Output

namespace PodCommand

/-- What a server will do with a session: how it answers the request for one, and what the channels
of the session will carry. -/
structure Remote where
  /-- Played while the session is being opened; a failure refuses it. -/
  upgrade : Script
  stdin : Option Sink
  stdout : Option Script
  stderr : Option Script
  /-- Played when the session is asked how the command ended. -/
  statusScript : Script
  /-- How the command ended; none if the connection ends without a report. -/
  status : Option ExitStatus

/-- A session whose streams are open. -/
structure Streaming where
  input : Input
  stdout : Channel
  stderr : Channel
  statusAsked : Bool
  statusScript : Script
  status : Option ExitStatus

/-- What is looked at first where two things may be ready at once. -/
structure Choices where
  inputFirst : Bool
  stderrFirst : Bool
  /-- The same for a second look at the output. -/
  stderrFirstAgain : Bool
  timerFirst : Bool
  deriving DecidableEq, Repr

namespace Streaming

/-!
A session whose streams are open.  Both outputs are read to their ends together, then the server is
asked how the command ended; input is forwarded meanwhile and dropped when the output is complete.
-/

/-- A session whose streams have just been opened. -/
def start (source : Option Tape) (remote : Remote) : Streaming :=
  ⟨.start source remote.stdin, .ofScript remote.stdout, .ofScript remote.stderr, false,
    remote.statusScript, remote.status⟩

/-- One of the output channels. -/
def channel (session : Streaming) : Outlet → Channel
  | .output => session.stdout
  | .errors => session.stderr

/-- The session with one of its output channels as it is now. -/
def withChannel (session : Streaming) (outlet : Outlet) (channel : Channel) : Streaming :=
  match outlet with
  | .output => { session with stdout := channel }
  | .errors => { session with stderr := channel }

/-- How far the session has come. -/
inductive Progress
  | pending
  | finished (output : Output)
  | failed (failure : StreamFailure)
  deriving DecidableEq, Repr

/-- What a look at a session comes to. -/
structure Look where
  session : Streaming
  progress : Progress
  cancelled : Bool
  events : List Event

/-- Looks at a second side after a look at the first that left the session pending. -/
def Look.followedBy (first : Look) (second : Bool → Streaming → Look) : Look :=
  match first.progress with
  | .pending =>
    let second := second first.cancelled first.session
    { second with events := first.events ++ second.events }
  | _ => first

/-- Reads an output channel; its failure is that of the session. -/
def lookChannel (now : Instant) (outlet : Outlet) (cancelled : Bool) (session : Streaming) : Look :=
  let look := (session.channel outlet).look outlet (session.input.surroundings now) cancelled
  let session := session.withChannel outlet look.channel
  match look.failure with
  | some failure => ⟨session, .failed failure, look.cancelled, look.events⟩
  | none => ⟨session, .pending, look.cancelled, look.events⟩

/-- Reads both outputs; the failure of the one that is looked at first goes before the other's. -/
def drain (now : Instant) (stderrFirst cancelled : Bool) (session : Streaming) : Look :=
  if stderrFirst then
    (session.lookChannel now .errors cancelled).followedBy (lookChannel now .output)
  else (session.lookChannel now .output cancelled).followedBy (lookChannel now .errors)

/-- What a session comes to once it has answered how the command ended. -/
def conclusion (session : Streaming) : Progress :=
  match session.status with
  | some status => .finished ⟨session.stdout.captured, session.stderr.captured, status⟩
  | none => .failed .missingStatus

/-- Asks how the command ended. -/
def askStatus (now : Instant) (cancelled : Bool) (session : Streaming) : Look :=
  let asked := if session.statusAsked then [] else [Event.statusAsked]
  let (played, script, cancelled) :=
    session.statusScript.play (session.input.surroundings now) cancelled
  let session := { session with statusAsked := true, statusScript := script }
  match played with
  | .held => ⟨session, .pending, cancelled, asked⟩
  | .over _ => ⟨session, session.conclusion, cancelled, asked ++ [.statusReported session.status]⟩

/-- Looks at the output side. -/
def lookOutput (now : Instant) (stderrFirst cancelled : Bool) (session : Streaming) : Look :=
  (session.drain now stderrFirst cancelled).followedBy fun cancelled session =>
    if session.stdout.hasEnded && session.stderr.hasEnded then session.askStatus now cancelled
    else ⟨session, .pending, cancelled, []⟩

/-- Looks at the input side; the session is over only if forwarding has failed. -/
def lookInput (now : Instant) (cancelled : Bool) (session : Streaming) : Look :=
  let look := session.input.look now cancelled
  let session := { session with input := look.input }
  match look.outcome with
  | .failed failure => ⟨session, .failed failure, look.cancelled, look.events⟩
  | _ => ⟨session, .pending, look.cancelled, look.events⟩

/-- Looks at both sides.  The output is looked at again after forwarding has ended. -/
def look (choices : Choices) (now : Instant) (cancelled : Bool) (session : Streaming) : Look :=
  let output := lookOutput now choices.stderrFirst
  if !session.input.forwarding then output cancelled session
  else if choices.inputFirst then (session.lookInput now cancelled).followedBy output
  else
    ((output cancelled session).followedBy (lookInput now)).followedBy fun cancelled session =>
      if session.input.forwarding then ⟨session, .pending, cancelled, []⟩
      else session.lookOutput now choices.stderrFirstAgain cancelled

end Streaming
end PodCommand
