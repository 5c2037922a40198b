import PodCommand.Request.Assembly
import PodCommand.Session.Streaming
import PodCommand.Transport.Report

namespace PodCommand

/-- What a server does on an open connection, one thing after the other. -/
inductive Frame
  /-- It sends a binary message. -/
  | message (bytes : Bytes)
  /-- It sends a message of a kind that carries nothing here. -/
  | other
  /-- It closes the connection; nothing that it does afterwards is seen. -/
  | close
  | wait (span : Duration)
  | hang
  /-- The caller gives up at this point. -/
  | cancel
  /-- It waits until it has been sent so many octets of input, or all of it. -/
  | awaitInput (count : Nat)
  | awaitInputEnd
  deriving DecidableEq, Repr

namespace Frame

/-!
Several channels on one connection.  The first octet of a message names its channel, and the rest
belongs to that channel; a message without a rest is nobody's.  The first message on the channel of
reports ends the session.
-/

/-- The channel that carries input to the server. -/
def inputChannel : UInt8 := 0

/-- The channels that carry what the command writes. -/
def outputChannel : UInt8 := 1
def errorChannel : UInt8 := 2

/-- The channel that carries the report on how the command ended. -/
def reportChannel : UInt8 := 3

/-- What a frame carries on a channel. -/
def payload? (channel : UInt8) : Frame → Option Bytes
  | message (first :: second :: rest) => if first = channel then some (second :: rest) else none
  | _ => none

/-- Whether the session is over with a frame. -/
def isLast (frame : Frame) : Bool :=
  frame = .close || (frame.payload? reportChannel).isSome

/-- What a frame means to the reader of a channel.  A caller who gives up sees nothing of what the
server does afterwards. -/
def steps (channel : UInt8) : Frame → Script
  | wait span => [.wait span]
  | hang => [.hang]
  | cancel => if channel = outputChannel then [.cancel, .hang] else [.hang]
  | awaitInput count => [.awaitInput count]
  | awaitInputEnd => [.awaitInputEnd]
  | frame => ((frame.payload? channel).map .data).toList

/-- What frames mean to the reader of a channel. -/
def script (channel : UInt8) (frames : List Frame) : Script :=
  (frames.takeWhile (fun frame => !frame.isLast)).flatMap (steps channel)

/-- How the command ended, by the report that ends the session if one does and can be read. -/
def status? (frames : List Frame) : Option ExitStatus := do
  let last ← frames.find? isLast
  let content ← last.payload? reportChannel
  let report ← StatusReport.parse? content
  return .ofReport report

/-- The session that frames make up, with the channels that were asked for; what is written to the
channel of the input goes to a far side of its own. -/
def session (sink : Sink) (attachment : Attachment) (frames : List Frame) : Remote :=
  { upgrade := []
    stdin := if attachment.stdin then some sink else none
    stdout := if attachment.stdout then some (script outputChannel frames) else none
    stderr := if attachment.stderr then some (script errorChannel frames) else none
    statusScript := []
    status := status? frames }

end Frame
end PodCommand
