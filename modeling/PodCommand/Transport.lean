import PodCommand.Session.Schedule
import PodCommand.Transport.Handshake

namespace PodCommand

/-- What a server saw of one connection. -/
structure Contact where
  requestLine : String
  authorization : Option String
  /-- The protocol of the session, if one was opened. -/
  protocol : Option ChannelProtocol
  /-- What happened in the call that made the connection. -/
  events : List Event
  deriving Repr

/-- The far side of calls: the caller's wish to give up, the answers that the server will give to
successive connections, and the connections that have been made, the latest first. -/
structure Network where
  cancelled : Bool
  answers : List Answer
  contacts : List Contact
  deriving Repr

namespace Transport

/-!
Calls over a network.  A call makes one connection at most: none if it ends before it asks for a
session, and none if the user's token cannot be sent.  A session has the channels that the request
asks for.
-/

/-- What a client meets that asks for a session with a request, if what it writes to the channel of
the input goes to a certain far side. -/
def meet (sink : Sink) (client : Client) (request : Request) (answers : List Answer) : Remote :=
  if !(Handshake.authorization? client.authorization).all Client.isHeaderValue then
    Handshake.refusal .badToken
  else
    match answers with
    | [] => Handshake.refusal .unreachable
    | answer :: _ => Handshake.remote sink request.attached answer

/-- The sessions that the call of an order can be handed: one at most, and none for an order without
a proper request. -/
def sessions (sink : Sink) (client : Client) (order : Order) (answers : List Answer) :
    List Remote :=
  match order.request with
  | .ok request => [meet sink client request answers]
  | .error _ => []

/-- The connection that a call has made. -/
def contact? (client : Client) (answers : List Answer) (call : Call) : Option Contact := do
  let answer ← answers.head?
  let authorization := Handshake.authorization? client.authorization
  let .ok request := call.order.request | none
  if call.events.any Event.isUpgradeStart && authorization.all Client.isHeaderValue then
    return ⟨Handshake.requestLine client request, authorization, Handshake.protocol? answer,
      call.events⟩
  else none

/-- What becomes of the only call of a schedule. -/
def endingOf (schedule : Schedule) : Ending ExecError Output :=
  ((schedule.calls.head?.bind fun timed => timed.call.ending?)).getD .endless

/-- Makes a call over a network whose servers take input in a certain way. -/
def callTo (sink : Sink) (order : Order) (client : Client) :
    StateM Network (Ending ExecError Output) := do
  let network ← get
  let remotes := sessions sink client order network.answers
  let schedule := Schedule.complete 0 ⟨network.cancelled, remotes⟩ none [order]
  let made := schedule.calls.filterMap fun timed => contact? client network.answers timed.call
  set
    { cancelled := schedule.shared.cancelled
      answers := network.answers.drop made.length
      contacts := made ++ network.contacts : Network }
  return endingOf schedule

/-- Makes a call over a network whose servers take input at once. -/
def call (order : Order) (client : Client) : StateM Network (Ending ExecError Output) :=
  callTo .ready order client

/-- A message to the server. -/
inductive Outgoing
  | message (bytes : Bytes)
  | close
  deriving DecidableEq, Repr

/-- The most octets of input in one message. -/
def messageSize : Nat := 1024

/-- The end of the input, as a protocol tells it. -/
def inputEnd : ChannelProtocol → Outgoing
  | .v4 => .close
  | .v5 => .message [255, Frame.inputChannel]

/-- The messages that what happens in a session makes a client send. -/
def outgoing (protocol : ChannelProtocol) (events : List Event) : List Outgoing :=
  events.flatMap fun event =>
    match event with
    | .wrote bytes =>
      (Script.slices messageSize bytes.length bytes).map fun piece =>
        .message (Frame.inputChannel :: piece)
    | .inputShut => [inputEnd protocol]
    | _ => []

end Transport
end PodCommand
