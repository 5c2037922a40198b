import PodCommand.Session.Streaming

namespace PodCommand

/-- What a caller asks for. -/
structure Order where
  target : Target
  command : List String
  /-- How long the call may take. -/
  timeout : Option Duration
  /-- The local input, if the command is to be given any. -/
  stdin : Option Tape

/-- The request that is to be sent, if it is a proper one. -/
def Order.request (order : Order) : Except RequestError Request :=
  Request.build order.target order.command order.stdin.isSome

/-- What becomes of a call. -/
inductive Ending (ε α : Type)
  | returned (result : Except ε α)
  /-- The clock cannot count to the deadline. -/
  | clockOverflow
  /-- Nothing that can still happen would end the call. -/
  | endless

/-- The ending with its result put in other terms. -/
def Ending.map {ε δ α β : Type} (error : ε → δ) (value : α → β) : Ending ε α → Ending δ β
  | returned (.ok a) => .returned (.ok (value a))
  | returned (.error e) => .returned (.error (error e))
  | clockOverflow => .clockOverflow
  | endless => .endless

/-- What calls share: the caller's wish to give up, and the sessions that the server will hand out,
in order. -/
structure Shared where
  cancelled : Bool
  remotes : List Remote

/-- A look at what is going on: the time, and what is looked at first. -/
structure Moment where
  now : Instant
  choices : Choices
  deriving DecidableEq, Repr

/-- The instant at which a call is cancelled, and the time that was allowed for it. -/
structure Deadline where
  instant : Instant
  timeout : Duration
  deriving DecidableEq, Repr

/-- How far a call has come. -/
inductive Phase
  /-- Nothing has been done yet. -/
  | fresh
  /-- The request is ready, and the caller's wish has not been looked at since. -/
  | built (request : Request)
  /-- The server is about to be asked for a session. -/
  | asking (request : Request)
  /-- The server has been asked for a session. -/
  | upgrading (request : Request) (remote : Remote)
  /-- The session is there, and the caller's wish has not been looked at since. -/
  | opened (remote : Remote)
  /-- The streams of the session are about to be taken. -/
  | entering (remote : Remote)
  /-- The streams of the session are open. -/
  | streaming (session : Streaming)
  | ended (ending : Ending ExecError Output)

/-- One call. -/
structure Call where
  order : Order
  deadline : Option Deadline
  state : SessionState
  phase : Phase
  /-- What has happened, in order. -/
  events : List Event

namespace Call

/-!
One call, from its order to its ending, as a machine that is looked at again and again.

`step` goes from one look at the caller's wish to the next, and `poll` takes all the steps that can
be taken at one moment; the world may change between any two of them.  While a call waits, first for
the session and then for the streams, every step looks at the caller's wish and at the deadline
before it looks at the thing that it waits for; the wish alone is looked at before the server is
asked and after it has answered.  The deadline is fixed at the first look, before anything else.
Whatever way a call ends, a session that was handed over is torn down and released, and that is the
last event.
-/

/-- A call that has not begun. -/
def ofOrder (order : Order) : Call := ⟨order, none, .idle, .fresh, []⟩

/-- The call after something has happened in it. -/
def record (call : Call) (events : List Event) : Call :=
  { call with events := call.events ++ events }

/-- The call in the next state. -/
def advance (call : Call) (next : SessionState) : Call :=
  { call with state := next, events := call.events ++ [.advanced call.state next] }

/-- The call in the state of failure, unless it is in a final state already. -/
def fail (call : Call) : Call :=
  if call.state.isTerminal then call else call.advance .failed

/-- The call in another phase. -/
def enter (call : Call) (phase : Phase) : Call := { call with phase := phase }

/-- The call at its end. -/
def finish (call : Call) (result : Except ExecError Output) : Call :=
  call.enter (.ended (.returned result))

/-- The call after its session has been torn down. -/
def release (call : Call) : Call :=
  call.record [.aborted, .released]

/-- Ends a call that is cancelled and has no open streams. -/
def cancelEarly (call : Call) (reason : CancelReason) : Call :=
  call.fail.finish (.error (.cancelled reason call.state))

/-- Ends a call that is cancelled while its streams are open. -/
def cancelStreams (call : Call) (reason : CancelReason) : Call :=
  ((call.fail.record [.cancelled reason]).finish (.error (.cancelled reason call.state))).release

/-- Ends a call whose streams have come to their end. -/
def complete (call : Call) (output : Output) : Call :=
  let told := Event.finished output.stdout.length output.stderr.length output.exitCode
  (((call.advance .completed).record [told]).finish (.ok output)).release

/-- Ends a call whose streams have failed. -/
def breakStreams (call : Call) (failure : StreamFailure) : Call :=
  ((call.fail.record [.failed (.stream failure)]).finish (.error (.stream failure))).release

/-- What interrupts a call at a moment: the caller, or the deadline. -/
def interruption? (moment : Moment) (shared : Shared) (call : Call) : Option CancelReason :=
  let timer := (call.deadline.filter (·.instant ≤ moment.now)).map fun deadline =>
    CancelReason.deadline deadline.timeout
  let caller := if shared.cancelled then some CancelReason.caller else none
  if moment.choices.timerFirst then timer <|> caller else caller <|> timer

/-- Builds the request of a call whose deadline is fixed. -/
def build (call : Call) : Call :=
  match call.order.request with
  | .error error => (call.record [.rejected (.rejected error)]).finish (.error (.rejected error))
  | .ok request =>
    ((call.advance .requestBuilt).record [.requestReady request.url]).enter (.built request)

/-- Fixes the deadline of a call and builds its request. -/
def start (moment : Moment) (call : Call) : Call :=
  match call.order.timeout with
  | none => call.build
  | some timeout =>
    match Instant.add? moment.now timeout with
    | none => call.enter (.ended .clockOverflow)
    | some instant => { call with deadline := some ⟨instant, timeout⟩ }.build

/-- Looks whether the server has answered. -/
def awaitUpgrade (moment : Moment) (shared : Shared) (call : Call) (request : Request)
    (remote : Remote) : Shared × Call :=
  let (played, script, cancelled) :=
    remote.upgrade.play ⟨moment.now, 0, false⟩ shared.cancelled
  let shared := { shared with cancelled := cancelled }
  let remote := { remote with upgrade := script }
  match played with
  | .held => (shared, call.enter (.upgrading request remote))
  | .over none => (shared, ((call.record [.opened]).advance .upgraded).enter (.opened remote))
  | .over (some failure) =>
    let call := call.fail.record [.upgradeFailed request.url failure.message]
    (shared, call.finish (.error (.transport request.url failure.message)))

/-- What the server does when it has no session left to hand out. -/
def noRemote : Remote :=
  ⟨[.fail ⟨.other, "session already used"⟩], none, none, none, [], none⟩

/-- Asks the server for a session. -/
def askUpgrade (moment : Moment) (shared : Shared) (call : Call) (request : Request) :
    Shared × Call :=
  let call := call.record [.upgradeStarted request.url]
  match shared.remotes with
  | [] => awaitUpgrade moment shared call request noRemote
  | remote :: rest => awaitUpgrade moment { shared with remotes := rest } call request remote

/-- Looks at the streams of a call. -/
def stream (moment : Moment) (shared : Shared) (call : Call) (session : Streaming) :
    Shared × Call :=
  let look := session.look moment.choices moment.now shared.cancelled
  let shared := { shared with cancelled := look.cancelled }
  let call := call.record look.events
  match look.progress with
  | .pending => (shared, call.enter (.streaming look.session))
  | .finished output => (shared, call.complete output)
  | .failed failure => (shared, call.breakStreams failure)

/-- Takes the streams of a session and looks at them. -/
def takeStreams (moment : Moment) (shared : Shared) (call : Call) (remote : Remote) :
    Shared × Call :=
  (call.record [.inputTaken, .outputTaken, .errorsTaken]).stream moment shared
    (.start call.order.stdin remote)

/-- Goes on from one look at the caller's wish to the next. -/
def step (moment : Moment) (shared : Shared) (call : Call) : Shared × Call :=
  match call.phase with
  | .fresh => (shared, call.start moment)
  | .built request =>
    (shared, if shared.cancelled then call.cancelEarly .caller else call.enter (.asking request))
  | .asking request =>
    match call.interruption? moment shared with
    | some reason => (shared, call.cancelEarly reason)
    | none => askUpgrade moment shared call request
  | .upgrading request remote =>
    match call.interruption? moment shared with
    | some reason => (shared, call.cancelEarly reason)
    | none => awaitUpgrade moment shared call request remote
  | .opened remote =>
    (shared,
      if shared.cancelled then (call.cancelEarly .caller).release
      else (call.advance .streaming).enter (.entering remote))
  | .entering remote =>
    match call.interruption? moment shared with
    | some reason => (shared, call.cancelStreams reason)
    | none => takeStreams moment shared call remote
  | .streaming session =>
    match call.interruption? moment shared with
    | some reason => (shared, call.cancelStreams reason)
    | none => call.stream moment shared session
  | .ended _ => (shared, call)

/-- Whether a call waits for something or has ended, so that it takes no further step at once. -/
def rests (call : Call) : Bool :=
  match call.phase with
  | .upgrading _ _ | .streaming _ | .ended _ => true
  | _ => false

/-- Takes a further step with a call that does not rest. -/
def goOn (moment : Moment) (state : Shared × Call) : Shared × Call :=
  if state.2.rests then state else state.2.step moment state.1

/-- Does everything that can be done in a call at a moment; after five steps every call rests. -/
def poll (moment : Moment) (shared : Shared) (call : Call) : Shared × Call :=
  goOn moment (goOn moment (goOn moment (goOn moment (call.step moment shared))))

/-- How the call ended, if it has. -/
def ending? (call : Call) : Option (Ending ExecError Output) :=
  match call.phase with
  | .ended ending => some ending
  | _ => none

/-- The log of the call. -/
def log (call : Call) : List LogLine :=
  call.events.filterMap (Event.log? call.order.target)

end Call
end PodCommand
