import PodCommand.Proofs.Session.Run
import PodCommand.Proofs.Session.Streams

namespace PodCommand

/-!
What has happened in a call, for every phase that it can be in.

`History` lists the events of a call exactly, up to those of its open streams, and says with each
ending how the call came to it.  `run_history` is the one induction over runs: every step of a call
goes from a history to a history.  What the events of a run can and cannot be is read off from the
cases.
-/

/-- The remote side after a part of its answer to the request for a session has been played. -/
structure Remote.LeftOf (current remote : Remote) : Prop where
  streams : current = { remote with upgrade := current.upgrade }
  upgrade : ∀ outcome, current.upgrade.ComesTo outcome → remote.upgrade.ComesTo outcome

/-- How far a call with a proper request has come. -/
inductive Stage
  | requested
  | asked
  | opened
  | entered
  | taken (streamed : List Event) (own : ∀ event ∈ streamed, event.isStreaming = true)

namespace Stage

/-- The state of the session at a stage. -/
def state : Stage → SessionState
  | requested | asked => .requestBuilt
  | opened => .upgraded
  | entered | taken _ _ => .streaming

/-- What has happened up to a stage. -/
def events (request : Request) : Stage → List Event
  | requested => [.advanced .idle .requestBuilt, .requestReady request.url]
  | asked =>
    [.advanced .idle .requestBuilt, .requestReady request.url, .upgradeStarted request.url]
  | opened =>
    [.advanced .idle .requestBuilt, .requestReady request.url, .upgradeStarted request.url,
      .opened, .advanced .requestBuilt .upgraded]
  | entered =>
    [.advanced .idle .requestBuilt, .requestReady request.url, .upgradeStarted request.url,
      .opened, .advanced .requestBuilt .upgraded, .advanced .upgraded .streaming]
  | taken streamed _ =>
    [.advanced .idle .requestBuilt, .requestReady request.url, .upgradeStarted request.url,
      .opened, .advanced .requestBuilt .upgraded, .advanced .upgraded .streaming,
      .inputTaken, .outputTaken, .errorsTaken] ++ streamed

/-- What happens when a call is cancelled at a stage. -/
def cancellation (reason : CancelReason) : Stage → List Event
  | requested | asked => [.advanced .requestBuilt .failed]
  | opened => [.advanced .upgraded .failed, .aborted, .released]
  | entered | taken _ _ =>
    [.advanced .streaming .failed, .cancelled reason, .aborted, .released]

/-- The phases in which a call is at a stage. -/
inductive Fits (remote : Remote) (promise : Streaming.Promise) (request : Request) :
    Stage → Phase → Prop
  | built : Fits remote promise request .requested (.built request)
  | asking : Fits remote promise request .requested (.asking request)
  | upgrading {current : Remote} (left : current.LeftOf remote) :
      Fits remote promise request .asked (.upgrading request current)
  | opened {current : Remote} (streams : current = { remote with upgrade := current.upgrade })
      (agreed : remote.upgrade.ComesTo none) : Fits remote promise request .opened (.opened current)
  | entering {current : Remote} (streams : current = { remote with upgrade := current.upgrade })
      (agreed : remote.upgrade.ComesTo none) :
      Fits remote promise request .entered (.entering current)
  | streaming {session : Streaming} {streamed : List Event}
      {own : ∀ event ∈ streamed, event.isStreaming = true} (agreed : remote.upgrade.ComesTo none)
      (kept : promise.pending streamed session) :
      Fits remote promise request (.taken streamed own) (.streaming session)

end Stage

/-- The state, the phase and the events that belong together in the call of an order. -/
inductive History (order : Order) (remote : Remote) (promise : Streaming.Promise) :
    SessionState → Phase → List Event → Prop
  | fresh : History order remote promise .idle .fresh []
  | overflowed : History order remote promise .idle (.ended .clockOverflow) []
  | rejected {error : RequestError} (refused : order.request = .error error) :
      History order remote promise .idle (.ended (.returned (.error (.rejected error))))
        [.rejected (.rejected error)]
  | underWay {request : Request} (valid : order.request = .ok request) {stage : Stage}
      {phase : Phase} (fits : stage.Fits remote promise request phase) :
      History order remote promise stage.state phase (stage.events request)
  | cancelled {request : Request} (valid : order.request = .ok request) {stage : Stage}
      {phase : Phase} (fits : stage.Fits remote promise request phase) {reason : CancelReason}
      (wish : stage.state = .upgraded → reason = .caller) :
      History order remote promise .failed
        (.ended (.returned (.error (.cancelled reason stage.state))))
        (stage.events request ++ stage.cancellation reason)
  | refused {request : Request} (valid : order.request = .ok request) {failure : StreamFailure}
      (raised : remote.upgrade.ComesTo (some failure)) :
      History order remote promise .failed
        (.ended (.returned (.error (.transport request.url failure.message))))
        (Stage.asked.events request ++
          [.advanced .requestBuilt .failed, .upgradeFailed request.url failure.message])
  | completed {request : Request} (valid : order.request = .ok request) {streamed : List Event}
      {own : ∀ event ∈ streamed, event.isStreaming = true} {output : Output}
      (agreed : remote.upgrade.ComesTo none) (kept : promise.finished streamed output) :
      History order remote promise .completed (.ended (.returned (.ok output)))
        ((Stage.taken streamed own).events request ++
          [.advanced .streaming .completed,
            .finished output.stdout.length output.stderr.length output.exitCode,
            .aborted, .released])
  | broken {request : Request} (valid : order.request = .ok request) {streamed : List Event}
      {own : ∀ event ∈ streamed, event.isStreaming = true} {failure : StreamFailure}
      (agreed : remote.upgrade.ComesTo none) (kept : promise.failed streamed failure) :
      History order remote promise .failed (.ended (.returned (.error (.stream failure))))
        ((Stage.taken streamed own).events request ++
          [.advanced .streaming .failed, .failed (.stream failure), .aborted, .released])

namespace Call

variable {order : Order} {remote : Remote} {promise : Streaming.Promise}

/-- The call is one of the order, and its history is as it should be. -/
def HasHistory (order : Order) (remote : Remote) (promise : Streaming.Promise) (call : Call) :
    Prop :=
  call.order = order ∧ History order remote promise call.state call.phase call.events

theorem start_history (moment : Moment) (deadline : Option Deadline) :
    (start moment ⟨order, deadline, .idle, .fresh, []⟩).HasHistory order remote promise := by
  have building : ∀ deadline,
      (build ⟨order, deadline, .idle, .fresh, []⟩).HasHistory order remote promise := by
    intro deadline
    unfold build
    cases requested : order.request with
    | error error => exact ⟨rfl, .rejected requested⟩
    | ok request => exact ⟨rfl, .underWay requested .built⟩
  unfold start
  dsimp only
  split
  · exact building deadline
  · split
    · exact ⟨rfl, .overflowed⟩
    · exact building _

/-- A call that has asked for a session goes on by the answer. -/
theorem awaitUpgrade_history {request : Request} (valid : order.request = .ok request)
    (moment : Moment) (shared : Shared) (deadline : Option Deadline) (phase : Phase)
    {current : Remote} (left : current.LeftOf remote) :
    HasHistory order remote promise
      (awaitUpgrade moment shared
        ⟨order, deadline, .requestBuilt, phase, Stage.asked.events request⟩ request current).2 := by
  unfold awaitUpgrade
  cases played : current.upgrade.play ⟨moment.now, 0, false⟩ shared.cancelled with
  | mk outcome rest =>
      rcases rest with ⟨script, cancelled⟩
      dsimp only
      have streams : { current with upgrade := script } = { remote with upgrade := script } := by
        rw [left.streams]
      split
      · have held := congrArg Prod.fst played
        have rest := congrArg (fun result => result.2.1) played
        refine ⟨rfl, .underWay valid (.upgrading ⟨streams, fun outcome comes => ?_⟩)⟩
        refine left.upgrade outcome (Script.comesTo_of_held held ?_)
        rw [rest]
        exact comes
      · have agreed := left.upgrade none (Script.comesTo_of_over (congrArg Prod.fst played))
        exact ⟨rfl, .underWay valid (.opened streams agreed)⟩
      · have raised := left.upgrade (some _) (Script.comesTo_of_over (congrArg Prod.fst played))
        exact ⟨rfl, .refused valid raised⟩

/-- A call with open streams goes on by what a look at them comes to. -/
theorem stream_history {request : Request} (valid : order.request = .ok request)
    (agreed : remote.upgrade.ComesTo none) (sustained : promise.Sustained order.stdin remote)
    (moment : Moment) (shared : Shared) (deadline : Option Deadline) (phase : Phase)
    {session : Streaming} {streamed : List Event}
    (own : ∀ event ∈ streamed, event.isStreaming = true) (kept : promise.pending streamed session) :
    HasHistory order remote promise
      (stream moment shared
        ⟨order, deadline, .streaming, phase, (Stage.taken streamed own).events request⟩
        session).2 := by
  have later := sustained.look moment.choices moment.now shared.cancelled streamed session kept
  have streaming := Streaming.look_isStreaming moment.choices moment.now shared.cancelled session
  unfold stream
  generalize session.look moment.choices moment.now shared.cancelled = look at later streaming
  rcases look with ⟨session, progress, cancelled, seen⟩
  have own' : ∀ event ∈ streamed ++ seen, event.isStreaming = true := fun event member =>
    (List.mem_append.mp member).elim (own event) (streaming event)
  have events : (Stage.taken streamed own).events request ++ seen =
      (Stage.taken (streamed ++ seen) own').events request := List.append_assoc ..
  cases progress with
  | pending =>
      refine ⟨rfl, ?_⟩
      simp only [record, enter, events]
      exact .underWay valid (.streaming agreed later)
  | finished output =>
      refine ⟨rfl, ?_⟩
      simp only [record, complete, release, finish, enter, advance, events, List.append_assoc,
        List.cons_append, List.nil_append]
      exact .completed valid agreed later
  | failed failure =>
      refine ⟨rfl, ?_⟩
      simp only [record, breakStreams, release, finish, enter, fail, advance,
        SessionState.isTerminal, Bool.false_eq_true, if_false, events, List.append_assoc,
        List.cons_append, List.nil_append]
      exact .broken valid agreed later

/-- A call that is cancelled before its streams are there ends with nothing but that told. -/
theorem cancelEarly_history {request : Request} (valid : order.request = .ok request)
    {stage : Stage} {phase : Phase} (fits : stage.Fits remote promise request phase)
    (early : stage.state = .requestBuilt) (deadline : Option Deadline) (reason : CancelReason) :
    (cancelEarly ⟨order, deadline, stage.state, phase, stage.events request⟩ reason).HasHistory
      order remote promise := by
  cases stage with
  | requested => exact ⟨rfl, .cancelled valid fits (fun late => by cases late)⟩
  | asked => exact ⟨rfl, .cancelled valid fits (fun late => by cases late)⟩
  | _ => cases early

/-- A call that is cancelled while its streams are there is released after that. -/
theorem cancelStreams_history {request : Request} (valid : order.request = .ok request)
    {stage : Stage} {phase : Phase} (fits : stage.Fits remote promise request phase)
    (late : stage.state = .streaming) (deadline : Option Deadline) (reason : CancelReason) :
    (cancelStreams ⟨order, deadline, stage.state, phase, stage.events request⟩ reason).HasHistory
      order remote promise := by
  have told : History order remote promise .failed
      (.ended (.returned (.error (.cancelled reason stage.state))))
      (stage.events request ++ stage.cancellation reason) :=
    .cancelled valid fits (fun opened => by rw [late] at opened; cases opened)
  cases stage with
  | entered => exact ⟨rfl, told⟩
  | taken streamed own =>
      refine ⟨rfl, ?_⟩
      simp only [cancelStreams, fail, Stage.state, SessionState.isTerminal, Bool.false_eq_true,
        if_false, advance, record, finish, enter, release, List.append_assoc, List.cons_append,
        List.nil_append]
      exact told
  | _ => cases late

/-- The step lemma of histories. -/
theorem next_history (sustained : promise.Sustained order.stdin remote) {call : Call}
    (glance : Glance) (history : call.HasHistory order remote promise) :
    (call.next remote glance).HasHistory order remote promise := by
  rcases call with ⟨own, deadline, state, phase, events⟩
  rcases history with ⟨same, told⟩
  dsimp only at same told
  subst same
  cases told with
  | fresh => exact start_history glance.moment deadline
  | overflowed => exact ⟨rfl, .overflowed⟩
  | rejected refused => exact ⟨rfl, .rejected refused⟩
  | cancelled valid fits wish => exact ⟨rfl, .cancelled valid fits wish⟩
  | refused valid raised => exact ⟨rfl, .refused valid raised⟩
  | completed valid agreed kept => exact ⟨rfl, .completed valid agreed kept⟩
  | broken valid agreed kept => exact ⟨rfl, .broken valid agreed kept⟩
  | @underWay request valid stage phase fits =>
      unfold next step
      dsimp only
      cases fits with
      | built =>
          dsimp only
          split
          · exact ⟨rfl, .cancelled valid .built (fun _ => rfl)⟩
          · exact ⟨rfl, .underWay valid .asking⟩
      | asking =>
          dsimp only
          split
          · exact cancelEarly_history valid .asking rfl deadline _
          · exact awaitUpgrade_history valid _ _ deadline _ ⟨rfl, fun _ comes => comes⟩
      | upgrading left =>
          dsimp only
          split
          · exact cancelEarly_history valid (.upgrading left) rfl deadline _
          · exact awaitUpgrade_history valid _ _ deadline _ left
      | opened streams agreed =>
          dsimp only
          split
          · exact ⟨rfl, .cancelled valid (.opened streams agreed) (fun _ => rfl)⟩
          · exact ⟨rfl, .underWay valid (.entering streams agreed)⟩
      | @entering current streams agreed =>
          dsimp only
          split
          · exact cancelStreams_history valid (.entering streams agreed) rfl deadline _
          · -- Playing the answer of the server has left the streams as they were.
            have begun : Streaming.start own.stdin current = .start own.stdin remote := by
              rw [streams]
              rfl
            unfold takeStreams
            rw [begun]
            exact stream_history valid agreed sustained _ _ deadline _
              (fun _ member => absurd member List.not_mem_nil) sustained.start
      | @streaming session streamed owned agreed kept =>
          dsimp only
          split
          · exact cancelStreams_history valid (.streaming agreed kept) rfl deadline _
          · exact stream_history valid agreed sustained _ _ deadline _ owned kept

/-- The history of every run is as it should be. -/
theorem run_history (sustained : promise.Sustained order.stdin remote) (glances : List Glance) :
    (order.run remote glances).HasHistory order remote promise :=
  after_invariant (HasHistory order remote promise)
    (fun _ glance history => next_history sustained glance history)
    ⟨rfl, .fresh⟩ glances

/-- The history of a run, where no more is said of its streams than whose events they tell. -/
theorem run_hasHistory (order : Order) (remote : Remote) (glances : List Glance) :
    (order.run remote glances).HasHistory order remote Streaming.onlyStreams :=
  run_history (Streaming.onlyStreams_sustained order.stdin remote) glances

end Call
end PodCommand
