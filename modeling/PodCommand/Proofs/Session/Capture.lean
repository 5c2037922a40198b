import PodCommand.Proofs.Session.History
import PodCommand.Proofs.Session.Interruption
import PodCommand.Proofs.Session.Readiness
import PodCommand.Proofs.Session.Tracking

namespace PodCommand

/-!
What a call has captured when it is completed, and when it is completed.

A completed call has the output that the two channels deliver and the status that the session has
reported.  The other way round, a call is completed as soon as nothing holds back what is left of
the output side, unless the caller, the deadline or a failure comes first.
-/

namespace Event

theorem octets_of_not_isStreaming {event : Event} (other : event.isStreaming = false)
    (outlet : Outlet) : event.octets outlet = [] := by
  cases event <;> first | rfl | cases other

end Event

/-- What happens before the streams of a session are taken, and after they are closed, changes
nothing in what has been captured. -/
theorem Output.Captures.within {output : Output} {remote : Remote} {events : List Event}
    (captures : output.Captures remote events) {before after : List Event}
    (early : ∀ event ∈ before, event.isStreaming = false)
    (late : ∀ event ∈ after, event.isStreaming = false) :
    output.Captures remote (before ++ events ++ after) where
  delivered := captures.delivered
  chunks := captures.chunks
  read := by
    intro outlet
    have silent : ∀ {more : List Event}, (∀ event ∈ more, event.isStreaming = false) →
        more.flatMap (Event.octets outlet) = [] := by
      intro more quiet
      rw [List.flatMap_eq_nil_iff]
      exact fun event member => Event.octets_of_not_isStreaming (quiet event member) outlet
    rw [List.flatMap_append, List.flatMap_append, silent early, silent late, List.nil_append,
      List.append_nil]
    exact captures.read outlet
  drained := fun outlet => (captures.drained outlet).imp_right fun told =>
    List.mem_append_left after (List.mem_append_right before told)
  unbroken := by
    intro outlet failure member
    rcases List.mem_append.mp member with earlier | later
    · rcases List.mem_append.mp earlier with first | within
      · cases early _ first
      · exact captures.unbroken outlet failure within
    · cases late _ later
  status := captures.status
  reported := List.mem_append_left after (List.mem_append_right before captures.reported)

theorem StreamFailure.Raised.within {failure : StreamFailure} {events : List Event}
    (raised : failure.Raised events) (before after : List Event) :
    failure.Raised (before ++ events ++ after) := by
  have wider : ∀ {event}, event ∈ events → event ∈ before ++ events ++ after :=
    fun told => List.mem_append_left after (List.mem_append_right before told)
  cases raised with
  | broken outlet told => exact .broken outlet (wider told)
  | input told => exact .input (wider told)
  | unreported missing told => exact .unreported missing (wider told)

section

variable {order : Order} {remote : Remote} {state : SessionState} {phase : Phase}
  {events : List Event}

theorem History.captures {output : Output}
    (history : History order remote (Streaming.capture remote) state
      (.ended (.returned (.ok output))) events) : output.Captures remote events := by
  cases history with
  | underWay valid fits => cases fits
  | @completed request valid streamed own output agreed kept =>
      exact Output.Captures.within kept (by simp [Event.isStreaming]) (by simp [Event.isStreaming])

theorem History.raised {failure : StreamFailure}
    (history : History order remote (Streaming.capture remote) state
      (.ended (.returned (.error (.stream failure)))) events) : failure.Raised events := by
  cases history with
  | underWay valid fits => cases fits
  | broken valid agreed kept => exact kept.1.within _ _

/-- A session that is under way has not reported yet how the command ended. -/
theorem Stage.unreported {stage : Stage} {request : Request}
    (fits : stage.Fits remote (Streaming.capture remote) request phase)
    (status : Option ExitStatus) : .statusReported status ∉ stage.events request := by
  cases fits with
  | @streaming session streamed own agreed kept =>
      intro member
      rcases List.mem_append.mp member with before | within
      · simp at before
      · exact kept.unreported status within
  | _ => simp [Stage.events]

/-- Once the session has reported how the command ended, the call is completed. -/
theorem History.completed_of_reported
    (history : History order remote (Streaming.capture remote) state phase events)
    {status : ExitStatus} (reported : .statusReported (some status) ∈ events) :
    ∃ output, phase = .ended (.returned (.ok output)) := by
  cases history with
  | completed valid agreed kept => exact ⟨_, rfl⟩
  | underWay valid fits => exact absurd reported (Stage.unreported fits _)
  | @cancelled request valid stage phase fits reason wish =>
      rcases List.mem_append.mp reported with earlier | later
      · exact absurd earlier (Stage.unreported fits _)
      · cases stage <;> simp [Stage.cancellation] at later
  | broken valid agreed kept =>
      rcases List.mem_append.mp reported with earlier | later
      · rcases List.mem_append.mp earlier with before | within
        · simp at before
        · exact absurd within (kept.2 status)
      · simp at later
  | fresh | overflowed => cases reported
  | rejected => simp at reported
  | refused => simp [Stage.events] at reported

end

namespace Call

/-- The streams that the next look at a call is a look at. -/
def session? (call : Call) : Option Streaming :=
  match call.phase with
  | .entering remote => some (.start call.order.stdin remote)
  | .streaming session => some session
  | _ => none

/-- The call takes what a look at its streams comes to. -/
theorem next_of_session? {call : Call} {session : Streaming} {glance : Glance}
    (streams : call.session? = some session) {remote : Remote}
    (calm : call.interruption? glance.moment ⟨glance.cancelled, [remote]⟩ = none) :
    ∃ earlier : Call, call.next remote glance =
      (earlier.stream glance.moment ⟨glance.cancelled, [remote]⟩ session).2 := by
  unfold session? at streams
  unfold next step
  cases phase : call.phase with
  | entering current =>
      rw [phase] at streams
      rw [← Option.some.inj streams]
      simp only [calm]
      exact ⟨_, rfl⟩
  | streaming current =>
      rw [phase] at streams
      rw [← Option.some.inj streams]
      simp only [calm]
      exact ⟨_, rfl⟩
  | _ =>
      rw [phase] at streams
      cases streams

theorem mem_fail {call : Call} {event : Event} (member : event ∈ call.events) :
    event ∈ call.fail.events := by
  unfold fail
  split
  · exact member
  · exact List.mem_append_left _ member

/-- What a look at the streams tells is told in the call. -/
theorem mem_stream_of_mem_look {moment : Moment} {shared : Shared} {call : Call}
    {session : Streaming} {event : Event}
    (member : event ∈ (session.look moment.choices moment.now shared.cancelled).events) :
    event ∈ (stream moment shared call session).2.events := by
  have told : event ∈
      (call.record (session.look moment.choices moment.now shared.cancelled).events).events :=
    List.mem_append_right _ member
  unfold stream
  dsimp only
  split
  · exact told
  · exact List.mem_append_left _ (List.mem_append_left _ (List.mem_append_left _ told))
  · exact List.mem_append_left _ (List.mem_append_left _ (mem_fail told))

theorem ending?_stream_of_finished {moment : Moment} {shared : Shared} {call : Call}
    {session : Streaming} {output : Output}
    (finished : (session.look moment.choices moment.now shared.cancelled).progress =
      .finished output) :
    (stream moment shared call session).2.ending? = some (.returned (.ok output)) := by
  unfold stream
  simp only [finished]
  rfl

/-- The far side of the input is not closed while a call forwards to it. -/
theorem unshut_of_session? {order : Order} {remote : Remote} {glances : List Glance}
    {session : Streaming} (streams : (order.run remote glances).session? = some session) :
    session.input.forwarding = true → session.input.closed = false := by
  have history := (run_history (Streaming.capture_sustained order.stdin remote) glances).2
  unfold session? at streams
  cases phase : (order.run remote glances).phase with
  | entering current =>
      rw [phase] at streams
      rw [← Option.some.inj streams]
      exact fun _ => rfl
  | streaming current =>
      rw [phase] at streams history
      rw [← Option.some.inj streams]
      generalize (order.run remote glances).state = state at history
      generalize (order.run remote glances).events = events at history
      cases history with
      | underWay valid fits =>
          cases fits with
          | streaming agreed kept => exact kept.unshut
  | _ =>
      rw [phase] at streams
      cases streams

/-- A call that looks at its streams tells so by its state. -/
theorem state_of_session? {order : Order} {remote : Remote} {glances : List Glance}
    {session : Streaming} (streams : (order.run remote glances).session? = some session) :
    (order.run remote glances).state = .streaming := by
  have history := (run_hasHistory order remote glances).2
  unfold session? at streams
  generalize (order.run remote glances).state = state at history ⊢
  generalize (order.run remote glances).events = events at history
  cases phase : (order.run remote glances).phase with
  | entering | streaming =>
      rw [phase] at history
      cases history with
      | underWay valid fits =>
          cases fits
          rfl
  | _ =>
      rw [phase] at streams
      cases streams

end Call

/-- What the runs of an order capture. -/
structure Order.CapturesExactly (order : Order) (remote : Remote) (glances : List Glance) :
    Prop where
  /-- The output of a completed call is what the channels deliver. -/
  exact : ∀ output, (order.run remote glances).ending? = some (.returned (.ok output)) →
    output.Captures remote (order.run remote glances).events
  /-- Only a failure of one of the streams, or a missing status, breaks them off. -/
  spoiled : ∀ failure,
    (order.run remote glances).ending? = some (.returned (.error (.stream failure))) →
    failure.Raised (order.run remote glances).events
  /-- Once the session has reported a status nothing comes between it and the result. -/
  reported : ∀ status, .statusReported (some status) ∈ (order.run remote glances).events →
    ∃ output, (order.run remote glances).ending? = some (.returned (.ok output))
  /-- A call is completed at a glance at which its channels can be read to their ends and
  the session can report a status, if the caller and the deadline have not come first and forwarding
  does not fail. -/
  completed : ∀ before glance later session, glances = before ++ glance :: later →
    (order.run remote before).session? = some session → glance.cancelled = false →
    (∀ deadline, (order.run remote before).deadline = some deadline →
      glance.moment.now < deadline.instant) →
    session.Ready glance.moment.now →
    (∀ failure, .inputFailed failure ∉ (order.run remote (before ++ [glance])).events) →
    ∃ output, (order.run remote glances).ending? = some (.returned (.ok output))

/-- Every run of every order captures exactly what the remote side sends. -/
theorem captures_exactly (order : Order) (remote : Remote) (glances : List Glance) :
    order.CapturesExactly remote glances where
  exact := by
    intro output ended
    have history :=
      (Call.run_history (Streaming.capture_sustained order.stdin remote) glances).2
    rw [Call.phase_of_ending? ended] at history
    exact history.captures
  spoiled := by
    intro failure ended
    have history :=
      (Call.run_history (Streaming.capture_sustained order.stdin remote) glances).2
    rw [Call.phase_of_ending? ended] at history
    exact history.raised
  reported := by
    intro status told
    have history :=
      (Call.run_history (Streaming.capture_sustained order.stdin remote) glances).2
    rcases history.completed_of_reported told with ⟨output, phase⟩
    refine ⟨output, ?_⟩
    rw [Call.ending?, phase]
  completed := by
    intro before glance later session split streams wanted early ready sound
    subst split
    have calm : (order.run remote before).interruption? glance.moment
        ⟨glance.cancelled, [remote]⟩ = none := Call.interruption_eq_none wanted early
    rcases Call.next_of_session? streams calm with ⟨earlier, same⟩
    rw [Order.run_concat, same] at sound
    rcases ready.look (Call.unshut_of_session? streams) glance.moment.choices glance.cancelled
      (fun failure told => sound failure (Call.mem_stream_of_mem_look told)) with ⟨output, finished⟩
    have stopped : ((order.run remote before).next remote glance).ending? =
        some (.returned (.ok output)) := by
      rw [same]
      exact Call.ending?_stream_of_finished finished
    rw [Order.run_of_last stopped]
    exact ⟨output, stopped⟩

/-- Everything that a prompt server sends is captured at the fifth glance. -/
theorem listing_captured :
    ∃ output, (Order.listing.run .prompt (List.replicate 6 (.calm 0))).ending? =
        some (.returned (.ok output)) ∧
      output.Captures .prompt (Order.listing.run .prompt (List.replicate 6 (.calm 0))).events := by
  have captures := captures_exactly .listing .prompt (List.replicate 6 (.calm 0))
  have ready : Streaming.Ready 0 (.start none .prompt) := by
    refine ⟨fun outlet step member => ?_, by decide, rfl⟩
    cases outlet with
    | output =>
        have chunk : step = .data [97] ∨ step = .data [98] := by
          simpa [Streaming.channel, Streaming.start, Channel.ofScript, Remote.prompt] using member
        rcases chunk with rfl | rfl <;>
          exact ⟨fun _ => Meeting.noConfusion, fun _ => Step.noConfusion⟩
    | errors =>
        have chunk : step = .data [33] := by
          simpa [Streaming.channel, Streaming.start, Channel.ofScript, Remote.prompt] using member
        rw [chunk]
        exact ⟨fun _ => Meeting.noConfusion, fun _ => Step.noConfusion⟩
  have early : ∀ deadline,
      (Order.listing.run .prompt (List.replicate 4 (.calm 0))).deadline = some deadline →
      0 < deadline.instant := by
    intro deadline fixed
    cases fixed
    decide
  have sound : ∀ failure, .inputFailed failure ∉
      (Order.listing.run .prompt (List.replicate 4 (.calm 0) ++ [.calm 0])).events := by
    intro failure told
    have quiet : ∀ event ∈
        (Order.listing.run .prompt (List.replicate 4 (.calm 0) ++ [.calm 0])).events,
        event.isForwarding = false := by
      decide +kernel
    cases quiet _ told
  rcases captures.completed (List.replicate 4 (.calm 0)) (.calm 0) [.calm 0] _ rfl rfl rfl early
    ready sound with ⟨output, ended⟩
  exact ⟨output, ended, captures.exact output ended⟩

end PodCommand
