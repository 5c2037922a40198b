import PodCommand.Proofs.Session.Forwarding
import PodCommand.Proofs.Session.Reading
import PodCommand.Session.Streaming

namespace PodCommand
namespace Streaming

/-!
Looks at open streams as steps of an invariant.

A look is put together of looks at the sides of a session, in an order that differs from moment to
moment.  `look_keeps` takes that order away: what every look at one side keeps, a whole look keeps,
whichever side comes first and wherever it stops.  A property of open streams is stated as a
`Promise`, in terms of the events since the streams were taken, and proved side by side.
-/

/-- What is promised of streams after the events since they were taken: as long as they are open,
once they have come to their end, and once they have failed. -/
structure Promise where
  pending : List Event → Streaming → Prop
  finished : List Event → Output → Prop
  failed : List Event → StreamFailure → Prop

/-- A look that comes after some events keeps a promise. -/
def Look.Keeps (promise : Promise) (before : List Event) (look : Look) : Prop :=
  match look.progress with
  | .pending => promise.pending (before ++ look.events) look.session
  | .finished output => promise.finished (before ++ look.events) output
  | .failed failure => promise.failed (before ++ look.events) failure

theorem Look.followedBy_of_pending {first : Look} (pending : first.progress = .pending)
    (second : Bool → Streaming → Look) :
    first.followedBy second =
      { second first.cancelled first.session with
        events := first.events ++ (second first.cancelled first.session).events } := by
  simp only [followedBy, pending]

theorem Look.followedBy_of_ne_pending {first : Look} (stopped : first.progress ≠ .pending)
    (second : Bool → Streaming → Look) : first.followedBy second = first := by
  unfold followedBy
  split
  · contradiction
  · rfl

/-- Looks at two sides keep a promise if the second keeps it wherever the first has kept it. -/
theorem Look.Keeps.followedBy {promise : Promise} {before : List Event} {first : Look}
    {second : Bool → Streaming → Look} (kept : first.Keeps promise before)
    (next : promise.pending (before ++ first.events) first.session →
      (second first.cancelled first.session).Keeps promise (before ++ first.events)) :
    (first.followedBy second).Keeps promise before := by
  by_cases pending : first.progress = .pending
  · rw [followedBy_of_pending pending]
    simp only [Keeps, pending] at kept next ⊢
    simpa only [List.append_assoc] using next kept
  · rw [followedBy_of_ne_pending pending]
    exact kept

/-! ## What a look at one side leaves alone -/

theorem channel_withChannel (session : Streaming) (outlet : Outlet) (channel : Channel) :
    (session.withChannel outlet channel).channel outlet = channel := by
  cases outlet <;> rfl

theorem channel_withChannel_of_ne (session : Streaming) {outlet other : Outlet}
    (different : outlet ≠ other) (channel : Channel) :
    (session.withChannel outlet channel).channel other = session.channel other := by
  cases outlet <;> cases other <;> first | rfl | exact absurd rfl different

theorem withChannel_status (session : Streaming) (outlet : Outlet) (channel : Channel) :
    (session.withChannel outlet channel).status = session.status := by
  cases outlet <;> rfl

theorem withChannel_statusScript (session : Streaming) (outlet : Outlet) (channel : Channel) :
    (session.withChannel outlet channel).statusScript = session.statusScript := by
  cases outlet <;> rfl

theorem withChannel_input (session : Streaming) (outlet : Outlet) (channel : Channel) :
    (session.withChannel outlet channel).input = session.input := by
  cases outlet <;> rfl

theorem Look.followedBy_input {first : Look} {second : Bool → Streaming → Look} {input : Input}
    (same : first.session.input = input)
    (next : ∀ cancelled session, session.input = input →
      (second cancelled session).session.input = input) :
    (first.followedBy second).session.input = input := by
  by_cases pending : first.progress = .pending
  · rw [followedBy_of_pending pending]
    exact next _ _ same
  · rw [followedBy_of_ne_pending pending]
    exact same

theorem lookChannel_input (now : Instant) (outlet : Outlet) (cancelled : Bool)
    (session : Streaming) :
    (session.lookChannel now outlet cancelled).session.input = session.input := by
  unfold lookChannel
  dsimp only
  split <;> exact withChannel_input session outlet _

theorem drain_input (now : Instant) (stderrFirst cancelled : Bool) (session : Streaming) :
    (session.drain now stderrFirst cancelled).session.input = session.input := by
  have next : ∀ outlet cancelled later, Streaming.input later = session.input →
      (lookChannel now outlet cancelled later).session.input = session.input :=
    fun outlet cancelled later same => (lookChannel_input now outlet cancelled later).trans same
  unfold drain
  split
  · exact Look.followedBy_input (lookChannel_input ..) (next _)
  · exact Look.followedBy_input (lookChannel_input ..) (next _)

theorem askStatus_input (now : Instant) (cancelled : Bool) (session : Streaming) :
    (session.askStatus now cancelled).session.input = session.input := by
  unfold askStatus
  dsimp only
  split <;> rfl

theorem lookOutput_input (now : Instant) (stderrFirst cancelled : Bool) (session : Streaming) :
    (session.lookOutput now stderrFirst cancelled).session.input = session.input := by
  refine Look.followedBy_input (drain_input ..) fun cancelled later same => ?_
  split
  · exact (askStatus_input ..).trans same
  · exact same

/-! ## From the sides to the whole -/

section Sides

variable {promise : Promise}
  (reads : ∀ outlet now cancelled before session, promise.pending before session →
    (session.lookChannel now outlet cancelled).Keeps promise before)
  (asks : ∀ now cancelled before session, promise.pending before session →
    session.stdout.hasEnded = true → session.stderr.hasEnded = true →
    (session.askStatus now cancelled).Keeps promise before)
  (feeds : ∀ now cancelled before session, promise.pending before session →
    session.input.forwarding = true → (session.lookInput now cancelled).Keeps promise before)

include reads in
theorem drain_keeps (now : Instant) (stderrFirst cancelled : Bool) {before : List Event}
    {session : Streaming} (kept : promise.pending before session) :
    (session.drain now stderrFirst cancelled).Keeps promise before := by
  unfold drain
  split
  · exact (reads _ _ _ _ _ kept).followedBy (reads _ _ _ _ _)
  · exact (reads _ _ _ _ _ kept).followedBy (reads _ _ _ _ _)

include reads asks in
theorem lookOutput_keeps (now : Instant) (stderrFirst cancelled : Bool) {before : List Event}
    {session : Streaming} (kept : promise.pending before session) :
    (session.lookOutput now stderrFirst cancelled).Keeps promise before := by
  refine (drain_keeps reads now stderrFirst cancelled kept).followedBy fun later => ?_
  split
  · rename_i ended
    rw [Bool.and_eq_true] at ended
    exact asks _ _ _ _ later ended.1 ended.2
  · simpa only [Look.Keeps, List.append_nil] using later

include reads asks feeds in
/-- What every look at one side keeps, a look at both sides keeps. -/
theorem look_keeps (choices : Choices) (now : Instant) (cancelled : Bool) {before : List Event}
    {session : Streaming} (kept : promise.pending before session) :
    (session.look choices now cancelled).Keeps promise before := by
  have output : ∀ {stderrFirst cancelled before session}, promise.pending before session →
      (session.lookOutput now stderrFirst cancelled).Keeps promise before :=
    fun {stderrFirst cancelled _ _} kept =>
      lookOutput_keeps reads asks now stderrFirst cancelled kept
  unfold look
  dsimp only
  split
  · exact output kept
  · rename_i forwarding
    rw [Bool.not_eq_true, Bool.not_eq_false'] at forwarding
    split
    · exact (feeds _ _ _ _ kept forwarding).followedBy output
    · refine Look.Keeps.followedBy ?_ fun later => ?_
      · refine (output kept).followedBy fun later => feeds _ _ _ _ later ?_
        rw [lookOutput_input]
        exact forwarding
      · split
        · simpa only [Look.Keeps, List.append_nil] using later
        · exact output later

end Sides

/-! ## Promises that hold of a session from its start -/

/-- A promise holds when the streams are taken, and every look at them keeps it. -/
structure Promise.Sustained (promise : Promise) (source : Option Tape) (remote : Remote) :
    Prop where
  start : promise.pending [] (.start source remote)
  look : ∀ choices now cancelled before session, promise.pending before session →
    (session.look choices now cancelled).Keeps promise before

end Streaming

namespace Event

/-- Whether an event is one of the open streams of a session. -/
def isStreaming : Event → Bool
  | wrote _ | inputShut | forwarded _ | inputRefused | inputFailed _ | read _ _ | drained _
  | broken _ _ | statusAsked | statusReported _ => true
  | _ => false

theorem isStreaming_of_isForwarding {event : Event} (forwarding : event.isForwarding = true) :
    event.isStreaming = true := by
  cases event <;> first | rfl | cases forwarding

theorem isStreaming_of_isReading {event : Event} {outlet : Outlet}
    (reading : event.isReading outlet = true) : event.isStreaming = true := by
  cases event <;> first | rfl | cases reading

end Event

namespace Streaming

/-- Nothing happens in open streams but what is theirs. -/
def onlyStreams : Promise where
  pending := fun events _ => ∀ event ∈ events, event.isStreaming = true
  finished := fun events _ => ∀ event ∈ events, event.isStreaming = true
  failed := fun events _ => ∀ event ∈ events, event.isStreaming = true

theorem keeps_onlyStreams_iff {before : List Event} {look : Look} :
    look.Keeps onlyStreams before ↔ ∀ event ∈ before ++ look.events, event.isStreaming = true := by
  unfold Look.Keeps
  cases look.progress <;> rfl

theorem keeps_onlyStreams {before : List Event} {look : Look}
    (earlier : ∀ event ∈ before, event.isStreaming = true)
    (own : ∀ event ∈ look.events, event.isStreaming = true) : look.Keeps onlyStreams before := by
  rw [keeps_onlyStreams_iff]
  intro event member
  exact (List.mem_append.mp member).elim (earlier event) (own event)

theorem lookChannel_events (now : Instant) (outlet : Outlet) (cancelled : Bool)
    (session : Streaming) :
    (session.lookChannel now outlet cancelled).events =
      ((session.channel outlet).look outlet (session.input.surroundings now) cancelled).events := by
  unfold lookChannel
  dsimp only
  split <;> rfl

theorem lookInput_events (now : Instant) (cancelled : Bool) (session : Streaming) :
    (session.lookInput now cancelled).events = (session.input.look now cancelled).events := by
  unfold lookInput
  dsimp only
  split <;> rfl

theorem look_isStreaming (choices : Choices) (now : Instant) (cancelled : Bool)
    (session : Streaming) :
    ∀ event ∈ (session.look choices now cancelled).events, event.isStreaming = true := by
  have kept : (session.look choices now cancelled).Keeps onlyStreams [] := by
    apply look_keeps
    case reads =>
      intro outlet now cancelled before session earlier
      refine keeps_onlyStreams earlier fun event member => ?_
      rw [lookChannel_events] at member
      exact Event.isStreaming_of_isReading (Channel.look_isReading _ _ _ _ event member)
    case asks =>
      intro now cancelled before session earlier _ _
      refine keeps_onlyStreams earlier ?_
      unfold askStatus
      dsimp only
      split <;> split <;> simp [Event.isStreaming]
    case feeds =>
      intro now cancelled before session earlier _
      refine keeps_onlyStreams earlier fun event member => ?_
      rw [lookInput_events] at member
      exact Event.isStreaming_of_isForwarding (Input.look_isForwarding _ _ _ event member)
    case kept => exact fun _ member => absurd member List.not_mem_nil
  exact keeps_onlyStreams_iff.mp kept

theorem onlyStreams_sustained (source : Option Tape) (remote : Remote) :
    onlyStreams.Sustained source remote where
  start := fun _ member => absurd member List.not_mem_nil
  look := fun choices now cancelled _ session earlier =>
    keeps_onlyStreams earlier (look_isStreaming choices now cancelled session)

end Streaming
end PodCommand
