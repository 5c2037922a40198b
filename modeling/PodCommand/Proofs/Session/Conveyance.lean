import PodCommand.Proofs.Session.Clearance
import PodCommand.Proofs.Session.Source
import PodCommand.Proofs.Session.Transcript

namespace PodCommand

/-!
What the far side takes is what the local source gives.

Octets pass from the source through a buffer to the far side, and at every moment the three together
are the source: what the far side has taken, followed by what is in the buffer, is what has been
read of it.  However writes and reads are cut, held up or failed, every request keeps this account,
so what the far side has taken always comes first in what the source gives; and where forwarding is
complete, it is all that the source gives before it ends.
-/

namespace Event

/-- The octets that an event tells to be taken by the far side of the input. -/
def written : Event → Bytes
  | wrote bytes => bytes
  | _ => []

theorem flatMap_written_filter (events : List Event) :
    (events.filter isForwarding).flatMap written = events.flatMap written := by
  induction events with
  | nil => rfl
  | cons event events ih =>
      cases forwarding : event.isForwarding with
      | true => rw [List.filter_cons_of_pos forwarding, List.flatMap_cons, List.flatMap_cons, ih]
      | false =>
          have silent : event.written = [] := by
            cases event <;> first | rfl | cases forwarding
          rw [List.filter_cons_of_neg (by simp [forwarding]), List.flatMap_cons, silent, ih,
            List.nil_append]

/-- Where writes come first and then what writes nothing, the octets are those of the writes. -/
theorem flatMap_written {events ending : List Event} {writes : List Bytes}
    (told : events.filter isForwarding = writes.map .wrote ++ ending)
    (silent : ∀ event ∈ ending, event.written = []) :
    events.flatMap written = writes.flatten := by
  rw [← flatMap_written_filter, told, List.flatMap_append, List.flatMap_eq_nil_iff.mpr silent,
    List.append_nil, List.flatMap_map]
  exact List.flatMap_id'

end Event

namespace Tape.Yields

/-- What is read of the data at the front of a tape, and what is still to be read of it. -/
theorem unread {whole tape : Tape} {read : Bytes} (yields : whole.Yields read tape) {bytes : Bytes}
    {rest : Script} (front : tape.script = .data bytes :: rest) (count : Nat) :
    whole.Yields (read ++ bytes.take count) ((tape.goTo rest).unread (bytes.drop count)) := by
  have split : bytes.take count ++ bytes.drop count = bytes := List.take_append_drop count bytes
  unfold Tape.unread
  split
  · rename_i nothing
    rw [List.isEmpty_iff.mp nothing, List.append_nil] at split
    rw [split]
    refine yields.goTo ?_
    rw [front]
    exact .data rest bytes
  · have part := Script.Yields.data_part rest (bytes.take count) (bytes.drop count)
    rw [split, ← front] at part
    exact yields.goTo part

theorem held {whole tape left : Tape} {read : Bytes} {around : Surroundings}
    (yields : whole.Yields read tape) (held : tape.Held around left) : whole.Yields read left := by
  cases held with
  | dry => exact yields
  | step front held =>
      rw [← List.append_nil read]
      refine yields.goTo ?_
      rw [front]
      exact .held _ held

end Tape.Yields

namespace Copy

/-- What the far side has taken, followed by what is in the buffer, is what has been read of a
source. -/
def Carries (whole : Tape) (copy : Copy) : Prop :=
  whole.Yields (copy.received ++ copy.unwritten) copy.source

/-- What is known of a copy that has come to an outcome: where it has failed, all that counts is
what the far side has taken. -/
def Leaves (whole : Tape) (copy : Copy) : Outcome → Prop
  | .failed _ => whole.Gives copy.received
  | _ => copy.Carries whole

/-- A request that keeps the account. -/
def Stride.Carries (whole : Tape) : Stride → Prop
  | .quiet next | .gaveUp next | .wrote _ next => next.Carries whole
  | .rests next outcome => next.Leaves whole outcome

/-- A request that is the last leaves a copy that can rest, and if the copy is done, one that has
shut the far side down. -/
def Stride.Settles : Stride → Prop
  | .rests next .done => next.stage = .closing
  | .rests next .pending => next.stage.isRest = true
  | _ => True

section

variable {whole : Tape} {copy : Copy} {now : Instant}

theorem Carries.deliver (carries : copy.Carries whole) (count : Nat) :
    (copy.deliver count).Carries whole := by
  have taken : (copy.deliver count).received ++ (copy.deliver count).unwritten =
      copy.received ++ copy.unwritten := by
    rw [received_deliver, List.append_assoc]
    refine congrArg (copy.received ++ ·) ?_
    unfold Copy.deliver
    dsimp only
    split <;> exact List.take_append_drop count copy.unwritten
  have source : (copy.deliver count).source = copy.source := by
    unfold Copy.deliver
    dsimp only
    split <;> rfl
  rw [Copy.Carries, taken, source]
  exact carries

theorem Carries.gives (carries : copy.Carries whole) : whole.Gives copy.received := by
  rcases Tape.Yields.gives carries with ⟨looks, part⟩
  exact ⟨looks, (List.prefix_append _ _).trans part⟩

theorem Carries.read (carries : copy.Carries whole) {given starved : Copy → Stride}
    (gives : ∀ later : Copy, later.Carries whole → (given later).Carries whole)
    (starves : ∀ later : Copy, later.Carries whole → (starved later).Carries whole) :
    (copy.read now given starved).Carries whole := by
  have passes : ∀ {step : Step} {rest : Script}, copy.source.script = step :: rest →
      Script.Yields (step :: rest) [] rest →
      (copy.withSource (copy.source.goTo rest)).Carries whole := by
    intro step rest front passed
    have later := Tape.Yields.goTo carries (front ▸ passed)
    rwa [List.append_nil] at later
  refine read_cases (fun _ _ => gives _ carries) (fun step rest front idle => ?_)
    (fun rest front => passes front (.pause rest rfl)) (fun left held => starves _ ?_)
    (fun bytes rest front _ => gives _ ?_) (fun _ _ _ => carries.gives)
  · have met := step.met (copy.surroundings now)
    refine passes front ?_
    cases idle with
    | passed passed =>
        rw [passed] at met
        cases met with
        | passed pause => exact .pause rest pause
    | accept count => exact .accept rest count
    | empty => exact .data rest []
  · exact Tape.Yields.held carries held
  · have later := Tape.Yields.unread carries front (bufferSize - copy.filled)
    rwa [List.append_assoc] at later

/-- The step lemma: octets are neither lost nor doubled by a request. -/
theorem Carries.step (carries : copy.Carries whole) (now : Instant) :
    (copy.step now).Carries whole := by
  have starves : ∀ later : Copy, later.Carries whole → later.starve.Carries whole := by
    intro later carries
    unfold starve
    split
    · exact carries
    · split <;> exact carries
  have settles : ∀ {tape : Tape} {put : Tape → Copy} {held answered : Copy → Stride},
      (∀ left, (put left).Carries whole) →
      (∀ later : Copy, later.Carries whole → (held later).Carries whole) →
      (∀ later : Copy, later.Carries whole → (answered later).Carries whole) →
      (copy.settle now tape put held answered).Carries whole := by
    intro tape put held answered puts waits answers
    exact settle_cases (fun _ _ => answers _ carries) (fun _ _ _ _ => puts _) (fun _ _ => puts _)
      (fun _ _ => waits _ (puts _)) (fun _ _ _ _ => answers _ (puts _))
      (fun _ _ _ => (puts _).gives)
  unfold Copy.step
  cases copy.stage with
  | reading => exact carries.read (fun _ later => later) starves
  | toppingUp => exact carries.read (fun _ later => later) (fun _ later => later)
  | writing =>
      have kept : ∀ left, (copy.withTakes left).Carries whole := fun _ => carries
      refine write_cases (fun _ _ => carries.deliver _) (fun _ _ _ _ => kept _) (fun _ _ => kept _)
        (fun left _ => ?_) (fun _ _ => carries.gives) (fun _ _ _ _ => (kept _).deliver _)
        (fun _ _ _ => carries.gives)
      unfold stall
      split <;> exact carries
  | flushing | finishing => exact settles (fun _ => carries) (fun _ => id) (fun _ => id)
  | closing => exact settles (fun _ => carries) (fun _ => id) (fun _ => id)

theorem settles_starve (resting : copy.stage.isRest = true) : copy.starve.Settles := by
  unfold starve
  split
  · trivial
  · split
    · trivial
    · exact resting

theorem settles_stall (resting : copy.stage.isRest = true) : copy.stall.Settles := by
  unfold stall
  split
  · trivial
  · exact resting

theorem settles_await (copy : Copy) : copy.await.Settles := by
  unfold await Copy.enter
  dsimp only [Stride.Settles]
  split <;> rfl

theorem settles_step (copy : Copy) (now : Instant) : (copy.step now).Settles := by
  unfold Copy.step
  cases current : copy.stage with
  | reading =>
      have resting : ∀ left, (copy.withSource left).stage.isRest = true := fun left => by
        rw [withSource, current]
        rfl
      exact read_cases (fun _ _ => trivial) (fun _ _ _ _ => trivial) (fun _ _ => trivial)
        (fun _ _ => settles_starve (resting _)) (fun _ _ _ _ => trivial) (fun _ _ _ => trivial)
  | toppingUp =>
      exact read_cases (fun _ _ => settles_await _) (fun _ _ _ _ => trivial) (fun _ _ => trivial)
        (fun _ _ => settles_await _) (fun _ _ _ _ => settles_await _) (fun _ _ _ => trivial)
  | writing =>
      have resting : ∀ left, (copy.withTakes left).stage.isRest = true := fun left => by
        rw [withTakes, current]
        rfl
      exact write_cases (fun _ _ => trivial) (fun _ _ _ _ => trivial) (fun _ _ => trivial)
        (fun _ _ => settles_stall (resting _)) (fun _ _ => trivial) (fun _ _ _ _ => trivial)
        (fun _ _ _ => trivial)
  | flushing =>
      exact settle_cases (fun _ _ => rfl) (fun _ _ _ _ => trivial) (fun _ _ => trivial)
        (fun _ _ => rfl) (fun _ _ _ _ => rfl) (fun _ _ _ => trivial)
  | finishing =>
      have resting : ∀ left, (copy.withFlushes left).stage.isRest = true := fun left => by
        rw [withFlushes, current]
        rfl
      exact settle_cases (fun _ _ => trivial) (fun _ _ _ _ => trivial) (fun _ _ => trivial)
        (fun _ _ => resting _) (fun _ _ _ _ => trivial) (fun _ _ _ => trivial)
  | closing =>
      have resting : ∀ left, (copy.withShutdown left).stage.isRest = true := fun left => by
        rw [withShutdown, current]
        rfl
      exact settle_cases (fun _ _ => current) (fun _ _ _ _ => trivial) (fun _ _ => trivial)
        (fun _ _ => resting _) (fun _ _ _ _ => current) (fun _ _ _ => trivial)

/-- What is known of a copy after an attempt. -/
theorem Runs.leaves {attempt : Attempt} (runs : Runs now copy attempt)
    (carries : copy.Carries whole) : attempt.copy.Leaves whole attempt.outcome := by
  induction runs with
  | rests step | quiet step _ ih | gaveUp step _ ih | wrote step _ ih =>
      have kept := carries.step now
      rw [step] at kept
      first | exact kept | exact ih kept

theorem Runs.settles {attempt : Attempt} (runs : Runs now copy attempt) :
    (Stride.rests attempt.copy attempt.outcome).Settles := by
  induction runs with
  | @rests copy next outcome step => exact step ▸ settles_step copy now
  | quiet _ _ ih | gaveUp _ _ ih | wrote _ _ ih => exact ih

end
end Copy

/-- Where a copy has come to shut the far side down, that has taken all that the source gives. -/
theorem Copying.delivers {whole : Tape} (copying : Copying)
    (carries : copying.copy.Carries whole) (closing : copying.copy.stage = .closing) :
    whole.Delivers copying.copy.received := by
  have sound := copying.sound
  rw [Copy.Sound, closing] at sound
  rcases sound with ⟨told, exhausted, nothing⟩
  have ended := told exhausted
  have read := Tape.Yields.delivers carries ended.1 ended.2
  rwa [nothing, List.append_nil] at read

namespace Input

/-! ## What is told of forwarding -/

/-- What is told of forwarding a source, from first to last: the far side takes what comes first in
it, write by write, and after that at most one ending is told, that of a complete source only where
the far side has taken all of it. -/
inductive Course (source : Option Tape) : List Event → Prop
  | silent : Course source []
  | underWay {tape : Tape} {writes : List Bytes} (given : source = some tape)
      (part : tape.Gives writes.flatten) : Course source (writes.map .wrote)
  | complete {tape : Tape} {writes : List Bytes} (given : source = some tape)
      (whole : tape.Delivers writes.flatten) :
      Course source (writes.map .wrote ++ [.inputShut, .forwarded writes.flatten.length])
  | stopped {tape : Tape} {writes : List Bytes} {last : Event} (given : source = some tape)
      (part : tape.Gives writes.flatten)
      (stop : last = .inputRefused ∨ ∃ failure, last = .inputFailed failure) :
      Course source (writes.map .wrote ++ [last])

/-- What has become of a source when the events have happened. -/
inductive Conveys (source : Option Tape) (events : List Event) (input : Input) : Prop
  | absent (missing : input.copying = none) (silent : events.filter Event.isForwarding = [])
  | underWay {tape : Tape} {copying : Copying} {writes : List Bytes} (given : source = some tape)
      (copied : input.copying = some copying)
      (told : events.filter Event.isForwarding = writes.map .wrote)
      (taken : copying.copy.received = writes.flatten) (carries : copying.copy.Carries tape)
      (resting : copying.copy.stage.isRest = true)
  | settled (stopped : input.forwarding = false)
      (course : Course source (events.filter Event.isForwarding))
      (taken : input.received = events.flatMap Event.written)

section

variable {source : Option Tape} {events : List Event} {input : Input}

theorem Conveys.course (conveys : Conveys source events input) :
    Course source (events.filter Event.isForwarding) := by
  cases conveys with
  | absent missing silent =>
      rw [silent]
      exact .silent
  | underWay given copied told taken carries =>
      rw [told]
      exact .underWay given (taken ▸ carries.gives)
  | settled stopped course => exact course

theorem Conveys.received (conveys : Conveys source events input) :
    input.received = events.flatMap Event.written := by
  cases conveys with
  | absent missing silent =>
      rw [← Event.flatMap_written_filter, silent, Input.received, missing]
      rfl
  | underWay given copied told taken =>
      rw [Input.received, copied]
      dsimp only
      rw [taken]
      exact (Event.flatMap_written (told.trans (List.append_nil _).symm) (by simp)).symm
  | settled stopped course taken => exact taken

theorem conveys_start (source : Option Tape) (sink : Option Sink) :
    Conveys source [] (.start source sink) := by
  cases source with
  | none => exact .absent rfl rfl
  | some tape =>
      cases sink with
      | none => exact .absent rfl rfl
      | some sink =>
          have told : ([] : List Event).filter Event.isForwarding = List.map Event.wrote [] := rfl
          exact .underWay rfl rfl told rfl (.refl tape) rfl

theorem filter_append_forwarding (before : List Event) {more : List Event}
    (own : ∀ event ∈ more, event.isForwarding = true) :
    (before ++ more).filter Event.isForwarding = before.filter Event.isForwarding ++ more := by
  rw [List.filter_append, List.filter_eq_self.mpr own]

/-- Forwarding is over once an ending has been told that writes nothing. -/
theorem Conveys.of_ending {writes : List Bytes} {told ending : List Event}
    (stopped : input.forwarding = false) (taken : input.received = writes.flatten)
    (before : (events ++ told).filter Event.isForwarding = writes.map .wrote)
    (own : ∀ event ∈ ending, event.isForwarding = true ∧ event.written = [])
    (course : Course source (writes.map .wrote ++ ending)) :
    Conveys source (events ++ (told ++ ending)) input := by
  have whole : (events ++ (told ++ ending)).filter Event.isForwarding =
      writes.map .wrote ++ ending := by
    rw [← List.append_assoc, filter_append_forwarding _ fun event member => (own event member).1,
      before]
  refine .settled stopped (whole ▸ course) ?_
  rw [Event.flatMap_written whole fun event member => (own event member).2, taken]

/-- Forwarding is over once a failure has been told, or that the far side reads no more. -/
theorem Conveys.of_stop {tape : Tape} {writes : List Bytes} {told : List Event} {last : Event}
    (given : source = some tape) (gives : tape.Gives writes.flatten)
    (stopped : input.forwarding = false) (taken : input.received = writes.flatten)
    (before : (events ++ told).filter Event.isForwarding = writes.map .wrote)
    (stop : last = .inputRefused ∨ ∃ failure, last = .inputFailed failure) :
    Conveys source (events ++ (told ++ [last])) input := by
  refine .of_ending stopped taken before (fun event member => ?_) (.stopped given gives stop)
  rw [List.mem_singleton.mp member]
  rcases stop with rfl | ⟨failure, rfl⟩ <;> exact ⟨rfl, rfl⟩

/-- The step lemma of forwarding: a look keeps the account, whatever it comes to. -/
theorem look_conveys (conveys : Conveys source events input)
    (forwarding : input.forwarding = true) (now : Instant) (cancelled : Bool) :
    Conveys source (events ++ (input.look now cancelled).events)
      (input.look now cancelled).input := by
  cases conveys with
  | settled stopped => exact absurd forwarding (by simp [stopped])
  | absent missing silent =>
      unfold look
      simp only [missing, List.append_nil]
      exact .absent rfl silent
  | @underWay tape copying writes given copied told taken carries =>
      have runs := copying.attempt_runs now
      have leaves := runs.leaves (Tape.Yields.turn carries)
      have settles := runs.settles
      have received : (copying.next now).copy.received =
          (writes ++ (copying.attempt now).writes).flatten := by
        rw [copying.received_next, taken, List.flatten_append]
      have before :
          (events ++ (copying.attempt now).writes.map Event.wrote).filter Event.isForwarding =
            (writes ++ (copying.attempt now).writes).map .wrote := by
        rw [filter_append_forwarding _ (isForwarding_of_writes _), told, List.map_append]
      have counted : ∀ later : Input, later.copying = some (copying.next now) →
          later.received = (writes ++ (copying.attempt now).writes).flatten := by
        intro later same
        rw [Input.received, same]
        exact received
      unfold look settle
      simp only [copied]
      cases outcome : (copying.attempt now).outcome <;> rw [outcome] at leaves settles
      case pending => exact .underWay given rfl before received leaves settles
      case done =>
        have delivers := (copying.next now).delivers leaves settles
        rw [received] at delivers
        refine .of_ending rfl (counted _ rfl) before
          (by simp [Event.isForwarding, Event.written]) ?_
        rw [counted { input with copying := some (copying.next now) } rfl]
        exact .complete given delivers
      case failed failure =>
        rw [Copy.Leaves, show (copying.attempt now).copy.received = _ from received] at leaves
        dsimp only
        split
        · exact .of_stop given leaves rfl (counted _ rfl) before (.inl rfl)
        · exact .of_stop given leaves rfl (counted _ rfl) before (.inr ⟨failure, rfl⟩)

end

end Input

namespace Streaming

/-- What the far side of the input takes is told, and is what the source gives. -/
def conveyance (source : Option Tape) : Promise where
  pending := fun events session => Input.Conveys source events session.input
  finished := fun events _ => Input.Course source (events.filter Event.isForwarding)
  failed := fun events _ => Input.Course source (events.filter Event.isForwarding)

/-- What does not forward leaves the account as it is. -/
theorem conveys_append {source : Option Tape} {before more : List Event} {input : Input}
    (conveys : Input.Conveys source before input)
    (other : ∀ event ∈ more, event.isForwarding = false) :
    Input.Conveys source (before ++ more) input := by
  have same : (before ++ more).filter Event.isForwarding = before.filter Event.isForwarding := by
    have silent : more.filter Event.isForwarding = [] :=
      List.filter_eq_nil_iff.mpr fun event member => by simp [other event member]
    rw [List.filter_append, silent, List.append_nil]
  cases conveys with
  | absent missing silent => exact .absent missing (same.trans silent)
  | underWay given copied told taken carries resting =>
      exact .underWay given copied (same.trans told) taken carries resting
  | settled stopped course taken =>
      refine .settled stopped (same ▸ course) ?_
      rw [taken, ← Event.flatMap_written_filter, ← Event.flatMap_written_filter (before ++ more),
        same]

theorem conveyance_keeps {source : Option Tape} {before : List Event} {look : Look}
    (conveys : Input.Conveys source (before ++ look.events) look.session.input) :
    look.Keeps (conveyance source) before := by
  unfold Look.Keeps
  cases look.progress with
  | pending => exact conveys
  | finished => exact conveys.course
  | failed => exact conveys.course

theorem conveyance_sustained (source : Option Tape) (remote : Remote) :
    (conveyance source).Sustained source remote where
  start := Input.conveys_start source remote.stdin
  look := by
    intro choices now cancelled before session conveys
    apply look_keeps
    case reads =>
      intro outlet now cancelled before session conveys
      apply conveyance_keeps
      rw [lookChannel_events, lookChannel_input]
      refine conveys_append conveys fun event member => ?_
      have reading := Channel.look_isReading _ _ _ _ event member
      cases event <;> first | rfl | cases reading
    case asks =>
      intro now cancelled before session conveys _ _
      apply conveyance_keeps
      rw [askStatus_input]
      refine conveys_append conveys ?_
      unfold askStatus
      dsimp only
      split <;> split <;> simp [Event.isForwarding]
    case feeds =>
      intro now cancelled before session conveys forwarding
      apply conveyance_keeps
      rw [lookInput_events, lookInput_session_input]
      exact Input.look_conveys conveys forwarding now cancelled
    case kept => exact conveys

end Streaming

namespace Input.Course

variable {source : Option Tape} {events : List Event}

theorem gives_written (course : Course source (events.filter Event.isForwarding)) {tape : Tape}
    (present : source = some tape) : tape.Gives (events.flatMap Event.written) := by
  generalize told : events.filter Event.isForwarding = own at course
  cases course with
  | silent =>
      rw [← Event.flatMap_written_filter, told]
      exact ⟨0, List.nil_prefix⟩
  | underWay given part =>
      cases present.symm.trans given
      rwa [Event.flatMap_written (told.trans (List.append_nil _).symm) (by simp)]
  | complete given whole =>
      cases present.symm.trans given
      rw [Event.flatMap_written told (by simp [Event.written])]
      exact whole.gives
  | @stopped tape writes last given part stop =>
      cases present.symm.trans given
      have silent : last.written = [] := by
        rcases stop with rfl | ⟨failure, rfl⟩ <;> rfl
      rw [Event.flatMap_written told (by simpa using silent)]
      exact part

theorem of_forwarded (course : Course source events) {count : Nat}
    (told : .forwarded count ∈ events) :
    ∃ (tape : Tape) (writes : List Bytes), source = some tape ∧
      events = writes.map .wrote ++ [.inputShut, .forwarded count] ∧
      tape.Delivers writes.flatten ∧ writes.flatten.length = count := by
  cases course with
  | silent => cases told
  | underWay given part => simp at told
  | @complete tape writes given whole =>
      have same : count = writes.flatten.length := by
        rcases List.mem_append.mp told with wrote | ending
        · simp at wrote
        · simpa only [List.mem_cons, reduceCtorEq, Event.forwarded.injEq, List.not_mem_nil,
            or_false, false_or] using ending
      exact ⟨tape, writes, given, by rw [same], whole, same.symm⟩
  | stopped given part stop =>
      rcases stop with rfl | ⟨failure, rfl⟩ <;> simp at told

theorem eq_nil (course : Course none events) : events = [] := by
  cases course with
  | silent => rfl
  | underWay given | complete given | stopped given => cases given

end Input.Course

/-- What the far side of a session's input has taken in a run. -/
structure Order.Conveys (order : Order) (remote : Remote) (glances : List Glance) : Prop where
  /-- At every moment this comes first in what the local source gives. -/
  accepted : ∀ tape, order.stdin = some tape →
    tape.Gives ((order.run remote glances).events.flatMap Event.written)
  /-- While the streams are open the session knows it. -/
  received : ∀ session, (order.run remote glances).phase = .streaming session →
    session.input.received = (order.run remote glances).events.flatMap Event.written
  /-- A count is told only of a source that has come to its end and been taken as a whole; the far
  side is shut down once, after the last octet. -/
  complete : ∀ count, .forwarded count ∈ (order.run remote glances).events →
    ∃ (tape : Tape) (writes : List Bytes), order.stdin = some tape ∧
      (order.run remote glances).events.filter Event.isForwarding =
        writes.map .wrote ++ [.inputShut, .forwarded count] ∧
      tape.Delivers writes.flatten ∧ writes.flatten.length = count
  /-- An attempt to forward that nothing holds back forwards everything. -/
  forwards : ∀ before glance later session, glances = before ++ glance :: later →
    order.Attempts remote before glance session → session.input.Clear glance.moment.now →
    ∃ count, .forwarded count ∈ (order.run remote (before ++ [glance])).events
  /-- Without local input nothing is written. -/
  silent : order.stdin = none → ∀ bytes, .wrote bytes ∉ (order.run remote glances).events

theorem Call.streamed_filter (call : Call) :
    call.streamed.filter Event.isForwarding = call.events.filter Event.isForwarding := by
  rw [streamed, List.filter_filter]
  refine List.filter_congr fun event _ => ?_
  cases forwarding : event.isForwarding with
  | true => rw [Event.isStreaming_of_isForwarding forwarding]; rfl
  | false => rfl

theorem Call.run_course (order : Order) (remote : Remote) (glances : List Glance) :
    Input.Course order.stdin ((order.run remote glances).events.filter Event.isForwarding) := by
  rw [← streamed_filter]
  cases run_holds (Streaming.conveyance_sustained order.stdin remote) glances with
  | untaken nothing =>
      rw [nothing]
      exact .silent
  | pending kept => exact Input.Conveys.course kept
  | finished _ kept => exact kept
  | failed _ kept => exact kept

/-- Between two looks a copy rests. -/
theorem Call.isRest_of_session? {order : Order} {remote : Remote} {glances : List Glance}
    {session : Streaming} (streams : (order.run remote glances).session? = some session)
    (forwarding : session.input.forwarding = true) {copying : Copying}
    (copied : session.input.copying = some copying) : copying.copy.stage.isRest = true := by
  have kept : Input.Conveys order.stdin (order.run remote glances).streamed session.input ∨
      ∃ current, session = .start (order.run remote glances).order.stdin current := by
    unfold session? at streams
    split at streams
    · exact .inr ⟨_, (Option.some.inj streams).symm⟩
    · rename_i open_
      rw [Option.some.inj streams] at open_
      exact .inl (run_pending (Streaming.conveyance_sustained order.stdin remote) open_)
    · cases streams
  rcases kept with conveys | ⟨current, rfl⟩
  · cases conveys with
    | absent missing => cases missing.symm.trans copied
    | underWay given same told taken carries resting =>
        exact Option.some.inj (same.symm.trans copied) ▸ resting
    | settled stopped => cases forwarding.symm.trans stopped
  · rcases Option.bind_eq_some_iff.mp copied with ⟨tape, _, started⟩
    rcases Option.map_eq_some_iff.mp started with ⟨sink, _, rfl⟩
    rfl

/-- Every run of every order conveys its local input as it is, cut where it may be. -/
theorem conveys_exactly (order : Order) (remote : Remote) (glances : List Glance) :
    order.Conveys remote glances where
  accepted := fun _ => (Call.run_course order remote glances).gives_written
  received := by
    intro session streaming
    have kept := Call.run_pending (Streaming.conveyance_sustained order.stdin remote) streaming
    rw [Input.Conveys.received kept, ← Event.flatMap_written_filter, Call.streamed_filter,
      Event.flatMap_written_filter]
  complete := by
    intro count told
    exact (Call.run_course order remote glances).of_forwarded (List.mem_filter.mpr ⟨told, rfl⟩)
  forwards := by
    intro before glance later session _ attempts clear
    rcases attempts.polled with ⟨wish, _, told⟩
    have resting : ∀ copying, session.input.copying = some copying →
        copying.copy.stage.isRest = true :=
      fun _ => Call.isRest_of_session? attempts.streams attempts.forwarding
    rcases clear.forwarded resting wish with ⟨count, forwarded⟩
    exact ⟨count, told _ forwarded⟩
  silent := by
    intro absent bytes told
    have own : .wrote bytes ∈ (order.run remote glances).events.filter Event.isForwarding :=
      List.mem_filter.mpr ⟨told, rfl⟩
    have course := Call.run_course order remote glances
    rw [absent] at course
    cases course.eq_nil ▸ own

/-- A far side that takes octets in portions of its own takes all of them, is flushed, and is shut
down after that. -/
example :
    (Order.run ⟨.pod "default" "web", ["cat"], none, some ⟨[.data [97]], fun look =>
        if look = 0 then some [.data [98, 99]] else none⟩⟩
      ⟨[], some ⟨.ofScript [.accept 2], ⟨.ofScript [.wait ⟨1⟩], .ofScript []⟩⟩, none, none,
        [.awaitInputEnd], some (.exited 0)⟩
      (List.replicate 5 (.calm 0) ++ List.replicate 2 (.calm 1))).events.filter Event.isForwarding =
        [.wrote [97], .wrote [98], .wrote [99], .inputShut, .forwarded 3] := rfl

end PodCommand
