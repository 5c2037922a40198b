import PodCommand.Proofs.Session.InputFailure
import PodCommand.Proofs.Session.Raising
import PodCommand.Proofs.Session.Transcript

namespace PodCommand

/-!
Where the failure comes from that a call returns.

There are three sources: a channel that fails, local input that cannot be forwarded, and a status
that is missing.  `Streaming.provenance` is the promise of open streams that says what must have
happened before each of them; `exists_attempt` finds the attempt to forward that a failure of the
input stems from.
-/

/-- Both channels of a remote side have been read to their ends without a failure. -/
structure Remote.Drained (remote : Remote) (events : List Event) : Prop where
  delivers : ∀ outlet, ∃ bytes, ((remote.script outlet).getD []).Delivers bytes
  told : ∀ outlet, remote.script outlet = none ∨ .drained outlet ∈ events
  unbroken : ∀ outlet failure, .broken outlet failure ∉ events

theorem Remote.Drained.append {remote : Remote} {events : List Event}
    (drained : remote.Drained events) {more : List Event}
    (silent : ∀ outlet, ∀ event ∈ more, event.isReading outlet = false) :
    remote.Drained (events ++ more) where
  delivers := drained.delivers
  told := fun outlet => (drained.told outlet).imp_right fun member =>
    List.mem_append_left more member
  unbroken := by
    intro outlet failure member
    rcases List.mem_append.mp member with earlier | later
    · exact drained.unbroken outlet failure earlier
    · have notReading := silent outlet _ later
      simp [Event.isReading] at notReading

/-- A channel that has ended is not read any further. -/
theorem Channel.look_of_ended {channel : Channel} (ended : channel.hasEnded = true)
    (outlet : Outlet) (around : Surroundings) (cancelled : Bool) :
    channel.look outlet around cancelled = ⟨channel, none, cancelled, []⟩ := by
  rw [look, Option.isNone_iff_eq_none.mp ended]

namespace Streaming

/-- Open streams on their way from a remote side, which have failed in nothing so far. -/
structure Traced (remote : Remote) (events : List Event) (session : Streaming) : Prop where
  tracks : Tracks remote events session
  raises : ∀ outlet failure, ((session.channel outlet).script.getD []).Raises failure →
    ((remote.script outlet).getD []).Raises failure
  asked : .statusAsked ∈ events → ∀ outlet, (session.channel outlet).hasEnded = true

/-- What has happened where a failure ends open streams. -/
structure Blamed (remote : Remote) (events : List Event) (failure : StreamFailure) : Prop where
  /-- No channel has failed otherwise, and a channel fails as its script does. -/
  reader : ∀ outlet other, .broken outlet other ∈ events →
    other = failure ∧ ((remote.script outlet).getD []).Raises other
  asked : .statusAsked ∈ events → remote.Drained events
  /-- That a status is missing is found last, when both channels have been read. -/
  unreported : .statusReported none ∈ events → remote.status = none ∧
    ∃ before, events = before ++ [.statusReported none] ∧ remote.Drained before

/-- Open streams say where their failure would come from. -/
def provenance (remote : Remote) : Promise where
  pending := Traced remote
  finished := fun events _ => remote.Drained events
  failed := Blamed remote

section

variable {remote : Remote} {before : List Event} {session : Streaming}

theorem Tracks.drained (tracks : Tracks remote before session)
    (ended : ∀ outlet, (session.channel outlet).hasEnded = true) : remote.Drained before where
  delivers := fun outlet => ⟨_, (tracks.channel outlet).delivers (ended outlet)⟩
  told := fun outlet =>
    (tracks.channel outlet).drained (Option.isNone_iff_eq_none.mp (ended outlet))
  unbroken := fun outlet => (tracks.channel outlet).unbroken

theorem Traced.lookChannel (traced : Traced remote before session) (outlet : Outlet)
    (now : Instant) (cancelled : Bool) :
    (session.lookChannel now outlet cancelled).Keeps (provenance remote) before := by
  have kept := traced.tracks.lookChannel outlet now cancelled
  have reading := Channel.look_isReading outlet (session.input.surroundings now) cancelled
    (session.channel outlet)
  -- Nothing is read any more once the status has been asked for.
  have ended : .statusAsked ∈ before ++
      ((session.channel outlet).look outlet (session.input.surroundings now) cancelled).events →
      ∀ other, (session.channel other).hasEnded = true := by
    intro asked
    rcases List.mem_append.mp asked with earlier | later
    · exact traced.asked earlier
    · cases reading _ later
  unfold Streaming.lookChannel at kept ⊢
  cases outcome : ((session.channel outlet).look outlet (session.input.surroundings now)
      cancelled).failure with
  | none =>
      simp only [outcome] at kept ⊢
      refine ⟨kept, fun other failure raises => ?_, fun asked other => ?_⟩
      · by_cases same : outlet = other
        · subst same
          rw [channel_withChannel] at raises
          exact traced.raises outlet failure (Channel.look_rest_raises outcome raises)
        · rw [channel_withChannel_of_ne session same] at raises
          exact traced.raises other failure raises
      · have finished := ended asked
        by_cases same : outlet = other
        · subst same
          rw [channel_withChannel, Channel.look_of_ended (finished outlet)]
          exact finished outlet
        · rw [channel_withChannel_of_ne session same]
          exact finished other
  | some failure =>
      simp only [outcome]
      rcases Channel.look_raises outcome with ⟨raises, reads, told⟩
      refine ⟨fun other found member => ?_, fun asked => ?_, fun reported => ?_⟩
      · rcases List.mem_append.mp member with earlier | last
        · exact absurd earlier ((traced.tracks.channel other).unbroken found)
        · have same : other = outlet ∧ found = failure := by simpa [told] using last
          rcases same with ⟨rfl, rfl⟩
          exact ⟨rfl, traced.raises other found raises⟩
      · rw [Channel.look_of_ended (ended asked outlet)] at outcome
        cases outcome
      · rcases List.mem_append.mp reported with earlier | last
        · exact absurd earlier (traced.tracks.unreported none)
        · cases reading _ last

theorem askStatus_cases (now : Instant) (cancelled : Bool) (session : Streaming) :
    ∃ asked, (∀ event ∈ asked, event = .statusAsked) ∧
      ((session.askStatus now cancelled).progress = .pending ∧
          (session.askStatus now cancelled).events = asked ∨
        (session.askStatus now cancelled).progress = session.conclusion ∧
          (session.askStatus now cancelled).events =
            asked ++ [.statusReported session.status]) := by
  refine ⟨if session.statusAsked then [] else [.statusAsked], by split <;> simp, ?_⟩
  unfold askStatus
  dsimp only
  split
  · exact .inl ⟨rfl, rfl⟩
  · exact .inr ⟨rfl, rfl⟩

theorem askStatus_channel (now : Instant) (cancelled : Bool) (session : Streaming)
    (outlet : Outlet) :
    (session.askStatus now cancelled).session.channel outlet = session.channel outlet := by
  unfold askStatus
  dsimp only
  split <;> cases outlet <;> rfl

theorem Traced.askStatus (traced : Traced remote before session)
    (output : session.stdout.hasEnded = true) (errors : session.stderr.hasEnded = true)
    (now : Instant) (cancelled : Bool) :
    (session.askStatus now cancelled).Keeps (provenance remote) before := by
  have kept := traced.tracks.askStatus output errors now cancelled
  have ended : ∀ outlet, (session.channel outlet).hasEnded = true := by
    intro outlet
    cases outlet with
    | output => exact output
    | errors => exact errors
  rcases askStatus_cases now cancelled session with ⟨asked, asking, progress⟩
  have drained : remote.Drained (before ++ asked) := by
    apply (traced.tracks.drained ended).append
    intro outlet event member
    rw [asking event member]
    rfl
  have reported : remote.Drained (before ++ (asked ++ [.statusReported session.status])) := by
    rw [← List.append_assoc]
    exact drained.append (by simp [Event.isReading])
  unfold Look.Keeps at kept ⊢
  rcases progress with ⟨pending, told⟩ | ⟨concluded, told⟩
  · simp only [pending] at kept ⊢
    refine ⟨kept, fun outlet failure raises => ?_, fun _ outlet => ?_⟩
    · rw [askStatus_channel] at raises
      exact traced.raises outlet failure raises
    · rw [askStatus_channel]
      exact ended outlet
  · unfold conclusion at concluded
    cases present : session.status with
    | some status =>
        simp only [present] at concluded
        simp only [concluded, told]
        exact reported
    | none =>
        simp only [present] at concluded told
        rw [present] at reported
        simp only [concluded, told]
        refine ⟨fun outlet other member => ?_, fun _ => reported, fun _ => ⟨?_, ?_⟩⟩
        · exact absurd member (reported.unbroken outlet other)
        · rw [← traced.tracks.status]
          exact present
        · exact ⟨before ++ asked, (List.append_assoc ..).symm, drained⟩

theorem Traced.lookInput (traced : Traced remote before session)
    (forwarding : session.input.forwarding = true) (now : Instant) (cancelled : Bool) :
    (session.lookInput now cancelled).Keeps (provenance remote) before := by
  have kept := traced.tracks.lookInput forwarding now cancelled
  have feeding := Input.look_isForwarding now cancelled session.input
  have earlier : ∀ {event}, event.isForwarding = false →
      event ∈ before ++ (session.input.look now cancelled).events → event ∈ before := by
    intro event other member
    refine (List.mem_append.mp member).resolve_right fun later => ?_
    cases other.symm.trans (feeding event later)
  have silent : ∀ outlet, ∀ event ∈ (session.input.look now cancelled).events,
      event.isReading outlet = false := by
    intro outlet event member
    have own := feeding event member
    cases event <;> first | rfl | cases own
  unfold Look.Keeps at kept ⊢
  rw [lookInput_events, lookInput_session] at kept ⊢
  by_cases pending : (session.lookInput now cancelled).progress = .pending
  · simp only [pending] at kept ⊢
    refine ⟨kept, fun outlet => ?_, fun asked outlet => ?_⟩
    · cases outlet with
      | output => exact traced.raises .output
      | errors => exact traced.raises .errors
    · have ended := traced.asked (earlier rfl asked) outlet
      cases outlet with
      | output => exact ended
      | errors => exact ended
  · rcases inputFailed_of_ne_pending pending with ⟨failure, failed, _⟩
    simp only [failed]
    refine ⟨fun outlet other member => ?_, fun asked => ?_, fun reported => ?_⟩
    · exact absurd (earlier rfl member) ((traced.tracks.channel outlet).unbroken other)
    · have ended := traced.asked (earlier rfl asked)
      exact (traced.tracks.drained ended).append silent
    · exact absurd (earlier rfl reported) (traced.tracks.unreported none)

end

theorem provenance_sustained (source : Option Tape) (remote : Remote) :
    (provenance remote).Sustained source remote where
  start := by
    refine ⟨tracks_start source remote, fun outlet => ?_, fun asked => ?_⟩
    · cases outlet with
      | output => exact fun _ raises => raises
      | errors => exact fun _ raises => raises
    · exact absurd asked List.not_mem_nil
  look := by
    intro choices now cancelled before session traced
    apply look_keeps
    case reads =>
      exact fun outlet now cancelled _ _ traced => traced.lookChannel outlet now cancelled
    case asks =>
      exact fun now cancelled _ _ traced output errors =>
        traced.askStatus output errors now cancelled
    case feeds =>
      exact fun now cancelled _ _ traced forwarding => traced.lookInput forwarding now cancelled
    case kept => exact traced

/-! ## What a look fails with -/

/-- The output side tells of a failure. -/
inductive OutputTells (failure : StreamFailure) (events : List Event) : Prop
  | broken (outlet : Outlet) (told : .broken outlet failure ∈ events)
  | unreported (missing : failure = .missingStatus) (told : .statusReported none ∈ events)

theorem OutputTells.mono {failure : StreamFailure} {events more : List Event}
    (tells : OutputTells failure events) (within : ∀ event ∈ events, event ∈ more) :
    OutputTells failure more := by
  cases tells with
  | broken outlet told => exact .broken outlet (within _ told)
  | unreported missing told => exact .unreported missing (within _ told)

/-- What the output side fails with it tells. -/
def outputTold : Promise where
  pending := fun _ _ => True
  finished := fun _ _ => True
  failed := fun events failure => OutputTells failure events

section

variable {now : Instant} {session : Streaming} {failure : StreamFailure}

theorem lookOutput_failed {stderrFirst cancelled : Bool}
    (failed : (session.lookOutput now stderrFirst cancelled).progress = .failed failure) :
    OutputTells failure (session.lookOutput now stderrFirst cancelled).events := by
  have kept : (session.lookOutput now stderrFirst cancelled).Keeps outputTold [] := by
    apply lookOutput_keeps
    case reads =>
      intro outlet now cancelled before session _
      unfold lookChannel
      cases outcome : ((session.channel outlet).look outlet (session.input.surroundings now)
          cancelled).failure with
      | none =>
          simp only [outcome]
          trivial
      | some failure =>
          simp only [outcome]
          exact .broken outlet (List.mem_append_right before (Channel.look_broken outcome))
    case asks =>
      intro now cancelled before session _ _ _
      rcases askStatus_cases now cancelled session with
        ⟨asked, _, ⟨pending, _⟩ | ⟨concluded, told⟩⟩
      · unfold Look.Keeps
        simp only [pending]
        trivial
      · unfold conclusion at concluded
        cases present : session.status with
        | some status =>
            simp only [present] at concluded
            unfold Look.Keeps
            simp only [concluded]
            trivial
        | none =>
            simp only [present] at concluded told
            unfold Look.Keeps
            simp only [concluded, told]
            exact .unreported rfl (by simp)
    case kept => trivial
  unfold Look.Keeps at kept
  simp only [failed] at kept
  exact kept

theorem Look.failed_followedBy {first : Look} {second : Bool → Streaming → Look}
    (failed : (first.followedBy second).progress = .failed failure) :
    first.progress = .failed failure ∧ first.followedBy second = first ∨
      first.progress = .pending ∧
        (second first.cancelled first.session).progress = .failed failure := by
  by_cases pending : first.progress = .pending
  · rw [Look.followedBy_of_pending pending] at failed
    exact .inr ⟨pending, failed⟩
  · rw [Look.followedBy_of_ne_pending pending] at failed ⊢
    exact .inl ⟨failed, rfl⟩

theorem Look.mem_followedBy {first : Look} (pending : first.progress = .pending)
    (second : Bool → Streaming → Look) :
    ∀ event ∈ (second first.cancelled first.session).events,
      event ∈ (first.followedBy second).events := by
  rw [Look.followedBy_of_pending pending]
  exact fun event member => List.mem_append_right _ member

theorem lookInput_failed {cancelled : Bool}
    (failed : (session.lookInput now cancelled).progress = .failed failure) :
    failure.kind ≠ .brokenPipe ∧ ∃ part, session.input.Fails now part failure := by
  rw [lookInput_progress] at failed
  split at failed
  · rename_i found outcome
    cases failed
    exact Input.look_failed_iff.mp outcome
  · cases failed

/-- A look that fails does so on the output side, or in an attempt to forward input before the
output is complete. -/
theorem look_failed {choices : Choices} {cancelled : Bool}
    (failed : (session.look choices now cancelled).progress = .failed failure) :
    OutputTells failure (session.look choices now cancelled).events ∨
      session.input.forwarding = true ∧
        (choices.inputFirst = true ∨
          (session.lookOutput now choices.stderrFirst cancelled).progress = .pending) ∧
        failure.kind ≠ .brokenPipe ∧ ∃ part, session.input.Fails now part failure := by
  unfold look at failed ⊢
  dsimp only at failed ⊢
  cases forwarding : session.input.forwarding with
  | false =>
      rw [forwarding] at failed
      exact .inl (lookOutput_failed failed)
  | true =>
      simp only [forwarding, Bool.not_true, Bool.false_eq_true, if_false] at failed ⊢
      cases order : choices.inputFirst with
      | true =>
          simp only [order, if_true] at failed ⊢
          rcases Look.failed_followedBy failed with ⟨input, _⟩ | ⟨pending, output⟩
          · exact .inr ⟨trivial, .inl trivial, lookInput_failed input⟩
          · exact .inl ((lookOutput_failed output).mono (Look.mem_followedBy pending _))
      | false =>
          simp only [order, Bool.false_eq_true, if_false] at failed ⊢
          rcases Look.failed_followedBy failed with ⟨early, same⟩ | ⟨pending, again⟩
          · rw [same]
            rcases Look.failed_followedBy early with ⟨output, same⟩ | ⟨pending, input⟩
            · rw [same]
              exact .inl (lookOutput_failed output)
            · have fails := lookInput_failed input
              rw [lookOutput_input] at fails
              exact .inr ⟨trivial, .inr pending, fails⟩
          · split at again <;> rename_i still
            · cases again
            · refine .inl ((lookOutput_failed again).mono fun event member => ?_)
              apply Look.mem_followedBy pending
              rw [if_neg still]
              exact member

end

end Streaming

/-! ## What a call fails with -/

theorem Streaming.Progress.eq_failed {progress : Progress} {failure : StreamFailure}
    (ended : progress.ending? = some (.returned (.error (.stream failure)))) :
    progress = .failed failure := by
  cases progress <;> cases ended
  rfl

/-- Where the failure comes from that a run returns. -/
inductive Order.Origin (order : Order) (remote : Remote) (glances : List Glance)
    (failure : StreamFailure) : Prop
  /-- One of the channels has failed with it. -/
  | reader (outlet : Outlet) (raises : ((remote.script outlet).getD []).Raises failure)
      (told : .broken outlet failure ∈ (order.run remote glances).events)
  /-- An attempt to forward local input has failed with it, and not because the far side has stopped
  reading. -/
  | input {before later : List Glance} {glance : Glance} {session : Streaming} {part : Copy.Part}
      (split : glances = before ++ glance :: later)
      (attempts : order.Attempts remote before glance session)
      (fails : session.input.Fails glance.moment.now part failure)
      (unbroken : failure.kind ≠ .brokenPipe)
  /-- Both channels have been read to their ends, and then no status has been reported. -/
  | unreported {before : List Event} (missing : failure = .missingStatus)
      (absent : remote.status = none)
      (told : (order.run remote glances).streamed = before ++ [.statusReported none])
      (drained : remote.Drained before)

namespace Call

variable {order : Order} {remote : Remote} {glances : List Glance}

theorem mem_streamed {call : Call} {event : Event} (member : event ∈ call.events)
    (streaming : event.isStreaming = true) : event ∈ call.streamed :=
  List.mem_filter.mpr ⟨member, streaming⟩

/-- The status is asked for only after both channels have been read. -/
theorem run_drained (asked : .statusAsked ∈ (order.run remote glances).events) :
    remote.Drained (order.run remote glances).streamed := by
  have told := mem_streamed asked rfl
  cases run_holds (Streaming.provenance_sustained order.stdin remote) glances with
  | untaken nothing =>
      rw [nothing] at told
      cases told
  | pending kept => exact Streaming.Tracks.drained kept.tracks (kept.asked told)
  | finished _ kept => exact kept
  | failed _ kept => exact kept.asked told

/-- A channel that has failed has ended the call. -/
theorem run_broken {outlet : Outlet} {failure : StreamFailure}
    (broken : .broken outlet failure ∈ (order.run remote glances).events) :
    (order.run remote glances).ending? = some (.returned (.error (.stream failure))) := by
  have told := mem_streamed broken rfl
  cases run_holds (Streaming.provenance_sustained order.stdin remote) glances with
  | untaken nothing =>
      rw [nothing] at told
      cases told
  | pending kept => exact absurd told ((kept.tracks.channel outlet).unbroken failure)
  | finished _ kept => exact absurd told (Remote.Drained.unbroken kept outlet failure)
  | failed ended kept =>
      rw [(kept.reader outlet failure told).1, ending?, ended]

theorem run_origin {failure : StreamFailure}
    (ended : (order.run remote glances).ending? = some (.returned (.error (.stream failure)))) :
    order.Origin remote glances failure := by
  have blamed := run_failed (Streaming.provenance_sustained order.stdin remote)
    (phase_of_ending? ended)
  rcases Order.exists_last_look (.inr ⟨failure, ended⟩) with
    ⟨before, glance, later, session, split, streams, calm, last⟩
  rcases next_of_uninterrupted streams calm remote with ⟨earlier, step⟩
  rw [← last, step, ending?_stream] at ended
  have failed := Streaming.Progress.eq_failed ended
  have told : ∀ event ∈ (session.look glance.moment.choices glance.moment.now
      glance.cancelled).events, event ∈ (order.run remote glances).events := by
    rw [← last, step]
    exact fun event member => mem_stream_of_mem_look member
  rcases Streaming.look_failed failed with output | ⟨forwarding, unfinished, unbroken, part, fails⟩
  · cases output.mono told with
    | broken outlet broken =>
        have raises := (blamed.reader outlet failure (mem_streamed broken rfl)).2
        exact .reader outlet raises broken
    | unreported missing reported =>
        rcases blamed.unreported (mem_streamed reported rfl) with ⟨absent, rest, whole, drained⟩
        exact .unreported missing absent whole drained
  · exact .input split ⟨streams, calm, forwarding, unfinished⟩ fails unbroken

end Call

/-- What is true of the failures that end the streams in a run. -/
structure Order.Provenance (order : Order) (remote : Remote) (glances : List Glance) : Prop where
  /-- A failure that is returned has one of three origins. -/
  origin : ∀ failure,
    (order.run remote glances).ending? = some (.returned (.error (.stream failure))) →
    order.Origin remote glances failure
  /-- A channel that fails at a glance ends the call at that glance, whatever the other channel and
  the input still wait for: with its failure, unless the caller, the deadline, the other channel or
  forwarding comes first at that glance. -/
  ends : ∀ before glance later session outlet failure, glances = before ++ glance :: later →
    (order.run remote before).session? = some session →
    session.raised? glance.moment.now outlet = some failure →
    (∃ reason, (order.run remote before).interruption? glance.moment ⟨glance.cancelled, []⟩ =
        some reason ∧
      (order.run remote (before ++ [glance])).ending? =
        some (.returned (.error (.cancelled reason .streaming)))) ∨
    ∃ found, (order.run remote (before ++ [glance])).ending? =
        some (.returned (.error (.stream found))) ∧
      (found = failure ∨
        (∃ other, other ≠ outlet ∧
          .broken other found ∈ (order.run remote (before ++ [glance])).events) ∨
        .inputFailed found ∈ (order.run remote (before ++ [glance])).events)
  /-- Where a channel is seen to have failed, its failure is what the call returns. -/
  seen : ∀ outlet failure, .broken outlet failure ∈ (order.run remote glances).events →
    (order.run remote glances).ending? = some (.returned (.error (.stream failure)))
  /-- A session is not asked for a status if one of its channels has failed or would fail. -/
  unasked : ∀ outlet failure, .broken outlet failure ∈ (order.run remote glances).events ∨
      ((remote.script outlet).getD []).Raises failure →
    .statusAsked ∉ (order.run remote glances).events

/-- In every run of every order a failure of the streams is where it comes from. -/
theorem failure_provenance (order : Order) (remote : Remote) (glances : List Glance) :
    order.Provenance remote glances where
  origin := fun failure ended => Call.run_origin ended
  ends := by
    intro before glance later session outlet failure _ streams raised
    rw [Order.run_concat]
    cases calm : (order.run remote before).interruption? glance.moment ⟨glance.cancelled, []⟩ with
    | some reason =>
        have cancelled := (Call.next_of_interrupted streams calm remote).2
        rw [Call.state_of_session? streams] at cancelled
        exact .inl ⟨reason, rfl, cancelled⟩
    | none =>
        rcases Call.next_of_uninterrupted streams calm remote with ⟨earlier, step⟩
        rcases Streaming.endsWith_look (Call.unshut_of_session? streams) raised
          glance.moment.choices glance.cancelled with ⟨found, failed, why⟩
        rw [step]
        refine .inr ⟨found, ?_, ?_⟩
        · rw [Call.ending?_stream, failed]
          rfl
        · rcases why with same | ⟨other, different, told⟩ | told
          · exact .inl same
          · exact .inr (.inl ⟨other, different, Call.mem_stream_of_mem_look told⟩)
          · exact .inr (.inr (Call.mem_stream_of_mem_look told))
  seen := fun outlet failure broken => Call.run_broken broken
  unasked := by
    intro outlet failure fails asked
    have drained := Call.run_drained asked
    rcases fails with broken | raises
    · exact drained.unbroken outlet failure (Call.mem_streamed broken rfl)
    · rcases drained.delivers outlet with ⟨bytes, delivers⟩
      exact raises.not_delivers delivers

/-- A channel that is interrupted ends the call, although the other channel and the input never
end. -/
example :
    (Order.run ⟨.pod "default" "web", ["cat"], none, some (.ofScript [.hang])⟩
      ⟨[], some .ready, some [.data [97], .fail ⟨.interrupted, "dropped"⟩], some [.hang],
        [], some (.exited 0)⟩
      (List.replicate 5 (.calm 0))).ending? =
        some (.returned (.error (.stream ⟨.interrupted, "dropped"⟩))) := rfl

end PodCommand
