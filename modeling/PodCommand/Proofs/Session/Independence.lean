import PodCommand.Proofs.Session.Calm
import PodCommand.Proofs.Session.Capture
import PodCommand.Proofs.Session.Selecting

namespace PodCommand

/-!
The input never decides when a session ends.

The polls of a run are those of the loop at each of its glances.  `polls_orderly` is the one
induction over runs: over all glances together the polls follow upon each other as those of one
loop do.  So at most two of them find a side ready, a side that has been found ready is not polled
again, and the input can end the call only by failing.
-/

/-- How a call ends with a session that has come so far, if it ends. -/
def Streaming.Progress.ending? : Streaming.Progress → Option (Ending ExecError Output)
  | .pending => none
  | .finished output => some (.returned (.ok output))
  | .failed failure => some (.returned (.error (.stream failure)))

namespace Streaming

/-- Nothing is told of the input. -/
def inputUntold : Promise where
  pending := fun events _ => ∀ event ∈ events, event.isForwarding = false
  finished := fun events _ => ∀ event ∈ events, event.isForwarding = false
  failed := fun events _ => ∀ event ∈ events, event.isForwarding = false

theorem keeps_inputUntold_iff {before : List Event} {look : Look} :
    look.Keeps inputUntold before ↔
      ∀ event ∈ before ++ look.events, event.isForwarding = false := by
  unfold Look.Keeps
  cases look.progress <;> rfl

theorem lookOutput_isForwarding (now : Instant) (stderrFirst cancelled : Bool)
    (session : Streaming) :
    ∀ event ∈ (session.lookOutput now stderrFirst cancelled).events,
      event.isForwarding = false := by
  have both : ∀ {before more : List Event}, (∀ event ∈ before, event.isForwarding = false) →
      (∀ event ∈ more, event.isForwarding = false) →
      ∀ event ∈ before ++ more, event.isForwarding = false :=
    fun earlier later event member =>
      (List.mem_append.mp member).elim (earlier event) (later event)
  have kept : (session.lookOutput now stderrFirst cancelled).Keeps inputUntold [] := by
    apply lookOutput_keeps
    case reads =>
      intro outlet now cancelled before session earlier
      refine keeps_inputUntold_iff.mpr (both earlier fun event member => ?_)
      rw [lookChannel_events] at member
      have reading := Channel.look_isReading _ _ _ _ event member
      cases event <;> first | rfl | cases reading
    case asks =>
      intro now cancelled before session earlier _ _
      refine keeps_inputUntold_iff.mpr (both earlier ?_)
      unfold askStatus
      dsimp only
      split <;> split <;> simp [Event.isForwarding]
    case kept => exact fun _ member => absurd member List.not_mem_nil
  exact keeps_inputUntold_iff.mp kept

/-- What is told of the outcome of forwarding has been polled. -/
def Polled.Told (polled : Polled) : Prop :=
  ∀ event ∈ polled.look.events, ∀ outcome, event.outcome? = some outcome →
    .input outcome ∈ polled.polls

theorem Polled.Told.followedBy {first next : Polled} (told : first.Told) (later : next.Told) :
    (first.followedBy next).Told := by
  intro event member outcome tells
  rcases List.mem_append.mp member with earlier | last
  · exact List.mem_append_left _ (told event earlier outcome tells)
  · exact List.mem_append_right _ (later event last outcome tells)

theorem poll_told (now : Instant) (turn : Turn) (cancelled : Bool) (session : Streaming)
    (side : Side) : (session.poll now turn cancelled side).Told := by
  intro event member outcome tells
  cases side with
  | input =>
      rw [poll, lookInput_events] at member
      rw [poll, Input.look_told member tells]
      exact List.mem_singleton_self _
  | output =>
      -- The output side tells nothing of the input.
      have other := lookOutput_isForwarding _ _ _ _ event member
      rw [Event.isForwarding_of_outcome? tells] at other
      cases other

theorem pollAll_told (now : Instant) (turn : Turn) (sides : List Side) (cancelled : Bool)
    (session : Streaming) : (pollAll now turn sides cancelled session).Told := by
  induction sides generalizing cancelled session with
  | nil => exact fun _ member => absurd member List.not_mem_nil
  | cons side rest ih =>
      have first := poll_told now turn cancelled session side
      rw [pollAll]
      split
      · exact first
      · exact first.followedBy (ih _ _)

theorem loop_told (now : Instant) (again turn : Turn) (cancelled : Bool) (session : Streaming) :
    (loop now again turn cancelled session).Told := by
  fun_induction loop now again turn cancelled session with
  | case1 turn cancelled session polled done ih =>
      exact Polled.Told.followedBy (pollAll_told now turn _ cancelled session) ih
  | case2 turn cancelled session polled going => exact pollAll_told now turn _ cancelled session

/-- One round of the loop finishes a session that is ready, unless forwarding fails. -/
theorem Ready.loop {now : Instant} {session : Streaming} (ready : session.Ready now)
    (unshut : session.input.forwarding = true → session.input.closed = false)
    (choices : Choices) (cancelled : Bool)
    (sound : ∀ failure, .input (.failed failure) ∉
      (session.loop now (.again choices) (.first choices) cancelled).polls) :
    ∃ output, (session.look choices now cancelled).progress = .finished output := by
  apply ready.look unshut choices cancelled
  intro failure told
  rw [← loop_look] at told
  exact sound failure (loop_told _ _ _ _ _ _ told _ rfl)

end Streaming

namespace Call

/-- The polls of a step: those of the loop, if the call has open streams and nothing interrupts
it. -/
def pollsAt (call : Call) (glance : Glance) : List Poll :=
  match call.session?, call.interruption? glance.moment ⟨glance.cancelled, []⟩ with
  | some session, none =>
    (session.loop glance.moment.now (.again glance.moment.choices) (.first glance.moment.choices)
      glance.cancelled).polls
  | _, _ => []

/-- The polls of a run. -/
def polls (remote : Remote) (call : Call) : List Glance → List Poll
  | [] => []
  | glance :: rest => call.pollsAt glance ++ (call.next remote glance).polls remote rest

/-- What is still open of a call. -/
def open? (call : Call) : Option Bool :=
  match call.phase with
  | .streaming session => some session.input.forwarding
  | .ended _ => none
  | _ => some true

theorem open?_of_session? {call : Call} {session : Streaming}
    (streams : call.session? = some session) : call.open? = some session.input.forwarding := by
  unfold session? at streams
  unfold open?
  split at streams
  · rename_i remote entering
    rw [← Option.some.inj streams, entering]
    rfl
  · rename_i current streaming
    rw [← Option.some.inj streams, streaming]
  · cases streams

theorem open?_stream (moment : Moment) (shared : Shared) (call : Call) (session : Streaming) :
    (stream moment shared call session).2.open? =
      (session.loop moment.now (.again moment.choices) (.first moment.choices)
        shared.cancelled).left := by
  unfold stream Streaming.Polled.left
  rw [Streaming.loop_look]
  dsimp only
  split <;> rename_i progress <;> rw [progress] <;> rfl

theorem ending?_stream (moment : Moment) (shared : Shared) (call : Call) (session : Streaming) :
    (stream moment shared call session).2.ending? =
      (session.look moment.choices moment.now shared.cancelled).progress.ending? := by
  unfold stream
  dsimp only
  split <;> rename_i progress <;> rw [progress] <;> rfl

theorem open?_of_ended {call : Call} {ending : Ending ExecError Output}
    (ended : call.ending? = some ending) : call.open? = none := by
  rw [open?, phase_of_ending? ended]

/-- Nothing has come of any streams: both sides are open, or the call is over without them. -/
def Streamless (call : Call) : Prop :=
  call.open? = some true ∨ call.open? = none ∧ ¬ call.StreamsOver

theorem streamless_of_ended {call : Call} {ending : Ending ExecError Output}
    (ended : call.ending? = some ending)
    (unfinished : ∀ output, ending ≠ .returned (.ok output))
    (unbroken : ∀ failure, ending ≠ .returned (.error (.stream failure))) : call.Streamless := by
  refine .inr ⟨open?_of_ended ended, ?_⟩
  rintro (⟨output, other⟩ | ⟨failure, other⟩)
  · exact unfinished output (Option.some.inj (ended.symm.trans other))
  · exact unbroken failure (Option.some.inj (ended.symm.trans other))

theorem streamless_build (call : Call) : call.build.Streamless := by
  unfold build
  split
  · exact streamless_of_ended rfl (fun _ => nofun) (fun _ => nofun)
  · exact .inl rfl

theorem streamless_start (moment : Moment) (call : Call) : (call.start moment).Streamless := by
  unfold start
  split
  · exact streamless_build _
  · split
    · exact streamless_of_ended rfl (fun _ => nofun) (fun _ => nofun)
    · exact streamless_build _

theorem streamless_cancelEarly (call : Call) (reason : CancelReason) :
    (call.cancelEarly reason).Streamless :=
  streamless_of_ended (ending?_cancelEarly call reason) (fun _ => nofun) (fun _ => nofun)

theorem streamless_awaitUpgrade (moment : Moment) (shared : Shared) (call : Call)
    (request : Request) (remote : Remote) :
    (awaitUpgrade moment shared call request remote).2.Streamless := by
  unfold awaitUpgrade
  dsimp only
  split
  · exact .inl rfl
  · exact .inl rfl
  · exact streamless_of_ended rfl (fun _ => nofun) (fun _ => nofun)

/-- Nothing comes of streams in a step of a call that has none. -/
theorem streamless_next {call : Call} (closed : call.session? = none)
    (going : call.ending? = none) (remote : Remote) (glance : Glance) :
    call.open? = some true ∧ (call.next remote glance).Streamless := by
  unfold session? at closed
  unfold ending? at going
  unfold open? next step
  cases phase : call.phase with
  | ended ending =>
      rw [phase] at going
      cases going
  | entering | streaming =>
      rw [phase] at closed
      cases closed
  | fresh => exact ⟨rfl, streamless_start _ _⟩
  | built request =>
      refine ⟨rfl, ?_⟩
      dsimp only
      split
      · exact streamless_cancelEarly _ _
      · exact .inl rfl
  | opened current =>
      refine ⟨rfl, ?_⟩
      dsimp only
      split
      · exact streamless_cancelEarly _ _
      · exact .inl rfl
  | asking request =>
      refine ⟨rfl, ?_⟩
      dsimp only
      split
      · exact streamless_cancelEarly _ _
      · exact streamless_awaitUpgrade _ _ _ _ _
  | upgrading request current =>
      refine ⟨rfl, ?_⟩
      dsimp only
      split
      · exact streamless_cancelEarly _ _
      · exact streamless_awaitUpgrade _ _ _ _ _

theorem races_of_session? {call : Call} {session : Streaming}
    (streams : call.session? = some session) : call.races = true := by
  unfold session? at streams
  unfold races
  split at streams
  · rename_i entering
    rw [entering]
  · rename_i streaming
    rw [streaming]
  · cases streams

/-- What interrupts a call with streams ends it without a poll. -/
theorem next_of_interrupted {call : Call} {session : Streaming} {glance : Glance}
    (streams : call.session? = some session) {reason : CancelReason}
    (interrupted : call.interruption? glance.moment ⟨glance.cancelled, []⟩ = some reason)
    (remote : Remote) :
    call.pollsAt glance = [] ∧ (call.next remote glance).ending? =
      some (.returned (.error (.cancelled reason call.state))) := by
  have racing := races_of_session? streams
  constructor
  · simp only [pollsAt, streams, interrupted]
  · rw [cancelled_iff (going_of_races racing), interruptedBy_of_races racing]
    exact ⟨interrupted, rfl⟩

/-- What the server has left to hand out does not interrupt a call. -/
theorem next_of_uninterrupted {call : Call} {session : Streaming} {glance : Glance}
    (streams : call.session? = some session)
    (calm : call.interruption? glance.moment ⟨glance.cancelled, []⟩ = none) (remote : Remote) :
    ∃ earlier : Call, call.next remote glance =
      (earlier.stream glance.moment ⟨glance.cancelled, [remote]⟩ session).2 := by
  have quiet : call.interruption? glance.moment ⟨glance.cancelled, [remote]⟩ = none := calm
  exact next_of_session? streams quiet

theorem pollsAt_of_calm {call : Call} {session : Streaming} {glance : Glance}
    (streams : call.session? = some session)
    (calm : call.interruption? glance.moment ⟨glance.cancelled, []⟩ = none) :
    call.pollsAt glance = (session.loop glance.moment.now (.again glance.moment.choices)
      (.first glance.moment.choices) glance.cancelled).polls := by
  simp only [pollsAt, streams, calm]

/-- A step of a call with streams that nothing interrupts goes round the loop, and the last of its
polls decides whether and how the call ends. -/
theorem next_of_calm {call : Call} {session : Streaming} {glance : Glance}
    (streams : call.session? = some session)
    (calm : call.interruption? glance.moment ⟨glance.cancelled, []⟩ = none) (remote : Remote) :
    Orderly call.open? (call.pollsAt glance) (call.next remote glance).open? ∧
    ∃ last, (call.pollsAt glance).getLast? = some last ∧
      (call.next remote glance).ending? = last.progress.ending? := by
  rcases next_of_uninterrupted streams calm remote with ⟨earlier, same⟩
  rw [pollsAt_of_calm streams calm, same]
  constructor
  · rw [open?_of_session? streams, open?_stream]
    exact Streaming.loop_orderly ..
  · rcases Streaming.loop_decided glance.moment.now (.again glance.moment.choices)
      (.first glance.moment.choices) glance.cancelled session with ⟨last, final, progress⟩
    rw [Streaming.loop_look] at progress
    refine ⟨last, final, ?_⟩
    rw [ending?_stream, progress]

/-- A step of a call whose output side is ready ends it, with the whole output if the input does not
fail in this step. -/
theorem next_of_ready {order : Order} {remote : Remote} {before : List Glance} {glance : Glance}
    {session : Streaming} (streams : (order.run remote before).session? = some session)
    (calm : (order.run remote before).interruption? glance.moment ⟨glance.cancelled, []⟩ = none)
    (ready : session.Ready glance.moment.now) :
    (∃ output, ((order.run remote before).next remote glance).ending? =
      some (.returned (.ok output))) ∨
    ∃ failure, .input (.failed failure) ∈ (order.run remote before).pollsAt glance ∧
      ((order.run remote before).next remote glance).ending? =
        some (.returned (.error (.stream failure))) := by
  by_cases failing : ∃ failure,
      .input (.failed failure) ∈ (order.run remote before).pollsAt glance
  · -- An input that fails is the last to be polled, so it is what ends the call.
    rcases failing with ⟨failure, polled⟩
    rcases next_of_calm streams calm remote with ⟨orderly, last, final, ended⟩
    have least := orderly.getLast?_of_settled polled Streaming.Progress.noConfusion
    rw [Option.some.inj (final.symm.trans least)] at ended
    exact .inr ⟨failure, polled, ended⟩
  · rw [pollsAt_of_calm streams calm] at failing
    rcases ready.loop (unshut_of_session? streams) glance.moment.choices glance.cancelled
      (fun failure polled => failing ⟨failure, polled⟩) with ⟨output, finished⟩
    rcases next_of_uninterrupted streams calm remote with ⟨earlier, same⟩
    rw [same]
    exact .inl ⟨output, ending?_stream_of_finished finished⟩

/-- The polls of a step lead from what is open before it to what is open after it, unless the step
ends the call. -/
theorem pollsAt_orderly (call : Call) (remote : Remote) (glance : Glance) :
    ∃ left, Orderly call.open? (call.pollsAt glance) left ∧
      ((call.next remote glance).open? = left ∨ (call.next remote glance).open? = none) := by
  cases streams : call.session? with
  | none =>
      have quiet : call.pollsAt glance = [] := by rw [pollsAt, streams]
      rw [quiet]
      refine ⟨_, .nil, ?_⟩
      cases ended : call.ending? with
      | some ending =>
          rw [next_of_ended ended]
          exact .inl rfl
      | none =>
          rcases streamless_next streams ended remote glance with ⟨all, goesOn | ⟨closed, _⟩⟩
          · exact .inl (goesOn.trans all.symm)
          · exact .inr closed
  | some session =>
      cases interruption : call.interruption? glance.moment ⟨glance.cancelled, []⟩ with
      | some reason =>
          rcases next_of_interrupted streams interruption remote with ⟨quiet, ended⟩
          rw [quiet]
          exact ⟨_, .nil, .inr (open?_of_ended ended)⟩
      | none =>
          exact ⟨_, (next_of_calm streams interruption remote).1, .inl rfl⟩

/-- The run lemma: the polls of a whole run follow upon each other as those of one loop do. -/
theorem polls_orderly (remote : Remote) (call : Call) (glances : List Glance) :
    ∃ left, Orderly call.open? (call.polls remote glances) left ∧
      ((call.after remote glances).open? = left ∨ (call.after remote glances).open? = none) := by
  induction glances generalizing call with
  | nil => exact ⟨_, .nil, .inl rfl⟩
  | cons glance rest ih =>
      rcases pollsAt_orderly call remote glance with ⟨left, first, same⟩
      rcases ih (call.next remote glance) with ⟨last, later, final⟩
      rw [after_cons, polls]
      rcases same with same | closed
      · rw [same] at later
        exact ⟨last, first.append later, final⟩
      · -- A call that has ended polls nothing any more.
        rw [closed] at later
        rcases later.of_closed with ⟨none, rfl⟩
        rw [none, List.append_nil]
        exact ⟨left, first, .inr (final.elim id id)⟩

theorem polls_append (remote : Remote) (call : Call) (first second : List Glance) :
    call.polls remote (first ++ second) =
      call.polls remote first ++ (call.after remote first).polls remote second := by
  induction first generalizing call with
  | nil => rfl
  | cons glance rest ih =>
      rw [List.cons_append, polls, polls, ih, after_cons, List.append_assoc]

end Call

/-- The polls of the run of an order. -/
def Order.polls (order : Order) (remote : Remote) (glances : List Glance) : List Poll :=
  (Call.ofOrder order).polls remote glances

theorem Order.pollsAt_subset_polls (order : Order) (remote : Remote) (before later : List Glance)
    (glance : Glance) :
    ∀ poll ∈ (order.run remote before).pollsAt glance,
      poll ∈ order.polls remote (before ++ glance :: later) := by
  intro poll member
  rw [polls, Call.polls_append]
  exact List.mem_append_right _ (List.mem_append_left _ member)

/-- Where streams have come to their end, or something has gone wrong in them, that has been at a
look at them which nothing interrupted. -/
theorem Order.exists_last_look {order : Order} {remote : Remote} {glances : List Glance}
    (closed : (order.run remote glances).StreamsOver) :
    ∃ before glance later session, glances = before ++ glance :: later ∧
      (order.run remote before).session? = some session ∧
      (order.run remote before).interruption? glance.moment ⟨glance.cancelled, []⟩ = none ∧
      (order.run remote before).next remote glance = order.run remote glances := by
  rcases closed.ending with ⟨result, ended⟩
  rcases Order.exists_last_step ended with ⟨before, glance, later, split, going, last⟩
  rw [← last] at closed
  cases streams : (order.run remote before).session? with
  | none =>
      rcases (Call.streamless_next streams going remote glance).2 with opened | ⟨_, streamless⟩
      · rw [last, Call.open?_of_ended ended] at opened
        cases opened
      · exact absurd closed streamless
  | some session =>
      cases interruption : (order.run remote before).interruption? glance.moment
          ⟨glance.cancelled, []⟩ with
      | some reason =>
          have cancelled := (Call.next_of_interrupted streams interruption remote).2
          rcases closed with ⟨_, other⟩ | ⟨_, other⟩
          · cases cancelled.symm.trans other
          · cases cancelled.symm.trans other
      | none => exact ⟨before, glance, later, session, split, streams, interruption, last⟩

/-- The last poll of that look says so. -/
theorem Order.poll_of_streamsOver {order : Order} {remote : Remote} {glances : List Glance}
    (closed : (order.run remote glances).StreamsOver) :
    ∃ poll ∈ order.polls remote glances,
      (order.run remote glances).ending? = poll.progress.ending? := by
  rcases Order.exists_last_look closed with
    ⟨before, glance, later, session, split, streams, calm, last⟩
  have polled := order.pollsAt_subset_polls remote before later glance
  rw [← split] at polled
  rw [← last]
  rcases (Call.next_of_calm streams calm remote).2 with ⟨final, least, same⟩
  exact ⟨final, polled final (List.mem_of_getLast? least), same⟩

/-- The poll is one of the output, or one of an input that has failed. -/
theorem Order.output_or_failed {order : Order} {remote : Remote} {glances : List Glance}
    (closed : (order.run remote glances).StreamsOver) :
    (∃ progress, .output progress ∈ order.polls remote glances ∧
      (order.run remote glances).ending? = progress.ending?) ∨
    ∃ failure, .input (.failed failure) ∈ order.polls remote glances ∧
      .input .done ∉ order.polls remote glances ∧ failure.kind ≠ .brokenPipe ∧
      (order.run remote glances).ending? = some (.returned (.error (.stream failure))) := by
  rcases Order.poll_of_streamsOver closed with ⟨poll, member, ended⟩
  cases poll with
  | output progress => exact .inl ⟨progress, member, ended⟩
  | input outcome =>
      cases outcome with
      | failed failure =>
          rcases Call.polls_orderly remote (.ofOrder order) glances with ⟨left, orderly, _⟩
          rcases orderly.of_inputFailed member with ⟨unbroken, once⟩
          exact .inr ⟨failure, member, once, unbroken, ended⟩
      | pending | done =>
          rcases closed.ending with ⟨result, returned⟩
          cases returned.symm.trans ended

/-- How the output side decides over the run of an order, whatever becomes of the input. -/
structure Order.OutputDecides (order : Order) (remote : Remote) (glances : List Glance) :
    Prop where
  /-- A look at open streams is the loop whose polls are told here. -/
  looks : ∀ (session : Streaming) (choices : Choices) (now : Instant) (cancelled : Bool),
    (session.loop now (.again choices) (.first choices) cancelled).look =
      session.look choices now cancelled
  /-- In every turn the output is waited for. -/
  enabled : ∀ (session : Streaming) (turn : Streaming.Turn), .output ∈ session.sides turn
  /-- What is found ready is closed, so there are at most two such polls, and after two of them the
  call has ended. -/
  completions : ((order.polls remote glances).filter Poll.isReady).length +
    openSides (order.run remote glances).open? ≤ 2
  /-- A side that has been found ready is not polled again. -/
  once : (order.polls remote glances).Pairwise fun earlier later =>
    earlier.isReady = true → later.side ≠ earlier.side
  /-- At a glance that nothing interrupts, the last poll decides whether and how the call ends; that
  the input is done decides nothing. -/
  decided : ∀ before glance later session, glances = before ++ glance :: later →
    (order.run remote before).session? = some session →
    (order.run remote before).interruption? glance.moment ⟨glance.cancelled, []⟩ = none →
    ∃ last, ((order.run remote before).pollsAt glance).getLast? = some last ∧
      (order.run remote (before ++ [glance])).ending? = last.progress.ending?
  /-- Streams are over with a poll of the output, or with an input that has failed; an input that is
  done, or has been refused by the far side, has not. -/
  closed : (order.run remote glances).StreamsOver →
    (∃ progress, .output progress ∈ order.polls remote glances ∧
      (order.run remote glances).ending? = progress.ending?) ∨
    ∃ failure, .input (.failed failure) ∈ order.polls remote glances ∧
      .input .done ∉ order.polls remote glances ∧ failure.kind ≠ .brokenPipe ∧
      (order.run remote glances).ending? = some (.returned (.error (.stream failure)))
  /-- A call whose output side is complete at a glance returns at that glance, and returns the whole
  output if the input has not failed by then. -/
  returns : ∀ before glance later session, glances = before ++ glance :: later →
    (order.run remote before).session? = some session →
    (order.run remote before).interruption? glance.moment ⟨glance.cancelled, []⟩ = none →
    session.Ready glance.moment.now →
    (order.run remote (before ++ [glance])).StreamsOver ∧
    ((∀ failure, .input (.failed failure) ∉ order.polls remote (before ++ [glance])) →
      ∃ output, (order.run remote (before ++ [glance])).ending? =
        some (.returned (.ok output)))
  /-- Once the session has reported how the command ended, the call has returned its output. -/
  reported : ∀ status, .statusReported (some status) ∈ (order.run remote glances).events →
    ∃ output, (order.run remote glances).ending? = some (.returned (.ok output))
  /-- What a call returns is everything that the remote side has sent. -/
  captured : ∀ output, (order.run remote glances).ending? = some (.returned (.ok output)) →
    output.Captures remote (order.run remote glances).events

/-- In every run of every order it is the output side that decides. -/
theorem output_decides (order : Order) (remote : Remote) (glances : List Glance) :
    order.OutputDecides remote glances := by
  rcases Call.polls_orderly remote (.ofOrder order) glances with ⟨left, orderly, final⟩
  have history := (Call.run_history (Streaming.capture_sustained order.stdin remote) glances).2
  constructor
  case looks =>
    intro session choices now cancelled
    exact session.loop_look choices now cancelled
  case enabled => exact Streaming.output_mem_sides
  case completions =>
    have fewer : openSides (order.run remote glances).open? ≤ openSides left := by
      rcases final with same | closed
      · exact Nat.le_of_eq (congrArg openSides same)
      · exact Nat.le_trans (Nat.le_of_eq (congrArg openSides closed)) (Nat.zero_le _)
    exact Nat.le_trans (Nat.add_le_add_left fewer _) orderly.ready_add_openSides_le
  case once => exact orderly.pairwise_side
  case decided =>
    intro before glance later session _ streams calm
    rw [Order.run_concat]
    exact (Call.next_of_calm streams calm remote).2
  case closed => exact Order.output_or_failed
  case returns =>
    intro before glance later session _ streams calm ready
    rw [Order.run_concat]
    rcases Call.next_of_ready streams calm ready with finished | ⟨failure, polled, failed⟩
    · exact ⟨.inl finished, fun _ => finished⟩
    · have told := order.pollsAt_subset_polls remote before [] glance _ polled
      exact ⟨.inr ⟨failure, failed⟩, fun sound => absurd told (sound failure)⟩
  case reported =>
    intro status told
    rcases history.completed_of_reported told with ⟨output, phase⟩
    refine ⟨output, ?_⟩
    rw [Call.ending?, phase]
  case captured =>
    intro output ended
    rw [Call.phase_of_ending? ended] at history
    exact history.captures

/-- Local input that never ends, and a far side that is never done with being flushed, hold up
nothing of what the remote side sends. -/
example :
    (Order.run
      ⟨.pod "default" "web", ["cat"], none, some ⟨[.data [98]], fun _ => some [.data [98]]⟩⟩
      ⟨[], some ⟨.ofScript [], ⟨.ofScript [.hang], .ofScript []⟩⟩, some [.data [97]], none, [],
        some (.exited 0)⟩
      (List.replicate 5 (.calm 0))).ending? = some (.returned (.ok ⟨[97], [], .exited 0⟩)) := rfl

end PodCommand
