import PodCommand.Proofs.Session.Calm
import PodCommand.Proofs.Session.Pace
import PodCommand.Proofs.Session.Schedule

namespace PodCommand

/-!
One call on a clock.

The clock of a schedule moves on to the next instant at which something can happen, and only if
nothing more can happen before it.  While the streams of a call are on time, that instant is the end
of a pause in one of them, never the deadline; so between two looks either something is passed or a
pause runs out, and the looks that a schedule is given are enough to bring the streams to their end.
-/

namespace Call

/-- A run of the order whose streams are on time, with the deadline behind the time. -/
structure OnTime (order : Order) (remote : Remote) (now total : Instant) (session : Streaming)
    (call : Call) : Prop where
  isRun : ∃ glances, call = order.run remote glances
  phase : call.phase = .streaming session
  streams : session.OnTime now total
  inTime : now ≤ total
  early : ∀ deadline, call.deadline = some deadline → total < deadline.instant

/-! ## One poll -/

theorem goOn_of_rests {state : Shared × Call} (rests : state.2.rests = true) (moment : Moment) :
    goOn moment state = state := if_pos rests

theorem stream_rests (moment : Moment) (shared : Shared) (call : Call) (session : Streaming) :
    (stream moment shared call session).2.rests = true :=
  (rests_iff_ahead _).mpr (Nat.le_zero.mp (ahead_stream moment shared call session))

/-- A call with open streams that nothing interrupts takes one look at them. -/
theorem poll_of_streaming {call : Call} {session : Streaming}
    (phase : call.phase = .streaming session) {moment : Moment} {shared : Shared}
    (calm : call.interruption? moment shared = none) :
    call.poll moment shared = call.stream moment shared session := by
  have looked : call.step moment shared = call.stream moment shared session := by
    simp only [step, phase, calm]
  have rests := stream_rests moment shared call session
  simp only [poll, looked, goOn_of_rests rests]

/-- What one poll makes of a call whose streams were on time: they are over, or there is less to
come of them. -/
inductive Polled (order : Order) (remote : Remote) (remotes : List Remote) (now total : Instant)
    (before : Streaming) : Shared × Call → Prop
  | closed {call : Call} (isRun : ∃ glances, call = order.run remote glances)
      (closed : call.StreamsOver) : Polled order remote remotes now total before
        (⟨false, remotes⟩, call)
  | going {call : Call} {after : Streaming} (onTime : call.OnTime order remote now total after)
      (advances : before.Advances now total after) :
      Polled order remote remotes now total before (⟨false, remotes⟩, call)

section

variable {order : Order} {remote : Remote} {now total : Instant} {session : Streaming}

/-- A look at streams on time, as the last step of a poll. -/
theorem stream_polled (onTime : session.OnTime now total) (inTime : now ≤ total) {call : Call}
    (early : ∀ deadline, call.deadline = some deadline → total < deadline.instant)
    (remotes : List Remote)
    (isRun : ∃ glances, (stream ⟨now, Schedule.choices⟩ ⟨false, remotes⟩ call session).2 =
      order.run remote glances) :
    Polled order remote remotes now total session
      (stream ⟨now, Schedule.choices⟩ ⟨false, remotes⟩ call session) := by
  rcases Streaming.look_onTime onTime false with ⟨same, advances⟩
  unfold stream at isRun ⊢
  dsimp only at isRun ⊢
  rw [same] at isRun ⊢
  cases progress : (session.look Schedule.choices now false).progress with
  | pending =>
      rw [progress] at isRun
      exact .going ⟨isRun, rfl, (advances progress).onTime, inTime, early⟩ (advances progress)
  | finished output =>
      rw [progress] at isRun
      exact .closed isRun (.inl ⟨output, rfl⟩)
  | failed failure =>
      rw [progress] at isRun
      exact .closed isRun (.inr ⟨failure, rfl⟩)

/-- A poll of a call whose streams are on time. -/
theorem OnTime.poll {call : Call} (onTime : call.OnTime order remote now total session)
    (remotes : List Remote) :
    Polled order remote remotes now total session
      (call.poll ⟨now, Schedule.choices⟩ ⟨false, remotes⟩) := by
  have calm : ∀ remotes, call.interruption? ⟨now, Schedule.choices⟩ ⟨false, remotes⟩ = none :=
    fun _ => interruption_eq_none rfl fun deadline fixed =>
      Nat.lt_of_le_of_lt onTime.inTime (onTime.early deadline fixed)
  rcases onTime.isRun with ⟨glances, run⟩
  have next : call.next remote ⟨⟨now, Schedule.choices⟩, false⟩ =
      (call.stream ⟨now, Schedule.choices⟩ ⟨false, [remote]⟩ session).2 := by
    simp only [Call.next, step, onTime.phase, calm]
  rw [poll_of_streaming onTime.phase (calm remotes)]
  refine stream_polled onTime.streams onTime.inTime onTime.early remotes ?_
  refine ⟨glances ++ [⟨⟨now, Schedule.choices⟩, false⟩], ?_⟩
  rw [order.run_concat, ← run, next]
  exact stream_remotes _ _ _ _ _ _

/-! ## The first poll -/

/-- The call of an order at a stage, with the deadline that its first glance has fixed. -/
def staged (order : Order) (now : Instant) (request : Request) (stage : Stage) (phase : Phase) :
    Call :=
  ⟨order, order.deadlineFrom now, stage.state, phase, stage.events request⟩

/-- The steps that take a calm call from its order to its streams, if the server hands over the
session at once. -/
structure Opens (order : Order) (remote : Remote) (now : Instant) (choices : Choices)
    (request : Request) : Prop where
  built : ∀ remotes, step ⟨now, choices⟩ ⟨false, remotes⟩ (ofOrder order) =
    (⟨false, remotes⟩, staged order now request .requested (.built request))
  asking : ∀ remotes,
    step ⟨now, choices⟩ ⟨false, remotes⟩ (staged order now request .requested (.built request)) =
      (⟨false, remotes⟩, staged order now request .requested (.asking request))
  opened : ∀ remotes,
    step ⟨now, choices⟩ ⟨false, remote :: remotes⟩
        (staged order now request .requested (.asking request)) =
      (⟨false, remotes⟩, staged order now request .opened (.opened remote))
  entering : ∀ remotes,
    step ⟨now, choices⟩ ⟨false, remotes⟩ (staged order now request .opened (.opened remote)) =
      (⟨false, remotes⟩, staged order now request .entered (.entering remote))
  streams : ∀ remotes,
    step ⟨now, choices⟩ ⟨false, remotes⟩ (staged order now request .entered (.entering remote)) =
      stream ⟨now, choices⟩ ⟨false, remotes⟩
        ((staged order now request .entered (.entering remote)).record
          [.inputTaken, .outputTaken, .errorsTaken])
        (.start order.stdin remote)

variable {request : Request}

theorem opens (valid : order.request = .ok request) (inTime : order.InTime now)
    (prompt : remote.upgrade = [])
    (early : ∀ deadline, order.deadlineFrom now = some deadline → now < deadline.instant)
    (choices : Choices) : Opens order remote now choices request := by
  have calm : ∀ stage phase remotes, (staged order now request stage phase).interruption?
      ⟨now, choices⟩ ⟨false, remotes⟩ = none :=
    fun _ _ _ => interruption_eq_none rfl fun deadline fixed => early deadline fixed
  refine ⟨fun remotes => ?_, fun _ => rfl, fun remotes => ?_, fun _ => rfl, fun remotes => ?_⟩
  · have started : start ⟨now, choices⟩ (ofOrder order) =
        staged order now request .requested (.built request) :=
      @run_of_valid order ⟨⟨now, choices⟩, false⟩ inTime remote request valid
    rw [← started]
    rfl
  · have answered : ∀ around, remote.upgrade.play around false = (.over none, [], false) := by
      intro around
      rw [prompt]
      rfl
    have same : { remote with upgrade := [] } = remote := by
      rw [← prompt]
    have calm := calm .requested (.asking request) (remote :: remotes)
    unfold staged at calm ⊢
    simp only [step, calm, askUpgrade, awaitUpgrade, answered, same]
    rfl
  · have calm := calm .entered (.entering remote) remotes
    unfold staged at calm ⊢
    simp only [step, calm]
    rfl

theorem goOn_of_moves (state : Shared × Call) (moves : state.2.rests = false) (moment : Moment) :
    goOn moment state = state.2.step moment state.1 :=
  if_neg (Bool.eq_false_iff.mp moves)

/-- The first poll of a proper order in time, where the server hands over the session at once. -/
theorem poll_ofOrder (valid : order.request = .ok request) (inTime : order.InTime now)
    (prompt : remote.upgrade = []) (onTime : (Streaming.start order.stdin remote).OnTime now total)
    (upTo : now ≤ total)
    (early : ∀ deadline, order.deadlineFrom now = some deadline → total < deadline.instant) :
    Polled order remote [] now total (.start order.stdin remote)
      ((ofOrder order).poll ⟨now, Schedule.choices⟩ ⟨false, [remote]⟩) := by
  have steps := opens valid inTime prompt
    (fun deadline fixed => Nat.lt_of_le_of_lt upTo (early deadline fixed)) Schedule.choices
  have polled : (ofOrder order).poll ⟨now, Schedule.choices⟩ ⟨false, [remote]⟩ =
      stream ⟨now, Schedule.choices⟩ ⟨false, []⟩
        ((staged order now request .entered (.entering remote)).record
          [.inputTaken, .outputTaken, .errorsTaken])
        (.start order.stdin remote) := by
    have built := goOn_of_moves
      (⟨false, [remote]⟩, staged order now request .requested (.built request)) rfl
    have asking := goOn_of_moves
      (⟨false, [remote]⟩, staged order now request .requested (.asking request)) rfl
    have opened := goOn_of_moves
      (⟨false, []⟩, staged order now request .opened (.opened remote)) rfl
    have entering := goOn_of_moves
      (⟨false, []⟩, staged order now request .entered (.entering remote)) rfl
    unfold poll
    rw [steps.built, built, steps.asking, asking, steps.opened, opened, steps.entering, entering,
      steps.streams]
  have run : order.run remote (List.replicate 4 ⟨⟨now, Schedule.choices⟩, false⟩) =
      staged order now request .entered (.entering remote) := by
    simp only [Order.run, List.replicate, after_cons, after_nil, Call.next, steps.built,
      steps.asking, steps.opened, steps.entering]
  rw [polled]
  refine stream_polled onTime upTo early [] ?_
  refine ⟨List.replicate 4 ⟨⟨now, Schedule.choices⟩, false⟩ ++
    [⟨⟨now, Schedule.choices⟩, false⟩], ?_⟩
  rw [order.run_concat, run, Call.next, steps.streams]
  exact stream_remotes _ _ _ _ _ _

end

end Call

namespace Schedule

variable {order : Order} {remote : Remote} {now total : Instant} {session : Streaming} {call : Call}

/-! ## Where the clock moves -/

theorem remaining_onTime (onTime : call.OnTime order remote now total session) :
    remaining call = 1 + session.ahead := by
  have silent := onTime.streams.answers
  simp only [remaining, scriptsOf, onTime.phase, silent, Streaming.ahead, Channel.ahead,
    List.flatten_cons, List.flatten_nil, List.length_append, List.length_nil]
  omega

theorem le_nextTick (instant : Nat) : instant ≤ Instant.nextTick instant := by
  change instant ≤ (instant + 999999) / 1000000 * 1000000
  omega

/-- The end of a pause in an output is an instant at which something can happen. -/
theorem mem_wakes (onTime : call.OnTime order remote now total session) {outlet : Outlet}
    {wake : Instant} (fixed : ((session.channel outlet).script.getD []).wake? = some wake) :
    wake ∈ wakes call := by
  have listed : (session.channel outlet).script.getD [] ∈ scriptsOf call := by
    simp only [scriptsOf, onTime.phase]
    cases outlet <;> simp [Streaming.channel]
  simp only [wakes, onTime.phase]
  have paused := List.mem_append_left (inputScriptsOf call) listed
  exact List.mem_append_right _ (List.mem_filterMap.mpr ⟨_, paused, fixed⟩)

/-- Whatever can happen by itself is the end of a pause, or comes after all of them. -/
theorem due_of_mem_wakes (onTime : call.OnTime order remote now total session) {wake : Instant}
    (listed : wake ∈ wakes call) (upTo : wake ≤ total) : session.Due wake := by
  simp only [wakes, onTime.phase] at listed
  rcases List.mem_append.mp listed with timer | paused
  · rcases Option.map_eq_some_iff.mp (Option.mem_toList.mp timer) with ⟨deadline, fixed, rfl⟩
    have late := Nat.lt_of_lt_of_le (onTime.early deadline fixed) (le_nextTick deadline.instant)
    exact absurd upTo (Nat.not_le_of_lt late)
  · rcases List.mem_filterMap.mp paused with ⟨script, member, fixed⟩
    have due : script.Due wake := ⟨wake, fixed, Nat.le_refl wake⟩
    rcases List.mem_append.mp member with output | input
    · simp only [scriptsOf, onTime.phase, onTime.streams.answers, List.mem_cons, List.not_mem_nil,
        or_false] at output
      rcases output with rfl | rfl | rfl
      · exact .inl ⟨.output, due⟩
      · exact .inl ⟨.errors, due⟩
      · cases fixed
    · simp only [inputScriptsOf, onTime.phase] at input
      exact .inr ⟨script, input, due⟩

/-- The clock moves on to the end of a pause that comes before the deadline, and does not move
beyond the end of any other. -/
theorem nextWake?_onTime (onTime : call.OnTime order remote now total session)
    (waits : ∀ outlet, (session.channel outlet).Waits now)
    (unended : ∃ outlet, (session.channel outlet).hasEnded = false) (shared : Shared) :
    ∃ wake, nextWake? ⟨now, shared, none, [⟨call, none⟩]⟩ = some wake ∧ now < wake ∧
      wake ≤ total ∧ session.Due wake ∧
      ∀ outlet other, ((session.channel outlet).script.getD []).wake? = some other →
        wake ≤ other := by
  have instants : nextWake? ⟨now, shared, none, [⟨call, none⟩]⟩ =
      ((wakes call).filter (now < ·)).min? := by
    simp [nextWake?]
  have listed : ∀ outlet other, ((session.channel outlet).script.getD []).wake? = some other →
      other ∈ (wakes call).filter (now < ·) := by
    intro outlet other fixed
    refine List.mem_filter.mpr ⟨mem_wakes onTime fixed, decide_eq_true ?_⟩
    cases present : (session.channel outlet).script with
    | none =>
        rw [present] at fixed
        cases fixed
    | some script =>
        rw [present] at fixed
        rcases waits outlet script present with ⟨wake, same, asleep⟩
        cases fixed.symm.trans same
        exact asleep
  rcases unended with ⟨outlet, unended⟩
  rcases Option.isSome_iff_exists.mp (Option.isNone_eq_false_iff.mp unended) with ⟨script, present⟩
  rcases waits outlet script present with ⟨nearest, fixed, asleep⟩
  have first := listed outlet nearest (by rw [present]; exact fixed)
  have upTo : nearest ≤ total :=
    Nat.le_trans (Script.wake_le_finish fixed now) (onTime.streams.channel outlet script present).2
  rcases Option.isSome_iff_exists.mp (List.isSome_min?_of_mem first) with ⟨wake, least⟩
  rcases List.min?_eq_some_iff.mp least with ⟨member, below⟩
  rcases List.mem_filter.mp member with ⟨possible, later⟩
  have soon : wake ≤ total := Nat.le_trans (below nearest first) upTo
  exact ⟨wake, instants.trans least, of_decide_eq_true later, soon,
    due_of_mem_wakes onTime possible soon, fun outlet other fixed =>
      below other (listed outlet other fixed)⟩

/-! ## Round after round -/

/-- The only call of a schedule is a run of the order, and its streams are over. -/
def Over (order : Order) (remote : Remote) (schedule : Schedule) : Prop :=
  ∃ glances endedAt, schedule.calls = [⟨order.run remote glances, endedAt⟩] ∧
    (order.run remote glances).StreamsOver

/-- So many more rounds bring the streams of the call to their end, whatever pause has run out. -/
def Suffices (order : Order) (remote : Remote) (total : Instant) (fuel : Nat) : Prop :=
  ∀ {now : Instant} {session : Streaming} {call : Call} (remotes : List Remote),
    call.OnTime order remote now total session →
    2 * session.ahead < fuel → session.Due now ∨ 2 * session.ahead + 1 < fuel →
    Over order remote (run fuel ⟨now, ⟨false, remotes⟩, none, [⟨call, none⟩]⟩)

theorem pollAll_single (moment : Moment) (shared : Shared) (call : Call) :
    pollAll moment shared [⟨call, none⟩] =
      ((call.poll moment shared).1,
        [⟨(call.poll moment shared).2,
          if (call.poll moment shared).2.ending?.isSome then some moment.now else none⟩]) := by
  rfl

/-- A round in which the streams do not come to their end leaves it to the rounds after it. -/
theorem run_of_polled {fuel : Nat} (later : Suffices order remote total fuel) {before : Streaming}
    {shared : Shared} {remotes : List Remote}
    (polled : Call.Polled order remote remotes now total before (call.poll ⟨now, choices⟩ shared))
    (stayed : ∀ {after : Streaming}, before.Advances now total after →
      remaining call = 1 + after.ahead → 2 * after.ahead < fuel)
    (moved : ∀ {after : Streaming}, before.Advances now total after →
      remaining call ≠ 1 + after.ahead → 2 * after.ahead + 1 < fuel) :
    Over order remote (run (fuel + 1) ⟨now, shared, none, [⟨call, none⟩]⟩) := by
  rw [run]
  dsimp only
  rw [pollAll_single]
  generalize call.poll ⟨now, choices⟩ shared = state at polled
  cases polled with
  | closed isRun closed =>
      rcases isRun with ⟨glances, rfl⟩
      rcases closed.ending with ⟨result, ended⟩
      simp only [ended, Option.isSome_some, if_true, List.all_cons, List.all_nil, Bool.and_self]
      exact ⟨glances, _, rfl, closed⟩
  | @going after session onTime advances =>
      have unended : after.ending? = none := by
        rw [Call.ending?, onTime.phase]
      simp only [unended, Option.isSome_none, Bool.false_eq_true, if_false, List.all_cons,
        List.all_nil, Bool.false_and, List.map_cons, List.map_nil]
      by_cases still : remaining call = 1 + session.ahead
      · have enough := stayed advances still
        rw [if_neg (not_not_intro (by rw [still, remaining_onTime onTime]))]
        rcases nextWake?_onTime onTime advances.waits advances.unended ⟨false, remotes⟩ with
          ⟨wake, next, onward, upTo, due, others⟩
        simp only [next, Option.any_none, Bool.or_false]
        have woken : after.OnTime order remote wake total session :=
          ⟨onTime.isRun, onTime.phase,
            ⟨fun outlet => (advances.onTime.channel outlet).later (advances.waits outlet)
              (Nat.le_of_lt onward) (others outlet), onTime.streams.answers, onTime.streams.input⟩,
            upTo, onTime.early⟩
        exact later remotes woken enough (.inl due)
      · have enough := moved advances still
        have different : [remaining call] ≠ [remaining after] := by
          rw [remaining_onTime onTime]
          exact fun same => still (List.head_eq_of_cons_eq same)
        rw [if_pos different]
        exact later remotes onTime (by omega) (.inr enough)

/-- By induction on the rounds: each of them passes something, or finds a pause run out that the
round before it did not. -/
theorem suffices_all (order : Order) (remote : Remote) (total : Instant) (fuel : Nat) :
    Suffices order remote total fuel := by
  induction fuel with
  | zero => exact fun _ _ enough _ => absurd enough (Nat.not_lt_zero _)
  | succ fuel ih =>
      intro now session call remotes onTime enough due
      refine run_of_polled ih (onTime.poll remotes) ?_ ?_
      · intro after advances still
        rw [remaining_onTime onTime, Nat.add_left_cancel_iff] at still
        have asleep : ¬ session.Due now := fun due => by
          have less := advances.due due
          omega
        have spare := due.resolve_left asleep
        omega
      · intro after advances moved
        rw [remaining_onTime onTime, ne_eq, Nat.add_left_cancel_iff] at moved
        have fewer := advances.fewer
        omega

/-- The rounds that a schedule is given are more than what is to come of its streams. -/
theorem ahead_lt_looks (order : Order) (remote : Remote) (now : Instant) :
    2 * (Streaming.start order.stdin remote).ahead + 2 <
      looks ⟨now, ⟨false, [remote]⟩, none, [⟨.ofOrder order, none⟩]⟩ := by
  have input : (Input.start order.stdin remote.stdin).load ≤
      (remote.stdin.map fun sink => (Copy.start (.ofScript []) sink).load).getD 0 +
        inputSize ⟨.ofOrder order, none⟩ + 1 := by
    unfold inputSize Call.ofOrder
    cases order.stdin with
    | none => exact Nat.le_add_left 1 _
    | some source =>
        cases remote.stdin with
        | none => exact Nat.le_add_left 1 _
        | some sink =>
            simp only [Input.load, Input.start, Option.bind_some, Option.map_some, if_true,
              Option.getD_some, Copying.start, Copy.start, Copy.load, Tape.ofScript,
              Script.load_nil]
            omega
  simp only [looks, remoteSize, Streaming.start, Streaming.ahead, Channel.ahead, Channel.ofScript,
    List.map_cons, List.map_nil, List.foldr_append, List.foldr_cons, List.foldr_nil,
    List.length_append, List.length_cons, List.length_nil]
  omega

/-- A call is made to the end of its streams if its request is proper, the server hands over the
session at once, nobody gives up, and the streams end before the deadline. -/
theorem complete_over {request : Request} (valid : order.request = .ok request)
    (inTime : order.InTime now) (prompt : remote.upgrade = [])
    (onTime : (Streaming.start order.stdin remote).OnTime now total) (upTo : now ≤ total)
    (early : ∀ deadline, order.deadlineFrom now = some deadline → total < deadline.instant) :
    Over order remote (complete now ⟨false, [remote]⟩ none [order]) := by
  have enough := ahead_lt_looks order remote now
  rcases Nat.exists_eq_add_one_of_ne_zero (Nat.ne_zero_of_lt enough) with ⟨fuel, rounds⟩
  rw [rounds] at enough
  simp only [complete, List.map_cons, List.map_nil]
  rw [rounds]
  refine run_of_polled (suffices_all order remote total fuel)
    (Call.poll_ofOrder valid inTime prompt onTime upTo early) ?_ ?_
  · intro after advances _
    have fewer := advances.fewer
    omega
  · intro after advances _
    have fewer := advances.fewer
    omega

end Schedule
end PodCommand
