import PodCommand.Proofs.Session.Run

namespace PodCommand

/-!
The calls of a schedule are runs.

A schedule takes the steps of its calls poll by poll, lets them share the caller's wish and the
sessions of the server, and moves the clock on when all of them wait.  For each call alone this is a
run: whatever the others have done, they have done it to the wish that a glance finds and to the
remote side that the call is handed.  So what holds of every run holds of every scheduled call.
-/

/-! ## A poll goes on until the call rests -/

/-- How many more steps a call in a phase takes at once, at most. -/
def Phase.ahead : Phase → Nat
  | .fresh => 5
  | .built _ => 4
  | .asking _ => 3
  | .opened _ => 2
  | .entering _ => 1
  | .upgrading _ _ | .streaming _ | .ended _ => 0

namespace Call

theorem rests_iff_ahead (call : Call) : call.rests = true ↔ call.phase.ahead = 0 := by
  unfold rests
  cases call.phase <;> simp [Phase.ahead]

theorem ahead_awaitUpgrade (moment : Moment) (shared : Shared) (call : Call) (request : Request)
    (remote : Remote) : (awaitUpgrade moment shared call request remote).2.phase.ahead ≤ 2 := by
  unfold awaitUpgrade
  dsimp only
  split
  · exact Nat.zero_le 2
  · exact Nat.le_refl 2
  · exact Nat.zero_le 2

theorem ahead_stream (moment : Moment) (shared : Shared) (call : Call) (session : Streaming) :
    (stream moment shared call session).2.phase.ahead ≤ 0 := by
  unfold stream
  dsimp only
  split <;> exact Nat.le_refl 0

theorem ahead_start (moment : Moment) (call : Call) : (start moment call).phase.ahead ≤ 4 := by
  have building : ∀ call : Call, call.build.phase.ahead ≤ 4 := by
    intro call
    unfold build
    split
    · exact Nat.zero_le 4
    · exact Nat.le_refl 4
  unfold start
  split
  · exact building call
  · split
    · exact Nat.zero_le 4
    · exact building _

/-- A step brings a call nearer to its rest; a call that rests already is at most taken to where the
answer of the server leads. -/
theorem ahead_step (moment : Moment) (shared : Shared) (call : Call) :
    (call.step moment shared).2.phase.ahead ≤
      if call.rests then 2 else call.phase.ahead - 1 := by
  unfold step rests
  cases phase : call.phase with
  | fresh => exact ahead_start moment call
  | built request =>
      dsimp only
      split
      · exact Nat.zero_le 3
      · exact Nat.le_refl 3
  | asking request =>
      dsimp only
      split
      · exact Nat.zero_le 2
      · unfold askUpgrade
        split <;> exact ahead_awaitUpgrade _ _ _ _ _
  | upgrading request remote =>
      dsimp only
      split
      · exact Nat.zero_le 2
      · exact ahead_awaitUpgrade _ _ _ _ _
  | opened remote =>
      dsimp only
      split
      · exact Nat.zero_le 1
      · exact Nat.le_refl 1
  | entering remote =>
      dsimp only
      split
      · exact Nat.le_refl 0
      · exact ahead_stream _ _ _ _
  | streaming session =>
      dsimp only
      split
      · exact Nat.zero_le 2
      · exact Nat.le_trans (ahead_stream _ _ _ _) (Nat.zero_le 2)
  | ended ending =>
      dsimp only
      rw [phase]
      exact Nat.zero_le 2

theorem ahead_goOn (moment : Moment) (state : Shared × Call) :
    (goOn moment state).2.phase.ahead ≤ state.2.phase.ahead - 1 := by
  unfold goOn
  split
  · rename_i resting
    have still := (rests_iff_ahead _).mp resting
    omega
  · rename_i moving
    have near := ahead_step moment state.1 state.2
    rwa [if_neg moving] at near

/-- After a poll there is nothing left that a call can do at the same moment. -/
theorem poll_rests (moment : Moment) (shared : Shared) (call : Call) :
    (call.poll moment shared).2.rests = true := by
  have five : call.phase.ahead ≤ 5 := by
    cases call.phase <;> simp [Phase.ahead]
  have first : (call.step moment shared).2.phase.ahead ≤ 4 := by
    have near := ahead_step moment shared call
    split at near <;> omega
  have second := ahead_goOn moment (call.step moment shared)
  have third := ahead_goOn moment (goOn moment (call.step moment shared))
  have fourth := ahead_goOn moment (goOn moment (goOn moment (call.step moment shared)))
  have last := ahead_goOn moment
    (goOn moment (goOn moment (goOn moment (call.step moment shared))))
  rw [rests_iff_ahead]
  unfold poll
  omega

/-! ## A step sees only a little of what is shared -/

theorem awaitUpgrade_remotes (moment : Moment) (cancelled : Bool) (first second : List Remote)
    (call : Call) (request : Request) (remote : Remote) :
    (awaitUpgrade moment ⟨cancelled, first⟩ call request remote).2 =
      (awaitUpgrade moment ⟨cancelled, second⟩ call request remote).2 := by
  unfold awaitUpgrade
  dsimp only
  split <;> rfl

theorem stream_remotes (moment : Moment) (cancelled : Bool) (first second : List Remote)
    (call : Call) (session : Streaming) :
    (stream moment ⟨cancelled, first⟩ call session).2 =
      (stream moment ⟨cancelled, second⟩ call session).2 := by
  unfold stream
  dsimp only
  split <;> rfl

theorem askUpgrade_remotes (moment : Moment) (cancelled : Bool) (remotes : List Remote)
    (call : Call) (request : Request) :
    (askUpgrade moment ⟨cancelled, remotes⟩ call request).2 =
      (awaitUpgrade moment ⟨cancelled, []⟩ (call.record [.upgradeStarted request.url]) request
        (remotes.headD noRemote)).2 := by
  cases remotes with
  | nil => rfl
  | cons remote rest => exact awaitUpgrade_remotes moment cancelled rest [] _ request remote

/-- Of the sessions of the server a step sees the next one, and only if the call asks for it. -/
theorem step_remotes (moment : Moment) (cancelled : Bool) (first second : List Remote)
    (call : Call) (same : (∀ request, call.phase ≠ .asking request) ∨
      first.headD noRemote = second.headD noRemote) :
    (call.step moment ⟨cancelled, first⟩).2 = (call.step moment ⟨cancelled, second⟩).2 := by
  have interruption : call.interruption? moment ⟨cancelled, first⟩ =
      call.interruption? moment ⟨cancelled, second⟩ := rfl
  unfold step
  cases phase : call.phase with
  | fresh | built | opened | ended => rfl
  | asking request =>
      dsimp only
      rw [interruption]
      split
      · rfl
      · rcases same with never | head
        · exact absurd phase (never request)
        · rw [askUpgrade_remotes, askUpgrade_remotes, head]
  | upgrading request current =>
      dsimp only
      rw [interruption]
      split
      · rfl
      · exact awaitUpgrade_remotes moment cancelled first second call request current
  | entering current =>
      dsimp only
      rw [interruption]
      split
      · rfl
      · exact stream_remotes moment cancelled first second _ _
  | streaming session =>
      dsimp only
      rw [interruption]
      split
      · rfl
      · exact stream_remotes moment cancelled first second call session

/-! ## Every poll is a part of a run -/

/-- A call is what an order has come to in some run.  As long as the server has not been asked for a
session, so that at least three steps are ahead, the remote side of the run may be any. -/
def IsRun (order : Order) (call : Call) : Prop :=
  ∃ glances, (∃ remote, call = order.run remote glances) ∧
    (3 ≤ call.phase.ahead → ∀ remote, call = order.run remote glances)

theorem isRun_ofOrder (order : Order) : (ofOrder order).IsRun order :=
  ⟨[], ⟨noRemote, rfl⟩, fun _ _ => rfl⟩

/-- The step lemma: whatever is shared, a step of a run is a run. -/
theorem step_isRun {order : Order} {call : Call} (isRun : call.IsRun order) (moment : Moment)
    (shared : Shared) : (call.step moment shared).2.IsRun order := by
  rcases isRun with ⟨glances, ⟨remote, same⟩, any⟩
  have further : ∀ remote, call = order.run remote glances →
      (∀ request, call.phase ≠ .asking request) ∨ shared.remotes.headD noRemote = remote →
      (call.step moment shared).2 =
        order.run remote (glances ++ [⟨moment, shared.cancelled⟩]) := by
    intro remote same head
    have stepped := step_remotes moment shared.cancelled shared.remotes [remote] call head
    calc
      (call.step moment shared).2 = call.next remote ⟨moment, shared.cancelled⟩ := stepped
      _ = (order.run remote glances).next remote ⟨moment, shared.cancelled⟩ := by rw [← same]
      _ = order.run remote (glances ++ [⟨moment, shared.cancelled⟩]) :=
          (order.run_concat remote glances _).symm
  refine ⟨glances ++ [⟨moment, shared.cancelled⟩], ?_, fun unasked remote => ?_⟩
  -- The step that asks fixes the remote side; until then it may be any, and after it stays.
  · by_cases asks : ∃ request, call.phase = .asking request
    · rcases asks with ⟨request, phase⟩
      have unasked : 3 ≤ call.phase.ahead := by
        rw [phase]
        exact Nat.le_refl 3
      exact ⟨shared.remotes.headD noRemote, further _ (any unasked _) (Or.inr rfl)⟩
    · exact ⟨remote, further remote same (Or.inl (not_exists.mp asks))⟩
  · have near := ahead_step moment shared call
    have far : 4 ≤ call.phase.ahead := by
      split at near <;> omega
    have settled : ∀ request, call.phase ≠ .asking request := by
      intro request phase
      rw [phase, Phase.ahead] at far
      omega
    exact further remote (any (Nat.le_of_succ_le far) remote) (Or.inl settled)

theorem poll_isRun {order : Order} {call : Call} (isRun : call.IsRun order) (moment : Moment)
    (shared : Shared) : (call.poll moment shared).2.IsRun order := by
  have goingOn : ∀ state : Shared × Call, state.2.IsRun order →
      (goOn moment state).2.IsRun order := by
    intro state isRun
    unfold goOn
    split
    · exact isRun
    · exact step_isRun isRun moment state.1
  unfold poll
  exact goingOn _ (goingOn _ (goingOn _ (goingOn _ (step_isRun isRun moment shared))))

end Call

namespace Schedule

/-- Every call of the schedule is a run of one of the orders. -/
def AllRuns (orders : List Order) (calls : List TimedCall) : Prop :=
  ∀ timed ∈ calls, ∃ order ∈ orders, timed.call.IsRun order

theorem pollAll_allRuns {orders : List Order} (moment : Moment) (shared : Shared)
    {calls : List TimedCall} (runs : AllRuns orders calls) :
    AllRuns orders (pollAll moment shared calls).2 := by
  induction calls generalizing shared with
  | nil => exact runs
  | cons timed rest ih =>
      intro other member
      rcases List.mem_cons.mp member with same | later
      · rcases runs timed List.mem_cons_self with ⟨order, ordered, isRun⟩
        rw [same]
        exact ⟨order, ordered, Call.poll_isRun isRun moment shared⟩
      · exact ih _ (fun timed member => runs timed (List.mem_cons_of_mem _ member)) other later

theorem run_allRuns {orders : List Order} (fuel : Nat) {schedule : Schedule}
    (runs : AllRuns orders schedule.calls) : AllRuns orders (schedule.run fuel).calls := by
  induction fuel generalizing schedule with
  | zero => exact runs
  | succ fuel ih =>
      have polled := pollAll_allRuns ⟨schedule.now, choices⟩ schedule.shared runs
      rw [Schedule.run]
      dsimp only
      split
      · exact polled
      · split
        · exact ih polled
        · split
          · exact polled
          · exact ih polled

/-- What calls at the same time have come to is, for each of them, a run of its order. -/
theorem complete_isRun (now : Instant) (shared : Shared) (cancelAt : Option Instant)
    (orders : List Order) :
    ∀ timed ∈ (complete now shared cancelAt orders).calls,
      ∃ order ∈ orders, ∃ remote glances, timed.call = order.run remote glances := by
  intro timed member
  have runs : AllRuns orders (complete now shared cancelAt orders).calls := by
    refine run_allRuns _ fun timed member => ?_
    rcases List.mem_map.mp member with ⟨order, ordered, same⟩
    rw [← same]
    exact ⟨order, ordered, Call.isRun_ofOrder order⟩
  rcases runs timed member with ⟨order, ordered, glances, ⟨remote, same⟩, _⟩
  exact ⟨order, ordered, remote, glances, same⟩

end Schedule
end PodCommand
