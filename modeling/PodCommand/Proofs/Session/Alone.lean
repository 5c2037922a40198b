import PodCommand.Proofs.Session.Schedule
import PodCommand.Transport

namespace PodCommand

/-!
A call that has the server to itself.

On a schedule of one call the remote side that the server has ready first is the one that the call
is handed, and the first glance is at the instant at which the schedule begins.  So such a schedule
is one run of the order, against a remote side and from an instant that are both known; and that run
is what a call over a network comes to.
-/

namespace Call

/-- A call is what an order has come to in a run against a remote side and from an instant; until
the server has been asked, the remote side is what it will hand out. -/
structure Alone (order : Order) (remote : Remote) (start : Instant) (shared : Shared)
    (call : Call) : Prop where
  isRun : ∃ glances, call = order.run remote glances ∧
    ∀ first ∈ glances.head?, first.moment.now = start
  unasked : 3 ≤ call.phase.ahead → shared.remotes.headD noRemote = remote

section

variable {order : Order} {remote : Remote} {start : Instant} {shared : Shared} {call : Call}

/-- Before a call is about to ask the server, its steps leave alone what is shared. -/
theorem step_shared_of_ahead (far : 4 ≤ call.phase.ahead) (moment : Moment) (shared : Shared) :
    (call.step moment shared).1 = shared := by
  unfold step
  cases phase : call.phase with
  | fresh | built => rfl
  | _ => simp [phase, Phase.ahead] at far

theorem ahead_lt_of_step (moment : Moment) (shared : Shared) (call : Call) :
    (call.step moment shared).2.phase.ahead < 5 := by
  have five : call.phase.ahead ≤ 5 := by
    cases call.phase <;> simp [Phase.ahead]
  have near := ahead_step moment shared call
  split at near <;> omega

/-- The step lemma; only the first step has to be taken at the start. -/
theorem Alone.step (alone : call.Alone order remote start shared) (moment : Moment)
    (timely : call.phase.ahead = 5 → moment.now = start) :
    (call.step moment shared).2.Alone order remote start (call.step moment shared).1 where
  isRun := by
    rcases alone.isRun with ⟨glances, same, first⟩
    refine ⟨glances ++ [⟨moment, shared.cancelled⟩], ?_, ?_⟩
    · have head : (∀ request, call.phase ≠ .asking request) ∨
          shared.remotes.headD noRemote = [remote].headD noRemote := by
        by_cases asks : ∃ request, call.phase = .asking request
        · rcases asks with ⟨request, phase⟩
          have unasked := alone.unasked (by rw [phase]; exact Nat.le_refl 3)
          exact Or.inr unasked
        · exact Or.inl (not_exists.mp asks)
      calc
        (call.step moment shared).2 = call.next remote ⟨moment, shared.cancelled⟩ :=
          step_remotes moment shared.cancelled shared.remotes [remote] call head
        _ = (order.run remote glances).next remote ⟨moment, shared.cancelled⟩ := by rw [← same]
        _ = order.run remote (glances ++ [⟨moment, shared.cancelled⟩]) :=
          (order.run_concat remote glances _).symm
    · cases glances with
      | nil =>
          intro glance head
          cases head
          exact timely (by rw [same]; rfl)
      | cons glance rest => exact first
  unasked := by
    intro far
    have near := ahead_step moment shared call
    have further : 4 ≤ call.phase.ahead := by
      split at near <;> omega
    rw [step_shared_of_ahead further]
    exact alone.unasked (Nat.le_of_succ_le further)

theorem Alone.poll (alone : call.Alone order remote start shared) (moment : Moment)
    (timely : call.phase.ahead = 5 → moment.now = start) :
    (call.poll moment shared).2.Alone order remote start (call.poll moment shared).1 := by
  have goingOn : ∀ state : Shared × Call,
      state.2.Alone order remote start state.1 ∧ state.2.phase.ahead < 5 →
      (goOn moment state).2.Alone order remote start (goOn moment state).1 ∧
        (goOn moment state).2.phase.ahead < 5 := by
    intro state ⟨alone, begun⟩
    unfold goOn
    split
    · exact ⟨alone, begun⟩
    · exact ⟨alone.step moment fun fresh => absurd fresh (Nat.ne_of_lt begun), ahead_lt_of_step ..⟩
  have first : (call.step moment shared).2.Alone order remote start (call.step moment shared).1 ∧
      (call.step moment shared).2.phase.ahead < 5 := ⟨alone.step moment timely, ahead_lt_of_step ..⟩
  unfold Call.poll
  exact (goingOn _ (goingOn _ (goingOn _ (goingOn _ first)))).1

end

end Call

namespace Schedule

variable {order : Order} {remote : Remote} {start : Instant}

/-- By induction on the rounds: from the second on the call is not fresh any more, so the clock may
show what it will. -/
theorem run_alone (fuel : Nat) {now : Instant} {shared : Shared} {cancelAt : Option Instant}
    {call : Call} {endedAt : Option Instant} (alone : call.Alone order remote start shared)
    (timely : call.phase.ahead = 5 → now = start) (polls : 0 < fuel ∨ call.phase.ahead = 0) :
    ∃ call' shared' endedAt',
      (run fuel ⟨now, shared, cancelAt, [⟨call, endedAt⟩]⟩).calls = [⟨call', endedAt'⟩] ∧
        call'.Alone order remote start shared' ∧ call'.phase.ahead = 0 := by
  induction fuel generalizing now shared call endedAt with
  | zero =>
      exact ⟨call, shared, endedAt, rfl, alone, polls.resolve_left (Nat.lt_irrefl 0)⟩
  | succ fuel ih =>
      have polled := alone.poll ⟨now, choices⟩ timely
      have rests := (Call.rests_iff_ahead _).mp (Call.poll_rests ⟨now, choices⟩ shared call)
      simp only [run, pollAll, pollTimed]
      generalize call.poll ⟨now, choices⟩ shared = state at polled rests
      rcases state with ⟨shared', call'⟩
      dsimp only at polled rests ⊢
      generalize (endedAt <|> if call'.ending?.isSome then some now else none) = stamp
      have begun : call'.phase.ahead = 5 → ∀ later : Instant, later = start :=
        fun fresh => absurd (rests.symm.trans fresh) (by decide)
      split
      · exact ⟨call', shared', _, rfl, polled, rests⟩
      · split
        · exact ih polled (fun fresh => begun fresh now) (.inr rests)
        · split
          · exact ⟨call', shared', _, rfl, polled, rests⟩
          · exact ih ⟨polled.isRun, polled.unasked⟩ (fun fresh => begun fresh _) (.inr rests)

/-- A schedule of one call comes to a run of its order, against the remote side that the server has
ready first, and the run is first looked at when the schedule begins. -/
theorem complete_alone (now : Instant) (shared : Shared) (cancelAt : Option Instant)
    (order : Order) :
    ∃ first rest endedAt, first.moment.now = now ∧
      (complete now shared cancelAt [order]).calls =
        [⟨order.run (shared.remotes.headD Call.noRemote) (first :: rest), endedAt⟩] := by
  have fresh : (Call.ofOrder order).Alone order (shared.remotes.headD Call.noRemote) now shared :=
    ⟨⟨[], rfl, fun _ none => by cases none⟩, fun _ => rfl⟩
  have enough : 0 < looks ⟨now, shared, cancelAt, [⟨.ofOrder order, none⟩]⟩ :=
    Nat.mul_pos (Nat.succ_pos 3) (Nat.succ_pos _)
  rcases run_alone _ fresh (fun _ => rfl) (.inl enough) with
    ⟨call, shared, endedAt, calls, alone, rests⟩
  rcases alone.isRun with ⟨glances, rfl, begun⟩
  cases glances with
  -- A run without a glance is fresh, and does not rest.
  | nil => cases rests
  | cons first rest => exact ⟨first, rest, endedAt, begun first rfl, calls⟩

end Schedule

namespace Transport

/-- A call over a network is a run that begins with the clock, against the session that the call can
be handed: it comes to what the run comes to, and the connections that it makes are the run's. -/
theorem callTo_alone (sink : Sink) (order : Order) (client : Client) (network : Network) :
    ∃ first rest, first.moment.now = 0 ∧
      ∀ run, run = order.run ((sessions sink client order network.answers).headD Call.noRemote)
          (first :: rest) →
        ((callTo sink order client).run network).1 = run.ending?.getD .endless ∧
        ((callTo sink order client).run network).2.contacts =
          (contact? client network.answers run).toList ++ network.contacts := by
  rcases Schedule.complete_alone 0
    ⟨network.cancelled, sessions sink client order network.answers⟩ none order with
    ⟨first, rest, endedAt, begun, calls⟩
  refine ⟨first, rest, begun, ?_⟩
  rintro run rfl
  have result : ((callTo sink order client).run network).1 =
      endingOf (Schedule.complete 0
        ⟨network.cancelled, sessions sink client order network.answers⟩ none [order]) := rfl
  have contacts : ((callTo sink order client).run network).2.contacts =
      (Schedule.complete 0 ⟨network.cancelled, sessions sink client order network.answers⟩ none
        [order]).calls.filterMap (fun timed => contact? client network.answers timed.call) ++
        network.contacts := rfl
  refine ⟨?_, ?_⟩
  · rw [result, endingOf, calls]
    rfl
  · rw [contacts, calls, List.filterMap_cons, List.filterMap_nil]
    cases contact? client network.answers _ <;> rfl

end Transport
end PodCommand
