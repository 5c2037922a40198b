import PodCommand.Proofs.Session.Cancellation

namespace PodCommand

/-!
Runs that nothing interrupts.

Where nobody gives up and the deadline does not expire, a proper order that is handed its session at
once has one way to end, which is with its streams.
-/

/-- Nothing interrupts a run that begins with a glance: nobody gives up, and the deadline does not
expire. -/
def Order.Calm (order : Order) (first : Glance) (rest : List Glance) : Prop :=
  ∀ glance ∈ first :: rest, glance.cancelled = false ∧ ¬ order.Expired first glance

namespace Call

/-- The streams of a call have come to their end, or something has gone wrong in them. -/
def StreamsOver (call : Call) : Prop :=
  (∃ output, call.ending? = some (.returned (.ok output))) ∨
    ∃ failure, call.ending? = some (.returned (.error (.stream failure)))

theorem StreamsOver.ending {call : Call} (closed : call.StreamsOver) :
    ∃ result, call.ending? = some (.returned result) := by
  rcases closed with ⟨output, ended⟩ | ⟨failure, ended⟩
  · exact ⟨_, ended⟩
  · exact ⟨_, ended⟩

variable {order : Order} {remote : Remote} {first : Glance} {rest : List Glance}

/-- A run that is cancelled has been interrupted at the glance that ended it, by the caller or by
the deadline that the first glance has fixed. -/
theorem exists_interruption (inTime : order.InTime first.moment.now) {reason : CancelReason}
    {state : SessionState}
    (ended : (order.run remote (first :: rest)).ending? =
      some (.returned (.error (.cancelled reason state)))) :
    ∃ before glance later, rest = before ++ glance :: later ∧
      (order.run remote (first :: before)).ending? = none ∧
      state = (order.run remote (first :: before)).state ∧
      (reason = .caller ∧ glance.cancelled = true ∨
        ∃ deadline, order.deadlineFrom first.moment.now = some deadline ∧
          deadline.instant ≤ glance.moment.now ∧ reason = .deadline deadline.timeout) := by
  rcases Order.exists_last_step ended with ⟨before, glance, later, split, going, last⟩
  rw [← last] at ended
  rcases (cancelled_iff going remote glance reason state).mp ended with ⟨interrupted, same⟩
  cases before with
  -- The first step is never interrupted.
  | nil => cases interrupted
  | cons start before =>
      rw [List.cons_append, List.cons.injEq] at split
      rcases split with ⟨rfl, split⟩
      have deadline := (run_leads inTime remote before).deadline
      refine ⟨before, glance, later, split, going, same, ?_⟩
      refine (reason_of_interruptedBy interrupted).imp_right fun expired => ?_
      rcases expired with ⟨limit, fixed, passed, why⟩
      exact ⟨limit, deadline.symm.trans fixed, passed, why⟩

/-- A run that nothing interrupts is not cancelled. -/
theorem not_cancelled_of_calm (inTime : order.InTime first.moment.now)
    (calm : order.Calm first rest) {reason : CancelReason} {state : SessionState} :
    (order.run remote (first :: rest)).ending? ≠
      some (.returned (.error (.cancelled reason state))) := by
  intro ended
  rcases exists_interruption inTime ended with ⟨before, glance, later, split, _, _, cause⟩
  have quiet := calm glance (List.mem_cons_of_mem _
    (by rw [split]; exact List.mem_append_right _ List.mem_cons_self))
  rcases cause with ⟨_, cancelled⟩ | ⟨deadline, fixed, passed, _⟩
  · rw [quiet.1] at cancelled
    cases cancelled
  · exact quiet.2 ⟨deadline, fixed, passed⟩

/-- A proper order whose session is handed over at once ends with its streams, if nothing interrupts
it. -/
theorem streamsOver_of_calm {request : Request} (valid : order.request = .ok request)
    (prompt : remote.upgrade = []) (inTime : order.InTime first.moment.now)
    (calm : order.Calm first rest) {ending : Ending ExecError Output}
    (ended : (order.run remote (first :: rest)).ending? = some ending) :
    (order.run remote (first :: rest)).StreamsOver := by
  have history := (run_hasHistory order remote (first :: rest)).2
  have leads := run_leads inTime remote rest
  have uncancelled : ∀ reason state, (order.run remote (first :: rest)).ending? ≠
      some (.returned (.error (.cancelled reason state))) :=
    fun _ _ => not_cancelled_of_calm inTime calm
  rw [phase_of_ending? ended] at history
  rw [ended] at uncancelled
  generalize (order.run remote (first :: rest)).state = state at history
  generalize (order.run remote (first :: rest)).events = events at history
  cases history with
  | overflowed => exact absurd (phase_of_ending? ended) leads.inTime
  | rejected refused => cases valid.symm.trans refused
  | underWay valid fits => cases fits
  | cancelled valid fits wish => exact absurd rfl (uncancelled _ _)
  | refused valid raised =>
      rw [prompt] at raised
      cases raised
  | completed valid agreed kept => exact .inl ⟨_, ended⟩
  | broken valid agreed kept => exact .inr ⟨_, ended⟩

end Call
end PodCommand
