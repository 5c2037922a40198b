import PodCommand.Proofs.Session.Run

namespace PodCommand

/-!
The two that can interrupt a call: the caller, who is heeded at any glance, and the deadline, which
the first glance of a run has fixed.
-/

/-- The time that an order allows, counted from its first glance, is over at another. -/
def Order.Expired (order : Order) (first glance : Glance) : Prop :=
  ∃ deadline, order.deadlineFrom first.moment.now = some deadline ∧
    deadline.instant ≤ glance.moment.now

theorem Order.timeout_of_deadlineFrom {order : Order} {now : Instant} {deadline : Deadline}
    (fixed : order.deadlineFrom now = some deadline) : order.timeout = some deadline.timeout := by
  rcases Option.bind_eq_some_iff.mp fixed with ⟨timeout, timed, counted⟩
  rcases Option.map_eq_some_iff.mp counted with ⟨instant, _, same⟩
  rw [timed, ← same]

theorem Order.instant_of_deadlineFrom {order : Order} {now : Instant} {deadline : Deadline}
    (fixed : order.deadlineFrom now = some deadline) :
    deadline.instant = now + deadline.timeout.nanos := by
  rcases Option.bind_eq_some_iff.mp fixed with ⟨timeout, _, counted⟩
  rcases Option.map_eq_some_iff.mp counted with ⟨instant, sum, rfl⟩
  unfold Instant.add? at sum
  split at sum
  · exact (Option.some.inj sum).symm
  · cases sum

namespace Call

/-- Whoever interrupts a call has a reason to. -/
theorem reason_of_interruption {moment : Moment} {shared : Shared} {call : Call}
    {reason : CancelReason} (interrupted : call.interruption? moment shared = some reason) :
    (reason = .caller ∧ shared.cancelled = true) ∨
      ∃ deadline, call.deadline = some deadline ∧ deadline.instant ≤ moment.now ∧
        reason = .deadline deadline.timeout := by
  have caller : (if shared.cancelled then some CancelReason.caller else none) = some reason →
      reason = .caller ∧ shared.cancelled = true := by
    intro given
    split at given
    · rename_i cancelled
      exact ⟨(Option.some.inj given).symm, cancelled⟩
    · cases given
  have timer : ((call.deadline.filter (·.instant ≤ moment.now)).map fun deadline =>
      CancelReason.deadline deadline.timeout) = some reason →
      ∃ deadline, call.deadline = some deadline ∧ deadline.instant ≤ moment.now ∧
        reason = .deadline deadline.timeout := by
    intro given
    rcases Option.map_eq_some_iff.mp given with ⟨deadline, expired, same⟩
    rcases Option.filter_eq_some_iff.mp expired with ⟨fixed, passed⟩
    exact ⟨deadline, fixed, of_decide_eq_true passed, same.symm⟩
  unfold interruption? at interrupted
  dsimp only at interrupted
  split at interrupted
  · rw [Option.orElse_eq_orElse, Option.orElse_eq_or, Option.or_eq_some_iff] at interrupted
    rcases interrupted with first | ⟨_, second⟩
    · exact Or.inr (timer first)
    · exact Or.inl (caller second)
  · rw [Option.orElse_eq_orElse, Option.orElse_eq_or, Option.or_eq_some_iff] at interrupted
    rcases interrupted with first | ⟨_, second⟩
    · exact Or.inl (caller first)
    · exact Or.inr (timer second)

/-- Where neither the caller nor the deadline has a reason, nothing interrupts a call. -/
theorem interruption_eq_none {call : Call} {moment : Moment} {shared : Shared}
    (wanted : shared.cancelled = false)
    (early : ∀ deadline, call.deadline = some deadline → moment.now < deadline.instant) :
    call.interruption? moment shared = none := by
  cases interrupted : call.interruption? moment shared with
  | none => rfl
  | some reason =>
      rcases reason_of_interruption interrupted with ⟨_, cancelled⟩ | ⟨deadline, fixed, passed, _⟩
      · rw [wanted] at cancelled
        cases cancelled
      · exact absurd passed (Nat.not_le_of_lt (early deadline fixed))

/-- The caller interrupts a call, whatever the deadline. -/
theorem interruption_of_cancelled {shared : Shared} (cancelled : shared.cancelled = true)
    (moment : Moment) (call : Call) :
    (call.interruption? moment shared).isSome = true := by
  unfold interruption?
  rw [cancelled]
  dsimp only
  split <;> simp

/-- The deadline interrupts a call, whatever the caller. -/
theorem interruption_of_expired {call : Call} {deadline : Deadline} {moment : Moment}
    (fixed : call.deadline = some deadline) (expired : deadline.instant ≤ moment.now)
    (shared : Shared) : (call.interruption? moment shared).isSome = true := by
  have passed : call.deadline.filter (·.instant ≤ moment.now) = some deadline := by
    rw [fixed, Option.filter_some_pos (by exact decide_eq_true expired)]
  unfold interruption?
  rw [passed]
  dsimp only
  split <;> simp

/-- Of two that interrupt a call, the one that is looked at first does. -/
theorem interruption_of_both {call : Call} {deadline : Deadline} {moment : Moment}
    {shared : Shared} (cancelled : shared.cancelled = true)
    (fixed : call.deadline = some deadline) (expired : deadline.instant ≤ moment.now) :
    call.interruption? moment shared =
      some (if moment.choices.timerFirst then .deadline deadline.timeout else .caller) := by
  have passed : call.deadline.filter (·.instant ≤ moment.now) = some deadline := by
    rw [fixed, Option.filter_some_pos (by exact decide_eq_true expired)]
  unfold interruption?
  rw [cancelled, passed]
  dsimp only
  split <;> rfl

end Call
end PodCommand
