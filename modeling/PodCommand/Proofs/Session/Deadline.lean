import PodCommand.Proofs.Session.Cancellation
import PodCommand.Proofs.Session.Lifecycle

namespace PodCommand

/-!
How long a call may take.

The first glance of a run adds the time that the order allows to the present, before it looks at
anything else in the order.  If the clock cannot count so far, the run is over there and then, and
nothing has been told of it.  Otherwise the deadline stands, a run that is over has returned, and
two glances in a row that find the deadline behind them are enough for it to be over.
-/

/-- The end of the time that an order allows, when it is begun at an instant, is beyond the
clock. -/
def Order.Overlong (order : Order) (now : Instant) : Prop :=
  ∃ timeout, order.timeout = some timeout ∧
    Instant.secondsLimit * Duration.nanosPerSecond ≤ now + timeout.nanos

theorem Instant.add?_eq_none_iff {start : Instant} {span : Duration} :
    Instant.add? start span = none ↔
      Instant.secondsLimit * Duration.nanosPerSecond ≤ start + span.nanos := by
  have second : 0 < Duration.nanosPerSecond := by decide
  rw [Instant.add?, ← Nat.le_div_iff_mul_le second]
  split
  · rename_i countable
    simp [Nat.not_le_of_lt countable]
  · rename_i beyond
    simp [Nat.le_of_not_lt beyond]

namespace Order

variable {order : Order} {now : Instant}

theorem inTime_iff : order.InTime now ↔ ¬ order.Overlong now := by
  constructor
  · rintro inTime ⟨timeout, timed, beyond⟩
    have counted := inTime timeout timed
    rw [Instant.add?_eq_none_iff.mpr beyond] at counted
    cases counted
  · intro countable timeout timed
    rw [Option.isSome_iff_ne_none]
    exact fun none => countable ⟨timeout, timed, Instant.add?_eq_none_iff.mp none⟩

/-- A deadline that has been fixed is one that the clock can count to. -/
theorem inTime_of_deadlineFrom {deadline : Deadline}
    (fixed : order.deadlineFrom now = some deadline) : order.InTime now := by
  intro timeout timed
  rw [deadlineFrom, timed, Option.bind_some] at fixed
  rcases Option.map_eq_some_iff.mp fixed with ⟨instant, counted, _⟩
  rw [counted]
  rfl

end Order

namespace Call

variable {order : Order} {remote : Remote} {first : Glance}

/-- A run beyond the clock is over before anything has happened in it. -/
theorem run_of_overlong (overlong : order.Overlong first.moment.now) (remote : Remote)
    (rest : List Glance) :
    order.run remote (first :: rest) = ⟨order, none, .idle, .ended .clockOverflow, []⟩ := by
  rcases overlong with ⟨timeout, timed, beyond⟩
  have begun : start first.moment (ofOrder order) =
      ⟨order, none, .idle, .ended .clockOverflow, []⟩ := by
    unfold start ofOrder
    simp only [timed, Instant.add?_eq_none_iff.mpr beyond]
    rfl
  rw [run_cons, begun]
  exact after_of_ended rfl remote rest

/-- A run within the clock that is over has returned. -/
theorem returned_of_inTime (inTime : order.InTime first.moment.now) {rest : List Glance}
    {ending : Ending ExecError Output}
    (ended : (order.run remote (first :: rest)).ending? = some ending) :
    ∃ result, ending = .returned result := by
  cases ending with
  | returned result => exact ⟨result, rfl⟩
  | clockOverflow => exact absurd (phase_of_ending? ended) (run_leads inTime remote rest).inTime
  | endless =>
      have history := (run_hasHistory order remote (first :: rest)).2
      rw [phase_of_ending? ended] at history
      exact absurd history History.not_endless

/-- The clock fails in the runs that begin beyond it, and in no others. -/
theorem overflowed_iff (order : Order) (remote : Remote) (first : Glance) (rest : List Glance) :
    (order.run remote (first :: rest)).ending? = some .clockOverflow ↔
      order.Overlong first.moment.now := by
  constructor
  · intro ended
    refine Classical.byContradiction fun countable => ?_
    rcases returned_of_inTime (Order.inTime_iff.mpr countable) ended with ⟨result, same⟩
    cases same
  · intro overlong
    rw [run_of_overlong overlong]
    rfl

/-- A call that has begun and goes on without racing the server is over or races after a step. -/
theorem next_of_not_races {call : Call} (begun : call.phase ≠ .fresh)
    (still : call.races = false) (remote : Remote) (glance : Glance) :
    (∃ ending, (call.next remote glance).ending? = some ending) ∨
      (call.next remote glance).races = true := by
  unfold next step
  cases phase : call.phase with
  | fresh => exact absurd phase begun
  | built request =>
      dsimp only
      split
      · exact .inl ⟨_, ending?_cancelEarly call .caller⟩
      · exact .inr rfl
  | opened remote =>
      dsimp only
      split
      · exact .inl ⟨_, ending?_cancelEarly call .caller⟩
      · exact .inr rfl
  | ended ending => exact .inl ⟨ending, by rw [ending?, phase]⟩
  | asking | upgrading | entering | streaming => simp [races, phase] at still

/-- A deadline ends the call that races the server when it has passed. -/
theorem ended_of_races {before : List Glance} {glance : Glance} (later : List Glance)
    (racing : (order.run remote (first :: before)).races = true)
    (expired : order.Expired first glance) :
    ∃ ending,
      (order.run remote (first :: (before ++ glance :: later))).ending? = some ending := by
  rcases expired with ⟨deadline, fixed, passed⟩
  have leads := run_leads (Order.inTime_of_deadlineFrom fixed) remote before
  rcases Option.isSome_iff_exists.mp
    (interruption_of_expired (leads.deadline.trans fixed) passed ⟨glance.cancelled, []⟩) with
    ⟨reason, given⟩
  exact ⟨_, ending?_of_races before glance later racing given⟩

/-- Whatever a call was doing, it is over after two glances beyond its deadline. -/
theorem ended_of_expired (remote : Remote) (before later : List Glance) {second third : Glance}
    (near : order.Expired first second) (far : order.Expired first third) :
    ∃ ending, (order.run remote (first :: (before ++ second :: third :: later))).ending? =
      some ending := by
  rcases near with ⟨deadline, fixed, passed⟩
  have begun := (run_leads (Order.inTime_of_deadlineFrom fixed) remote before).begun
  cases racing : (order.run remote (first :: before)).races with
  | true => exact ended_of_races (third :: later) racing ⟨deadline, fixed, passed⟩
  | false =>
      have step := order.run_concat remote (first :: before) second
      rcases next_of_not_races begun racing remote second with ⟨ending, ended⟩ | racing
      · have whole := Order.run_of_last ended (third :: later)
        rw [List.cons_append] at whole
        exact ⟨ending, by rw [whole, ended]⟩
      · rw [← step, List.cons_append] at racing
        have ended := ended_of_races later racing far
        rwa [List.append_assoc] at ended

end Call
end PodCommand
