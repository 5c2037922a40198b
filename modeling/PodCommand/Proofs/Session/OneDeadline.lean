import PodCommand.Proofs.Session.Calm
import PodCommand.Proofs.Session.Deadline
import PodCommand.Proofs.Session.Release

namespace PodCommand

/-!
One deadline for the whole of a call.

A call races the server twice, for the session and then for its streams.  Both races are lost at the
instant that the first glance has fixed, however the time until then has been spent, and a run that
is over before that instant has not been cancelled by it.
-/

/-- A run that begins with a glance goes on beyond its deadline, and the caller does not give up. -/
structure Order.Overruns (order : Order) (first : Glance) (due : List Glance)
    (deadline : Deadline) : Prop where
  fixed : order.deadlineFrom first.moment.now = some deadline
  late : ∀ glance ∈ due, deadline.instant ≤ glance.moment.now
  patient : ∀ glance ∈ due, glance.cancelled = false

namespace Call

variable {order : Order} {remote : Remote} {first : Glance} {before due : List Glance}
  {deadline : Deadline}

/-- Where the caller does not give up, the deadline alone interrupts a call. -/
theorem interruption_of_patient {call : Call} (fixed : call.deadline = some deadline)
    (moment : Moment) (remotes : List Remote) :
    call.interruption? moment ⟨false, remotes⟩ =
      if deadline.instant ≤ moment.now then some (.deadline deadline.timeout) else none := by
  unfold interruption?
  rw [fixed]
  by_cases passed : deadline.instant ≤ moment.now <;> cases moment.choices.timerFirst <;>
    simp [Option.filter, passed]

/-- A call that races for the session is in the state that it had when it was built; once the
session is there it races in the state of streaming. -/
theorem state_of_races {glances : List Glance}
    (racing : (order.run remote glances).races = true) :
    (order.run remote glances).state = .requestBuilt ∧
        .opened ∉ (order.run remote glances).events ∨
      (order.run remote glances).state = .streaming ∧
        .opened ∈ (order.run remote glances).events := by
  have history := (run_hasHistory order remote glances).2
  unfold races at racing
  generalize (order.run remote glances).state = state at history ⊢
  generalize (order.run remote glances).events = events at history ⊢
  cases phase : (order.run remote glances).phase with
  | asking | upgrading =>
      rw [phase] at history
      cases history with
      | underWay valid fits =>
          cases fits
          exact .inl ⟨rfl, fun opened => by cases (Stage.opened_mem_events_iff _ _).mp opened⟩
  | entering | streaming =>
      rw [phase] at history
      cases history with
      | underWay valid fits =>
          cases fits
          exact .inr ⟨rfl, (Stage.opened_mem_events_iff _ _).mpr rfl⟩
  | _ =>
      rw [phase] at racing
      cases racing

/-- A call that goes on without racing the server races it after a step, if the caller does not give
up. -/
theorem races_next {call : Call} {glance : Glance} (begun : call.phase ≠ .fresh)
    (going : call.ending? = none) (still : call.races = false) (patient : glance.cancelled = false)
    (remote : Remote) :
    (call.next remote glance).races = true ∧
      (.opened ∈ (call.next remote glance).events ↔ .opened ∈ call.events) := by
  unfold next step
  cases phase : call.phase with
  | fresh => exact absurd phase begun
  | built request => simp [patient, enter, races]
  | opened current => simp [patient, enter, races, advance]
  | ended ending => simp [ending?, phase] at going
  | asking | upgrading | entering | streaming => simp [races, phase] at still

/-- How many glances it takes until a call is in a race and the race is decided. -/
def glancesToRace (call : Call) : Nat := if call.races then 1 else 2

/-- A race that is not over by the deadline ends with it. -/
theorem ending?_of_overrun (racing : (order.run remote (first :: before)).races = true)
    (overruns : order.Overruns first due deadline) (given : due ≠ []) :
    (order.run remote (first :: (before ++ due))).ending? =
      some (.returned (.error (.cancelled (.deadline deadline.timeout)
        (order.run remote (first :: before)).state))) := by
  cases due with
  | nil => exact absurd rfl given
  | cons glance later =>
      have leads := run_leads (Order.inTime_of_deadlineFrom overruns.fixed) remote before
      apply ending?_of_races before glance later racing
      rw [overruns.patient glance List.mem_cons_self,
        interruption_of_patient (leads.deadline.trans overruns.fixed),
        if_pos (overruns.late glance List.mem_cons_self)]

/-- Whatever a call was doing, beyond its deadline it is cancelled, in the state of the race that it
was in or would have come to. -/
theorem cancelled_of_overrun (overruns : order.Overruns first due deadline)
    (going : (order.run remote (first :: before)).ending? = none)
    (enough : (order.run remote (first :: before)).glancesToRace ≤ due.length) :
    ∃ state, (order.run remote (first :: (before ++ due))).ending? =
        some (.returned (.error (.cancelled (.deadline deadline.timeout) state))) ∧
      (state = .requestBuilt ∧ .opened ∉ (order.run remote (first :: before)).events ∨
        state = .streaming ∧ .opened ∈ (order.run remote (first :: before)).events) := by
  unfold glancesToRace at enough
  cases racing : (order.run remote (first :: before)).races with
  | true =>
      rw [racing] at enough
      have given : due ≠ [] := List.ne_nil_of_length_pos enough
      exact ⟨_, ending?_of_overrun racing overruns given, state_of_races racing⟩
  | false =>
      rw [racing] at enough
      cases due with
      | nil => cases enough
      | cons second later =>
          have begun := (run_leads (Order.inTime_of_deadlineFrom overruns.fixed) remote
            before).begun
          have entered := races_next begun going racing
            (overruns.patient second List.mem_cons_self) remote
          rw [← Order.run_concat, List.cons_append] at entered
          have rest : order.Overruns first later deadline :=
            ⟨overruns.fixed, fun glance member => overruns.late glance (.tail _ member),
              fun glance member => overruns.patient glance (.tail _ member)⟩
          have given : later ≠ [] := List.ne_nil_of_length_pos (Nat.le_of_succ_le_succ enough)
          have ended := ending?_of_overrun entered.1 rest given
          rw [List.append_assoc, List.singleton_append] at ended
          have state := state_of_races entered.1
          rw [entered.2] at state
          exact ⟨_, ended, state⟩

end Call

/-- What one deadline does in a run of an order. -/
structure Order.OneDeadline (order : Order) (remote : Remote) (glances : List Glance) :
    Prop where
  /-- Whatever the call is waiting for, the instant that counts is the one at which the time is over
  that the order allows from the first glance on. -/
  fixed : ∀ first before later deadline, glances = first :: (before ++ later) →
    order.deadlineFrom first.moment.now = some deadline →
    order.timeout = some deadline.timeout ∧
      deadline.instant = first.moment.now + deadline.timeout.nanos ∧
      ∀ moment, (order.run remote (first :: before)).interruption? moment ⟨false, []⟩ =
        if deadline.instant ≤ moment.now then some (.deadline deadline.timeout) else none
  /-- A call without a session is cancelled at the deadline before it has one. -/
  upgrading : ∀ first before due deadline, glances = first :: (before ++ due) →
    order.Overruns first due deadline →
    (order.run remote (first :: before)).ending? = none →
    (order.run remote (first :: before)).glancesToRace ≤ due.length →
    .opened ∉ (order.run remote (first :: before)).events →
    (order.run remote glances).ending? =
      some (.returned (.error (.cancelled (.deadline deadline.timeout) .requestBuilt)))
  /-- A call with a session is cancelled at the same deadline, whenever the session was opened. -/
  streaming : ∀ first before due deadline, glances = first :: (before ++ due) →
    order.Overruns first due deadline →
    (order.run remote (first :: before)).ending? = none →
    (order.run remote (first :: before)).glancesToRace ≤ due.length →
    .opened ∈ (order.run remote (first :: before)).events →
    (order.run remote glances).ending? =
      some (.returned (.error (.cancelled (.deadline deadline.timeout) .streaming)))
  /-- A run that is over before the deadline is over for another reason, and stays so. -/
  inTime : ∀ first before later deadline ending, glances = first :: (before ++ later) →
    order.deadlineFrom first.moment.now = some deadline →
    (∀ glance ∈ before, glance.moment.now < deadline.instant) →
    (order.run remote (first :: before)).ending? = some ending →
    (order.run remote glances).ending? = some ending ∧
      ∀ timeout state, ending ≠ .returned (.error (.cancelled (.deadline timeout) state))
  /-- Without a limit there is no deadline. -/
  unlimited : order.timeout = none → ∀ timeout state, (order.run remote glances).ending? ≠
    some (.returned (.error (.cancelled (.deadline timeout) state)))

/-- In every run of every order there is one deadline. -/
theorem one_deadline (order : Order) (remote : Remote) (glances : List Glance) :
    order.OneDeadline remote glances where
  fixed := by
    intro first before later deadline _ fixed
    have leads := Call.run_leads (Order.inTime_of_deadlineFrom fixed) remote before
    refine ⟨Order.timeout_of_deadlineFrom fixed, ?_, fun moment => ?_⟩
    · exact Order.instant_of_deadlineFrom fixed
    · exact Call.interruption_of_patient (leads.deadline.trans fixed) moment []
  upgrading := by
    intro first before due deadline split overruns going enough unopened
    rw [split]
    rcases Call.cancelled_of_overrun overruns going enough with
      ⟨state, ended, ⟨rfl, _⟩ | ⟨_, opened⟩⟩
    · exact ended
    · exact absurd opened unopened
  streaming := by
    intro first before due deadline split overruns going enough opened
    rw [split]
    rcases Call.cancelled_of_overrun overruns going enough with
      ⟨state, ended, ⟨_, unopened⟩ | ⟨rfl, _⟩⟩
    · exact absurd opened unopened
    · exact ended
  inTime := by
    intro first before later deadline ending split fixed early ended
    have whole : order.run remote glances =
        (order.run remote (first :: before)).after remote later := by
      rw [split, ← List.cons_append, Order.run, Call.after_append]
      rfl
    rw [whole, Call.after_of_ended ended]
    refine ⟨ended, fun timeout state same => ?_⟩
    rw [same] at ended
    rcases Call.exists_interruption (Order.inTime_of_deadlineFrom fixed) ended with
      ⟨_, glance, _, inside, _, _, ⟨impossible, _⟩ | ⟨other, again, passed, _⟩⟩
    · cases impossible
    · cases fixed.symm.trans again
      have member : glance ∈ before := by
        rw [inside]
        exact List.mem_append_right _ List.mem_cons_self
      exact absurd passed (Nat.not_le_of_lt (early glance member))
  unlimited := by
    intro untimed timeout state ended
    cases glances with
    | nil => cases ended
    | cons first rest =>
        have inTime : order.InTime first.moment.now := by
          intro timeout timed
          cases untimed.symm.trans timed
        rcases Call.exists_interruption inTime ended with
          ⟨_, _, _, _, _, _, ⟨impossible, _⟩ | ⟨_, fixed, _, _⟩⟩
        · cases impossible
        · cases untimed.symm.trans (Order.timeout_of_deadlineFrom fixed)

/-- A server that takes three seconds to hand over the session, and three more to answer. -/
def Remote.slow : Remote :=
  ⟨[.wait (.ofSeconds 3)], none, some [.wait (.ofSeconds 3), .data [97]], none, [],
    some (.exited 0)⟩

/-- Neither the session nor the answer takes five seconds, and five seconds after the beginning the
call is cancelled. -/
theorem slow_listing_cut_off :
    (Order.listing.run .slow (.calm 0 :: (List.replicate 2 (.calm 0) ++
      List.replicate 3 (.calm 3000000000) ++ [.calm 5000000000]))).ending? =
      some (.returned (.error (.cancelled (.deadline (.ofSeconds 5)) .streaming))) := by
  have overruns : Order.listing.Overruns (.calm 0) [.calm 5000000000]
      ⟨5000000000, .ofSeconds 5⟩ := by
    refine ⟨rfl, ?_, ?_⟩ <;> simp [Glance.calm]
  exact (one_deadline .listing .slow _).streaming (.calm 0) _ _ ⟨5000000000, .ofSeconds 5⟩ rfl
    overruns rfl (Nat.le_refl 1) (by decide)

end PodCommand
