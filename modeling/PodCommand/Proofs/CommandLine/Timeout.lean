import PodCommand.Proofs.CommandLine.Calls
import PodCommand.Proofs.Session.Alone
import PodCommand.Proofs.Session.Deadline

namespace PodCommand

/-!
What a timeout can do to a run.

Every span may be asked for, and the numbers of seconds that the command line and the settings admit
go twice as far as the clock.  `Order.limited` draws the line: beyond it a run breaks off at its
first glance, whatever else is wrong with the order, and on this side of it no timeout does anything
but end a call in an orderly way.  For the program as a whole, whose clock starts at zero, the line
is a number of seconds.
-/

/-- How the runs of an order end that begin with a glance, as far as the timeout has a part in
it. -/
structure Order.Limited (order : Order) (remote : Remote) (first : Glance) (rest : List Glance) :
    Prop where
  /-- The clock fails for these orders, and for no others. -/
  overflows_iff : (order.run remote (first :: rest)).ending? = some .clockOverflow ↔
    order.Overlong first.moment.now
  /-- It does so at the first glance, before the order has been looked at or anything told. -/
  at_once : order.Overlong first.moment.now →
    order.run remote (first :: rest) = ⟨order, none, .idle, .ended .clockOverflow, []⟩
  /-- Any other run that is over has returned a result. -/
  returns : ¬ order.Overlong first.moment.now → ∀ ending,
    (order.run remote (first :: rest)).ending? = some ending → ∃ result, ending = .returned result
  /-- What is wrong with the order is told at once, by the same error under every timeout. -/
  refused : ¬ order.Overlong first.moment.now → ∀ error, order.request = .error error →
    (order.run remote (first :: rest)).ending? = some (.returned (.error (.rejected error)))
  /-- A deadline that has passed lets a call take one step more, and ends it with the next. -/
  expires : ∀ before second third later, rest = before ++ second :: third :: later →
    order.Expired first second → order.Expired first third →
    ∃ result, (order.run remote (first :: rest)).ending? = some (.returned result)

/-- Every order, with every timeout, is kept to its time or is beyond the clock. -/
theorem Order.limited (order : Order) (remote : Remote) (first : Glance) (rest : List Glance) :
    order.Limited remote first rest where
  overflows_iff := Call.overflowed_iff order remote first rest
  at_once := fun overlong => Call.run_of_overlong overlong remote rest
  returns := fun countable ending ended =>
    Call.returned_of_inTime (Order.inTime_iff.mpr countable) ended
  refused := by
    intro countable error refused
    have stopped := Call.run_of_refused (Order.inTime_iff.mpr countable) remote refused
    have whole : order.run remote (first :: rest) = (order.run remote [first]).after remote rest :=
      rfl
    rw [whole, Call.after_of_ended stopped]
    exact stopped
  expires := by
    rintro before second third later rfl near far
    rcases Call.ended_of_expired remote before later near far with ⟨ending, ended⟩
    rcases near with ⟨deadline, fixed, _⟩
    rcases Call.returned_of_inTime (Order.inTime_of_deadlineFrom fixed) ended with ⟨result, rfl⟩
    exact ⟨result, ended⟩

/-- An order that names no object, with the longest timeout that settings can hold. -/
def Order.unbounded : Order :=
  { target := ⟨"default", "pods", none, none⟩
    command := ["ls"]
    timeout := Settings.timeout { Settings.default with timeoutSecs := some 18446744073709551615 }
    stdin := none }

/-- The clock fails although the order should have been refused. -/
theorem Order.unbounded_overflows :
    Order.unbounded.request = .error (.badTarget (.noName Order.unbounded.target)) ∧
      (Order.unbounded.run .prompt [.calm 0]).ending? = some .clockOverflow := by
  constructor
  · rfl
  · rfl

namespace CommandLine

/-- The order of a command line is beyond the clock by its seconds. -/
theorem overlong_order_iff (line : CommandLine) (settings : Settings) (stdin : Script)
    (now : Instant) :
    (line.order settings stdin).Overlong now ↔ ∃ seconds, settings.timeoutSecs = some seconds ∧
      Instant.secondsLimit * Duration.nanosPerSecond ≤
        now + seconds.toNat * Duration.nanosPerSecond := by
  constructor
  · rintro ⟨timeout, timed, beyond⟩
    rcases Option.map_eq_some_iff.mp timed with ⟨seconds, given, rfl⟩
    exact ⟨seconds, given, beyond⟩
  · rintro ⟨seconds, given, beyond⟩
    exact ⟨.ofSeconds seconds.toNat, Option.map_eq_some_iff.mpr ⟨seconds, given, rfl⟩, beyond⟩

/-- A program crashes if it gets to its call, and allows it half of all the seconds that it can
allow or more. -/
theorem crashed_iff (words : List String) (host : Host) (stdin : Script) (network : Network) :
    ((perform words host stdin).run network).1 = .crashed ↔
      ∃ order client between, Calls words host stdin network order client between ∧
        order.Overlong 0 := by
  have ends : ∀ order client between, Calls words host stdin network order client between →
      (((perform words host stdin).run network).1 = .crashed ↔ order.Overlong 0) := by
    intro order client between calls
    rcases Transport.callTo_alone .ready order client between with ⟨first, rest, begun, alone⟩
    rcases alone _ rfl with ⟨same, _⟩
    rw [← begun, ← Call.overflowed_iff order _ first rest]
    rcases made : (Transport.call order client).run between with ⟨own, after⟩
    have result : own = _ := (congrArg Prod.fst made).symm.trans same
    rw [calls.perform made]
    dsimp only
    rw [result]
    cases (order.run ((Transport.sessions .ready client order between.answers).headD Call.noRemote)
      (first :: rest)).ending? with
    | none => simp [Ending.map, Exit.ofEnding]
    | some ending =>
        cases ending with
        | returned result => cases result <;> simp [Ending.map, Exit.ofEnding]
        | clockOverflow | endless => simp [Ending.map, Exit.ofEnding]
  constructor
  · intro crashed
    rcases calls_or_unable words host stdin network with
      ⟨order, client, between, calls⟩ | usage | ⟨_, helped⟩ | ⟨error, failed⟩
    · exact ⟨order, client, between, calls, (ends order client between calls).mp crashed⟩
    · cases crashed.symm.trans usage
    · cases crashed.symm.trans helped
    · cases crashed.symm.trans failed
  · rintro ⟨order, client, between, calls, overlong⟩
    exact (ends order client between calls).mpr overlong

end CommandLine
end PodCommand
