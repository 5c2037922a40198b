import PodCommand.Proofs.Session.Forwarding

namespace PodCommand

/-!
How an attempt to forward local input is settled.

`look_cases` splits a look at the input in two: where there is a copy it settles an attempt to go on
with it, and where one of its two sides is missing the look is done at once.  What a look does to
the input, what it comes to and what it tells is then said of `settle` alone.
-/

/-- The outcome of forwarding that an event tells of. -/
def Event.outcome? : Event → Option Copy.Outcome
  | .forwarded _ | .inputRefused => some .done
  | .inputFailed failure => some (.failed failure)
  | _ => none

theorem Event.isForwarding_of_outcome? {event : Event} {outcome : Copy.Outcome}
    (told : event.outcome? = some outcome) : event.isForwarding = true := by
  cases event <;> first | rfl | cases told

def Copy.Outcome.isPending : Outcome → Bool
  | .pending => true
  | _ => false

namespace Input

/-- What an attempt tells of before it is settled is not its outcome. -/
theorem outcome?_of_writes (writes : List Bytes) :
    ∀ event ∈ writes.map Event.wrote, event.outcome? = none := by
  intro event member
  rcases List.mem_map.mp member with ⟨bytes, _, rfl⟩
  rfl

/-- A look at the input settles an attempt to forward, or is done at once for want of a side. -/
theorem look_cases (now : Instant) (cancelled : Bool) (input : Input) :
    (∃ copying attempted wish events, input.copying = some copying ∧
      input.look now cancelled = settle attempted (copying.attempt now).outcome wish events ∧
      attempted.forwarding = input.forwarding ∧ ∀ event ∈ events, event.outcome? = none) ∨
    input.copying = none ∧ (input.look now cancelled).outcome = .done ∧
      (input.look now cancelled).input.forwarding = false ∧
      (input.look now cancelled).events = [] := by
  unfold look
  split
  · rename_i copying copied
    exact .inl ⟨copying, _, _, _, copied, rfl, rfl, outcome?_of_writes _⟩
  · rename_i missing
    exact .inr ⟨missing, rfl, rfl, rfl⟩

theorem settle_forwarding (input : Input) (outcome : Copy.Outcome) (cancelled : Bool)
    (events : List Event) :
    (settle input outcome cancelled events).input.forwarding =
      (input.forwarding && (settle input outcome cancelled events).outcome.isPending) := by
  cases outcome with
  | pending => simp [settle, Copy.Outcome.isPending]
  | done => simp [settle, Copy.Outcome.isPending]
  | failed failure =>
      unfold settle
      dsimp only
      split <;> simp [Copy.Outcome.isPending]

theorem settle_failed_iff {input : Input} {outcome : Copy.Outcome} {cancelled : Bool}
    {events : List Event} {failure : StreamFailure} :
    (settle input outcome cancelled events).outcome = .failed failure ↔
      outcome = .failed failure ∧ failure.kind ≠ .brokenPipe := by
  cases outcome with
  | pending | done => simp [settle]
  | failed other =>
      unfold settle
      dsimp only
      split <;> rename_i kind
      · simp only [reduceCtorEq, false_iff]
        rintro ⟨same, unbroken⟩
        cases same
        exact unbroken kind
      · constructor
        · intro same
          cases same
          exact ⟨rfl, kind⟩
        · exact And.left

theorem settle_told {input : Input} {outcome told : Copy.Outcome} {cancelled : Bool}
    {events : List Event} (untold : ∀ event ∈ events, event.outcome? = none) {event : Event}
    (member : event ∈ (settle input outcome cancelled events).events)
    (tells : event.outcome? = some told) :
    (settle input outcome cancelled events).outcome = told := by
  have earlier : event ∉ events := fun earlier => by
    rw [untold event earlier] at tells
    cases tells
  cases outcome with
  | pending => exact absurd member earlier
  | done =>
      have last := (List.mem_append.mp member).resolve_left earlier
      rcases List.mem_cons.mp last with rfl | last
      · cases tells
      · rw [List.mem_singleton.mp last] at tells
        exact Option.some.inj tells
  | failed failure =>
      unfold settle at member ⊢
      dsimp only at member ⊢
      split at member <;> rename_i kind
      · have last := (List.mem_append.mp member).resolve_left earlier
        rw [List.mem_singleton.mp last] at tells
        rw [if_pos kind]
        exact Option.some.inj tells
      · have last := (List.mem_append.mp member).resolve_left earlier
        rw [List.mem_singleton.mp last] at tells
        rw [if_neg kind]
        exact Option.some.inj tells

/-- A far side is told to have refused the input where an attempt has failed with a broken pipe. -/
theorem inputRefused_mem_settle_iff {input : Input} {outcome : Copy.Outcome} {cancelled : Bool}
    {events : List Event} (untold : ∀ event ∈ events, event.outcome? = none) :
    .inputRefused ∈ (settle input outcome cancelled events).events ↔
      ∃ failure, outcome = .failed failure ∧ failure.kind = .brokenPipe := by
  have earlier : .inputRefused ∉ events := fun earlier => by
    cases untold _ earlier
  cases outcome with
  | pending => simp [settle, earlier]
  | done => simp [settle, earlier]
  | failed failure =>
      unfold settle
      dsimp only
      split <;> rename_i kind
      · simp [kind]
      · simp [earlier, kind]

/-! ## What a look at the input comes to -/

variable {now : Instant} {cancelled : Bool} {input : Input}

/-- Forwarding goes on as long as there is something left to wait for. -/
theorem look_forwarding (now : Instant) (cancelled : Bool) (input : Input) :
    (input.look now cancelled).input.forwarding =
      (input.forwarding && (input.look now cancelled).outcome.isPending) := by
  rcases look_cases now cancelled input with
    ⟨copying, attempted, wish, events, _, settled, same, _⟩ | ⟨_, done, stopped, _⟩
  · rw [settled, settle_forwarding, same]
  · rw [done, stopped]
    exact (Bool.and_false _).symm

/-- A far side that stops reading does not fail the input. -/
theorem kind_of_failed {failure : StreamFailure}
    (failed : (input.look now cancelled).outcome = .failed failure) :
    failure.kind ≠ .brokenPipe := by
  rcases look_cases now cancelled input with
    ⟨copying, attempted, wish, events, _, settled, _, _⟩ | ⟨_, done, _, _⟩
  · rw [settled] at failed
    exact (settle_failed_iff.mp failed).2
  · cases done.symm.trans failed

/-- What is told of the outcome of forwarding is the outcome. -/
theorem look_told {event : Event} {told : Copy.Outcome}
    (member : event ∈ (input.look now cancelled).events) (tells : event.outcome? = some told) :
    (input.look now cancelled).outcome = told := by
  rcases look_cases now cancelled input with
    ⟨copying, attempted, wish, events, _, settled, _, untold⟩ | ⟨_, _, _, silent⟩
  · rw [settled] at member ⊢
    exact settle_told untold member tells
  · rw [silent] at member
    cases member

end Input
end PodCommand
