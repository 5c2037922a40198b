import PodCommand.Proofs.Session.Copy
import PodCommand.Session.Input

namespace PodCommand

/-!
Forwarding local input, look after look: what the far side has taken only grows, and what goes
wrong, other than that the far side has stopped reading, is told as an event.
-/

namespace Event

/-- Whether an event is one of forwarding local input. -/
def isForwarding : Event → Bool
  | wrote _ | inputShut | forwarded _ | inputRefused | inputFailed _ => true
  | _ => false

end Event

namespace Input

theorem settle_received (input : Input) (outcome : Copy.Outcome) (cancelled : Bool)
    (events : List Event) :
    (settle input outcome cancelled events).input.received = input.received := by
  unfold settle
  split <;> first | rfl | (split <;> rfl)

theorem settle_closed {input : Input} {outcome : Copy.Outcome} {cancelled : Bool}
    {events : List Event}
    (forwarding : (settle input outcome cancelled events).input.forwarding = true) :
    (settle input outcome cancelled events).input.closed = input.closed := by
  cases outcome with
  | pending => rfl
  | done => cases forwarding
  | failed failure =>
      by_cases refused : failure.kind = .brokenPipe
      · simp only [settle, if_pos refused] at forwarding
        cases forwarding
      · simp only [settle, if_neg refused] at forwarding
        cases forwarding

/-- An attempt to forward that fails is told of as what it is. -/
theorem settle_failed {input : Input} {outcome : Copy.Outcome} {cancelled : Bool}
    {events : List Event} {failure : StreamFailure}
    (failed : (settle input outcome cancelled events).outcome = .failed failure) :
    .inputFailed failure ∈ (settle input outcome cancelled events).events := by
  cases outcome with
  | pending => cases failed
  | done => cases failed
  | failed other =>
      by_cases refused : other.kind = .brokenPipe
      · simp only [settle, if_pos refused] at failed
        cases failed
      · simp only [settle, if_neg refused] at failed ⊢
        cases failed
        exact List.mem_append_right _ List.mem_cons_self

theorem settle_isForwarding (input : Input) (outcome : Copy.Outcome) (cancelled : Bool)
    {events : List Event} (forwarding : ∀ event ∈ events, event.isForwarding = true) :
    ∀ event ∈ (settle input outcome cancelled events).events, event.isForwarding = true := by
  intro event member
  unfold settle at member
  split at member
  · exact forwarding event member
  · rcases List.mem_append.mp member with earlier | last
    · exact forwarding event earlier
    · rcases List.mem_cons.mp last with rfl | last
      · rfl
      · rw [List.mem_singleton.mp last]
        rfl
  · split at member <;> rcases List.mem_append.mp member with earlier | last
    · exact forwarding event earlier
    · rw [List.mem_singleton.mp last]
      rfl
    · exact forwarding event earlier
    · rw [List.mem_singleton.mp last]
      rfl

theorem isForwarding_of_writes (writes : List Bytes) :
    ∀ event ∈ writes.map Event.wrote, event.isForwarding = true := by
  intro event member
  rcases List.mem_map.mp member with ⟨bytes, _, rfl⟩
  rfl

/-- What the far side has taken only grows. -/
theorem received_prefix_look (now : Instant) (cancelled : Bool) (input : Input) :
    input.received <+: (input.look now cancelled).input.received := by
  unfold look
  split
  · rename_i copying copied
    rw [settle_received]
    simp only [received, copied, copying.received_next now]
    exact List.prefix_append _ _
  · exact List.prefix_rfl

theorem look_isForwarding (now : Instant) (cancelled : Bool) (input : Input) :
    ∀ event ∈ (input.look now cancelled).events, event.isForwarding = true := by
  unfold look
  split
  · exact settle_isForwarding _ _ _ (isForwarding_of_writes _)
  · exact fun _ member => absurd member List.not_mem_nil

theorem look_failed {now : Instant} {cancelled : Bool} {input : Input} {failure : StreamFailure}
    (failed : (input.look now cancelled).outcome = .failed failure) :
    .inputFailed failure ∈ (input.look now cancelled).events := by
  unfold look at failed ⊢
  split at failed
  · exact settle_failed failed
  · cases failed

/-- As long as forwarding is under way the far side stays as it was. -/
theorem look_closed {now : Instant} {cancelled : Bool} {input : Input}
    (forwarding : (input.look now cancelled).input.forwarding = true) :
    (input.look now cancelled).input.closed = input.closed := by
  unfold look at forwarding ⊢
  split at forwarding
  · exact settle_closed forwarding
  · cases forwarding

end Input
end PodCommand
