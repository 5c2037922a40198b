import PodCommand.Proofs.Session.InputFailure

namespace PodCommand

/-!
Local input that nothing holds back.

Where no step of the source or of the far side waits or fails, and the far side refuses nothing, one
look forwards the whole of what is left and shuts the far side down.  Octets that are taken
meanwhile only let more pass, so both sides stay clear while octets go from one to the other, and a
request that is the last can only be the one that is done.
-/

namespace Tape

/-- The tape is at hand as a whole, and a request is neither held back nor failed by any of it. -/
def Clear (around : Surroundings) (tape : Tape) : Prop :=
  tape.isWhole = true ∧ tape.script.Clear around

namespace Clear

variable {around : Surroundings} {tape : Tape}

theorem goTo (clear : tape.Clear around) {step : Step} {rest : Script}
    (front : tape.script = step :: rest) : (tape.goTo rest).Clear around :=
  ⟨clear.1, fun other member => clear.2 other (front ▸ List.mem_cons_of_mem _ member)⟩

/-- What holds nothing back and fails nothing may stand in front of a clear tape. -/
theorem push (clear : tape.Clear around) {step : Step}
    (free : (∀ as, step.meet around ≠ .held as) ∧ ∀ failure, step ≠ .fail failure) :
    (tape.goTo (step :: tape.script)).Clear around := by
  refine ⟨clear.1, fun other member => ?_⟩
  rcases List.mem_cons.mp member with rfl | listed
  · exact free
  · exact clear.2 other listed

theorem unread (clear : tape.Clear around) (bytes : Bytes) : (tape.unread bytes).Clear around := by
  unfold Tape.unread
  split
  · exact clear
  · exact clear.push ⟨fun _ => Meeting.noConfusion, fun _ => Step.noConfusion⟩

theorem readyFor (clear : tape.Clear around) (count : Nat) :
    (tape.readyFor count).Clear around := by
  unfold Tape.readyFor
  split
  · exact clear
  · exact clear.push ⟨fun _ => Meeting.noConfusion, fun _ => Step.noConfusion⟩

theorem not_held (clear : tape.Clear around) {left : Tape} : ¬ tape.Held around left := by
  intro held
  cases held with
  | dry nothing part => exact Bool.noConfusion (clear.1.symm.trans part)
  | step front held => exact (clear.2 _ (front ▸ List.mem_cons_self)).1 _ held

theorem not_failed (clear : tape.Clear around) {failure : StreamFailure} {rest : Script} :
    tape.script ≠ .fail failure :: rest := fun front =>
  (clear.2 _ (front ▸ List.mem_cons_self)).2 failure rfl

theorem later {fewer more : Nat} {now : Instant} {closed : Bool}
    (clear : tape.Clear ⟨now, fewer, closed⟩) (grown : fewer ≤ more) :
    tape.Clear ⟨now, more, closed⟩ :=
  ⟨clear.1, clear.2.of_precedes ⟨rfl, grown, id⟩⟩

end Clear
end Tape

namespace Copy

/-- Nothing holds a copy back, and the far side takes whatever comes, in whatever portions. -/
structure Clear (now : Instant) (copy : Copy) : Prop where
  source : copy.source.Clear (copy.surroundings now)
  takes : copy.sink.takes.Clear (copy.surroundings now)
  accepts : .accept 0 ∉ copy.sink.takes.script
  flushes : copy.sink.closing.flushes.Clear (copy.surroundings now)
  shutdown : copy.sink.closing.shutdown.Clear (copy.surroundings now)

/-- Whether a copy can rest at a stage. -/
def Stage.isRest : Stage → Bool
  | .toppingUp | .flushing => false
  | _ => true

/-- A request that is the last only where the copy is done, and otherwise leaves it clear. -/
def Stride.Onward (now : Instant) : Stride → Prop
  | .quiet next | .gaveUp next | .wrote _ next => next.Clear now ∧ next.stage.isRest = true
  | .rests _ outcome => outcome = .done

section

variable {now : Instant} {copy : Copy}

theorem Clear.turn (clear : copy.Clear now) : copy.turn = copy := by
  unfold Copy.turn
  rw [Tape.turn_of_isWhole clear.source.1, Tape.turn_of_isWhole clear.takes.1,
    Tape.turn_of_isWhole clear.flushes.1, Tape.turn_of_isWhole clear.shutdown.1]

theorem Clear.enter (clear : copy.Clear now) (stage : Stage) : (copy.enter stage).Clear now :=
  ⟨clear.source, clear.takes, clear.accepts, clear.flushes, clear.shutdown⟩

theorem Clear.withSource (clear : copy.Clear now) {left : Tape}
    (source : left.Clear (copy.surroundings now)) : (copy.withSource left).Clear now :=
  ⟨source, clear.takes, clear.accepts, clear.flushes, clear.shutdown⟩

theorem Clear.withTakes (clear : copy.Clear now) {left : Tape}
    (takes : left.Clear (copy.surroundings now)) (accepts : .accept 0 ∉ left.script) :
    (copy.withTakes left).Clear now :=
  ⟨clear.source, takes, accepts, clear.flushes, clear.shutdown⟩

theorem Clear.withFlushes (clear : copy.Clear now) {left : Tape}
    (flushes : left.Clear (copy.surroundings now)) : (copy.withFlushes left).Clear now :=
  ⟨clear.source, clear.takes, clear.accepts, flushes, clear.shutdown⟩

theorem Clear.withShutdown (clear : copy.Clear now) {left : Tape}
    (shutdown : left.Clear (copy.surroundings now)) : (copy.withShutdown left).Clear now :=
  ⟨clear.source, clear.takes, clear.accepts, clear.flushes, shutdown⟩

theorem Clear.deliver (clear : copy.Clear now) (count : Nat) : (copy.deliver count).Clear now := by
  have grown : copy.received.length ≤ (copy.received ++ copy.unwritten.take count).length := by
    rw [List.length_append]
    exact Nat.le_add_right _ _
  unfold Copy.deliver
  dsimp only
  split
  · exact ⟨clear.source.later grown, clear.takes.later grown, clear.accepts,
      clear.flushes.later grown, clear.shutdown.later grown⟩
  · exact ⟨clear.source.later grown, clear.takes.later grown, clear.accepts,
      clear.flushes.later grown, clear.shutdown.later grown⟩

theorem isRest_deliver (resting : copy.stage.isRest = true) (count : Nat) :
    (copy.deliver count).stage.isRest = true := by
  unfold Copy.deliver
  dsimp only
  split
  · exact resting
  · dsimp only
    split <;> rfl

theorem Clear.proceed (clear : copy.Clear now) : copy.proceed.Onward now := by
  refine ⟨clear.enter _, ?_⟩
  unfold Copy.enter
  dsimp only
  split <;> rfl

theorem Clear.onward_write (clear : copy.Clear now) (resting : copy.stage.isRest = true) :
    (copy.write now).Onward now := by
  have stays : ∀ left, (copy.withTakes left).stage.isRest = true := fun _ => resting
  have tail : ∀ {step : Step} {rest : Script}, copy.sink.takes.script = step :: rest →
      (copy.withTakes (copy.sink.takes.goTo rest)).Clear now :=
    fun front => clear.withTakes (clear.takes.goTo front) (Tape.accepting_goTo clear.accepts front)
  refine write_cases (fun _ _ => ⟨clear.deliver _, isRest_deliver resting _⟩)
    (fun _ _ front _ => ⟨tail front, stays _⟩) (fun _ front => ⟨tail front, stays _⟩)
    (fun _ held => absurd held clear.takes.not_held) (fun rest front => ?_)
    (fun count rest front some => ?_) (fun _ _ front => absurd front clear.takes.not_failed)
  · exact absurd (front ▸ List.mem_cons_self) clear.accepts
  · have ready : (copy.withTakes ((copy.sink.takes.goTo rest).readyFor
        (count - copy.unwritten.length))).Clear now :=
      clear.withTakes ((clear.takes.goTo front).readyFor _)
        (Tape.accepting_readyFor (tail front).accepts _)
    exact ⟨ready.deliver count, isRest_deliver (stays _) count⟩

/-- The step lemma: a request on a clear copy that is not the last leaves it clear, and the last is
the one that is done. -/
theorem Clear.onward (clear : copy.Clear now) (resting : copy.stage.isRest = true) :
    (copy.step now).Onward now := by
  unfold Copy.step
  cases current : copy.stage with
  | reading =>
      have tail : ∀ {step : Step} {rest : Script}, copy.source.script = step :: rest →
          (copy.withSource (copy.source.goTo rest)).Clear now :=
        fun front => clear.withSource (clear.source.goTo front)
      have stays : ∀ left, (copy.withSource left).stage.isRest = true := fun _ => resting
      refine read_cases (fun _ _ => ?_) (fun _ _ front _ => ⟨tail front, stays _⟩)
        (fun _ front => ⟨tail front, stays _⟩) (fun _ held => absurd held clear.source.not_held)
        (fun bytes rest front _ => ?_) (fun _ _ front => absurd front clear.source.not_failed)
      · have ended : Copy.Clear now { copy with exhausted := true } :=
          ⟨clear.source, clear.takes, clear.accepts, clear.flushes, clear.shutdown⟩
        exact ended.proceed
      · have filled : (copy.fill bytes (copy.source.goTo rest)).Clear now :=
          ⟨(clear.source.goTo front).unread _, clear.takes, clear.accepts, clear.flushes,
            clear.shutdown⟩
        exact filled.proceed
  | toppingUp | flushing =>
      rw [current] at resting
      cases resting
  | writing => exact clear.onward_write resting
  | finishing =>
      have tail : ∀ {step : Step} {rest : Script}, copy.sink.closing.flushes.script = step :: rest →
          (copy.withFlushes (copy.sink.closing.flushes.goTo rest)).Clear now :=
        fun front => clear.withFlushes (clear.flushes.goTo front)
      exact settle_cases (fun _ _ => ⟨clear.enter _, rfl⟩)
        (fun _ _ front _ => ⟨tail front, resting⟩) (fun _ front => ⟨tail front, resting⟩)
        (fun _ held => absurd held clear.flushes.not_held)
        (fun _ _ front _ => ⟨(tail front).enter _, rfl⟩)
        (fun _ _ front => absurd front clear.flushes.not_failed)
  | closing =>
      have tail : ∀ {step : Step} {rest : Script},
          copy.sink.closing.shutdown.script = step :: rest →
          (copy.withShutdown (copy.sink.closing.shutdown.goTo rest)).Clear now :=
        fun front => clear.withShutdown (clear.shutdown.goTo front)
      exact settle_cases (fun _ _ => rfl) (fun _ _ front _ => ⟨tail front, resting⟩)
        (fun _ front => ⟨tail front, resting⟩)
        (fun _ held => absurd held clear.shutdown.not_held) (fun _ _ _ _ => rfl)
        (fun _ _ front => absurd front clear.shutdown.not_failed)

/-- An attempt at a clear copy that had come to rest is done. -/
theorem Runs.done_of_clear {attempt : Attempt} (runs : Runs now copy attempt)
    (clear : copy.Clear now) (resting : copy.stage.isRest = true) : attempt.outcome = .done := by
  induction runs with
  | rests step | quiet step _ ih | gaveUp step _ ih | wrote step _ ih =>
      have onward := clear.onward resting
      rw [step] at onward
      first | exact onward | exact ih onward.1 onward.2

end
end Copy

namespace Input

/-- Both sides of the input are there, and nothing holds back what is left. -/
def Clear (now : Instant) (input : Input) : Prop :=
  ∃ copying, input.copying = some copying ∧ copying.copy.Clear now

/-- A look at input that nothing holds back forwards the whole of it. -/
theorem Clear.forwarded {now : Instant} {input : Input} (clear : input.Clear now)
    (resting : ∀ copying, input.copying = some copying → copying.copy.stage.isRest = true)
    (cancelled : Bool) : ∃ count, .forwarded count ∈ (input.look now cancelled).events := by
  rcases clear with ⟨copying, copied, clear⟩
  have runs := copying.attempt_runs now
  rw [clear.turn] at runs
  have done := runs.done_of_clear clear (resting copying copied)
  unfold look
  simp only [copied, done, settle]
  exact ⟨_, List.mem_append_right _ (List.mem_cons_of_mem _ List.mem_cons_self)⟩

end Input
end PodCommand
