import PodCommand.Proofs.Session.Script
import PodCommand.Session.Copying

namespace PodCommand

/-!
Copying, request after request.

`Copy.Runs` leads from a copy to what an attempt makes of it, one request at a time, and knows of no
fuel: an attempt is such a run because every request that is not the last lowers the work that is
left.  So whatever every single request keeps is kept by attempts, by induction on the run; the
octets that the far side has taken are the first case.
-/

theorem Step.octets_of_held {step as : Step} {around : Surroundings}
    (held : step.meet around = .held as) : as.octets = step.octets := by
  cases step with
  | wait | sleep | awaitInput | awaitInputEnd =>
      simp only [meet] at held
      split at held
      · cases held
      · cases held
        rfl
  | hang =>
      cases held
      rfl
  | _ => cases held

@[simp] theorem Script.load_nil : Script.load [] = 0 := rfl

@[simp] theorem Script.load_cons (step : Step) (rest : Script) :
    Script.load (step :: rest) = step.octets + 1 + Script.load rest := rfl

namespace Tape

theorem load_of_held {around : Surroundings} {tape left : Tape} (held : tape.Held around left) :
    left.script.load = tape.script.load := by
  cases held with
  | dry => rfl
  | step front held => simp [goTo, front, Step.octets_of_held held]

theorem length_of_held {around : Surroundings} {tape left : Tape} (held : tape.Held around left) :
    left.script.length = tape.script.length := by
  cases held with
  | dry => rfl
  | step front => simp [goTo, front]

/-! ## Tapes that refuse nothing -/

section

variable {tape : Tape} {step : Step} {rest : Script}

theorem accepting_goTo (accepts : .accept 0 ∉ tape.script) (front : tape.script = step :: rest) :
    .accept 0 ∉ (tape.goTo rest).script :=
  fun member => accepts (front ▸ List.mem_cons_of_mem _ member)

/-- An offer to take more is not one to take nothing. -/
theorem accepting_readyFor (accepts : .accept 0 ∉ tape.script) (count : Nat) :
    .accept 0 ∉ (tape.readyFor count).script := by
  unfold Tape.readyFor
  split
  · exact accepts
  · rename_i spare
    intro member
    rcases List.mem_cons.mp member with same | listed
    · exact spare (Step.accept.inj same).symm
    · exact accepts listed

theorem accepting_of_held {around : Surroundings} {left : Tape} (accepts : .accept 0 ∉ tape.script)
    (held : tape.Held around left) : .accept 0 ∉ left.script := by
  cases held with
  | dry => exact accepts
  | @step step as rest front held =>
      intro member
      rcases List.mem_cons.mp member with same | listed
      · subst same
        -- What is held back is a pause, or nothing that ever passes.
        have met := step.met around
        rw [held] at met
        cases met with
        | held _ stays => simp [Step.isPause] at stays
      · exact accepting_goTo accepts front listed

end

end Tape

namespace Copy

/-- From a copy to what requests make of it that are made one after the other until it rests. -/
inductive Runs (now : Instant) : Copy → Attempt → Prop
  | rests {copy next : Copy} {outcome : Outcome} (step : copy.step now = .rests next outcome) :
      Runs now copy ⟨next, outcome, false, []⟩
  | quiet {copy next : Copy} {attempt : Attempt} (step : copy.step now = .quiet next)
      (later : Runs now next attempt) : Runs now copy attempt
  | gaveUp {copy next : Copy} {attempt : Attempt} (step : copy.step now = .gaveUp next)
      (later : Runs now next attempt) : Runs now copy { attempt with gaveUp := true }
  | wrote {copy next : Copy} {bytes : Bytes} {attempt : Attempt}
      (step : copy.step now = .wrote bytes next) (later : Runs now next attempt) :
      Runs now copy { attempt with writes := bytes :: attempt.writes }

/-! ## Every request but the last leaves less work -/

/-- A request is the last, or leaves a copy with less work than a bound. -/
def Stride.Lessens (bound : Nat) : Stride → Prop
  | .quiet next | .gaveUp next | .wrote _ next => next.work < bound
  | .rests _ _ => True

section

variable {copy : Copy} {now : Instant} {bound : Nat}

theorem work_enter (copy : Copy) (stage : Stage) :
    (copy.enter stage).work = copy.load + stage.rank := rfl

/-- Less to be copied at the same stage is less work. -/
theorem work_lt {later : Copy} (less : later.load < copy.load) (same : later.stage = copy.stage) :
    later.work < copy.work := by
  rw [work, work, same]
  exact Nat.add_lt_add_right less _

section

variable {left : Tape}

theorem load_withSource (less : left.script.load ≤ copy.source.script.load) :
    (copy.withSource left).load ≤ copy.load := by
  simp only [load, withSource]
  omega

theorem load_withTakes (less : left.script.length ≤ copy.sink.takes.script.length) :
    (copy.withTakes left).load ≤ copy.load := by
  simp only [load, withTakes]
  omega

theorem load_withFlushes (less : left.script.length ≤ copy.sink.closing.flushes.script.length) :
    (copy.withFlushes left).load ≤ copy.load := by
  simp only [load, withFlushes]
  omega

theorem load_withShutdown (less : left.script.length ≤ copy.sink.closing.shutdown.script.length) :
    (copy.withShutdown left).load ≤ copy.load := by
  simp only [load, withShutdown]
  omega

end

section

variable {step : Step} {rest : Script}

theorem load_source (front : copy.source.script = step :: rest) :
    (copy.withSource (copy.source.goTo rest)).load < copy.load := by
  simp only [load, withSource, Tape.goTo, front, Script.load_cons]
  omega

theorem load_takes (front : copy.sink.takes.script = step :: rest) :
    (copy.withTakes (copy.sink.takes.goTo rest)).load < copy.load := by
  simp only [load, withTakes, Tape.goTo, front, List.length_cons]
  omega

/-- What is left of an offer takes the place of the offer. -/
theorem load_readyFor (front : copy.sink.takes.script = step :: rest) (count : Nat) :
    (copy.withTakes ((copy.sink.takes.goTo rest).readyFor count)).load ≤ copy.load := by
  refine load_withTakes ?_
  unfold Tape.readyFor
  split <;> simp [Tape.goTo, front]

theorem load_flushes (front : copy.sink.closing.flushes.script = step :: rest) :
    (copy.withFlushes (copy.sink.closing.flushes.goTo rest)).load < copy.load := by
  simp only [load, withFlushes, Tape.goTo, front, List.length_cons]
  omega

theorem load_shutdown (front : copy.sink.closing.shutdown.script = step :: rest) :
    (copy.withShutdown (copy.sink.closing.shutdown.goTo rest)).load < copy.load := by
  simp only [load, withShutdown, Tape.goTo, front, List.length_cons]
  omega

end

/-- What is read moves from the source into the buffer. -/
theorem load_fill_add {bytes : Bytes} {rest : Script}
    (front : copy.source.script = .data bytes :: rest) :
    (copy.fill bytes (copy.source.goTo rest)).load +
      (bytes.take (bufferSize - copy.filled)).length ≤ copy.load := by
  have parts : (bytes.take (bufferSize - copy.filled)).length +
      (bytes.drop (bufferSize - copy.filled)).length = bytes.length := by
    rw [← List.length_append, List.take_append_drop]
  simp only [load, fill, Tape.unread, List.length_append, front, Script.load_cons, Step.octets]
  split
  · simp only [Tape.goTo]
    omega
  · simp only [Tape.goTo, Script.load_cons, Step.octets]
    omega

theorem load_fill {bytes : Bytes} {rest : Script}
    (front : copy.source.script = .data bytes :: rest) :
    (copy.fill bytes (copy.source.goTo rest)).load ≤ copy.load :=
  Nat.le_trans (Nat.le_add_right _ _) (load_fill_add front)

/-- A read leaves less work if what comes of it does. -/
theorem lessens_read {given starved : Copy → Stride} (base : copy.work ≤ bound)
    (gives : ∀ later : Copy, later.load ≤ copy.load → (given later).Lessens bound)
    (starves : ∀ later : Copy, later.load ≤ copy.load → (starved later).Lessens bound) :
    (copy.read now given starved).Lessens bound := by
  have passed : ∀ {step : Step} {rest : Script}, copy.source.script = step :: rest →
      (copy.withSource (copy.source.goTo rest)).work < bound :=
    fun front => Nat.lt_of_lt_of_le (work_lt (load_source front) rfl) base
  exact read_cases (fun _ _ => gives _ (Nat.le_refl _)) (fun _ _ front _ => passed front)
    (fun _ front => passed front)
    (fun _ held => starves _ (load_withSource (Nat.le_of_eq (Tape.load_of_held held))))
    (fun _ _ front _ => gives _ (load_fill front)) (fun _ _ _ => trivial)

/-- Octets that have been taken are done with, and at least one has been. -/
theorem work_deliver (writing : copy.stage = .writing) {count : Nat} (some : count ≠ 0)
    (left : copy.unwritten ≠ []) : (copy.deliver count).work < copy.work := by
  have octets : copy.unwritten.length ≠ 0 := fun none => left (List.length_eq_zero_iff.mp none)
  simp only [work, writing, deliver]
  split
  · simp only [load, Stage.rank, List.length_drop]
    omega
  · simp only [load, Stage.rank, List.length_drop]
    split <;> omega

theorem lessens_write (writing : copy.stage = .writing) (left : copy.unwritten ≠ []) :
    (copy.write now).Lessens copy.work := by
  have octets : copy.unwritten.length ≠ 0 := fun none => left (List.length_eq_zero_iff.mp none)
  have passed : ∀ {step : Step} {rest : Script}, copy.sink.takes.script = step :: rest →
      (copy.withTakes (copy.sink.takes.goTo rest)).work < copy.work :=
    fun front => work_lt (load_takes front) rfl
  refine write_cases (fun _ _ => work_deliver writing octets left) (fun _ _ front _ => passed front)
    (fun _ front => passed front) (fun takes held => ?_) (fun _ _ => trivial)
    (fun count rest front some => ?_) (fun _ _ _ => trivial)
  · unfold stall
    split
    · have whole : copy.work = copy.load + 2 := by rw [work, writing]; rfl
      have less : (copy.withTakes takes).load ≤ copy.load :=
        load_withTakes (Nat.le_of_eq (Tape.length_of_held held))
      rw [Stride.Lessens, work_enter, whole]
      exact Nat.add_lt_add_of_le_of_lt less (Nat.lt_succ_self 1)
    · exact trivial
  · have kept : ∀ takes, (copy.withTakes takes).stage = .writing := fun _ => writing
    exact Nat.lt_of_lt_of_le (work_deliver (kept _) some left)
      (Nat.add_le_add_right (load_readyFor front _) _)

/-- Waiting for an answer leaves less work if the answer does. -/
theorem lessens_settle {tape : Tape} {put : Tape → Copy} {held answered : Copy → Stride}
    (passed : ∀ {step : Step} {rest : Script}, tape.script = step :: rest →
      (put (tape.goTo rest)).work < copy.work)
    (waits : ∀ later : Copy, (held later).Lessens copy.work)
    (ends : (answered copy).Lessens copy.work)
    (answers : ∀ {step : Step} {rest : Script}, tape.script = step :: rest →
      (answered (put (tape.goTo rest))).Lessens copy.work) :
    (copy.settle now tape put held answered).Lessens copy.work :=
  settle_cases (fun _ _ => ends) (fun _ _ front _ => passed front) (fun _ front => passed front)
    (fun _ _ => waits _) (fun _ _ front _ => answers front) (fun _ _ _ => trivial)

/-- The step lemma: a request of a copy that can come about is the last, or leaves less work. -/
theorem Sound.lessens (sound : copy.Sound) (now : Instant) :
    (copy.step now).Lessens copy.work := by
  have stage := sound.2
  unfold Copy.step
  cases current : copy.stage with
  | reading =>
      have whole : copy.work = copy.load + 3 := by rw [work, current]; rfl
      have enters : ∀ (later : Copy) (stage : Stage), later.load ≤ copy.load → stage.rank < 3 →
          (later.enter stage).work < copy.work := by
        intro later stage less low
        rw [work_enter, whole]
        exact Nat.add_lt_add_of_le_of_lt less low
      refine lessens_read (Nat.le_refl _) (fun later less => ?_) (fun later less => ?_)
      · unfold proceed
        split
        · exact enters _ _ less (by decide)
        · exact enters _ _ less (by decide)
      · unfold starve
        split
        · exact enters _ _ less (by decide)
        · split
          · exact enters _ _ less (by decide)
          · exact trivial
  | toppingUp => exact lessens_read (Nat.le_refl _) (fun _ _ => trivial) (fun _ _ => trivial)
  | writing =>
      rw [current] at stage
      exact lessens_write current stage
  | flushing =>
      exact lessens_settle (fun front => work_lt (load_flushes front) rfl) (fun _ => trivial)
        trivial fun _ => trivial
  | finishing =>
      have closes : ∀ later : Copy, later.load ≤ copy.load →
          (later.enter .closing).work < copy.work := by
        intro later less
        have whole : copy.work = copy.load + 2 := by rw [work, current]; rfl
        rw [work_enter, whole]
        exact Nat.add_lt_add_of_le_of_lt less (Nat.lt_succ_self 1)
      exact lessens_settle (fun front => work_lt (load_flushes front) rfl) (fun _ => trivial)
        (closes _ (Nat.le_refl _)) fun front => closes _ (Nat.le_of_lt (load_flushes front))
  | closing =>
      exact lessens_settle (fun front => work_lt (load_shutdown front) rfl) (fun _ => trivial)
        trivial fun _ => trivial

theorem work_pos (copy : Copy) : 0 < copy.work := by
  unfold work
  cases copy.stage <;> exact Nat.succ_pos _

/-- Requests for all of the work are enough to come to rest. -/
theorem runs_run {fuel : Nat} (sound : copy.Sound) (enough : copy.work ≤ fuel) :
    Runs now copy (copy.run now fuel) := by
  induction fuel generalizing copy with
  | zero => exact absurd enough (Nat.not_le_of_lt copy.work_pos)
  | succ fuel ih =>
      have next := sound.step now
      have less := sound.lessens now
      have spare : ∀ {left : Nat}, left < copy.work → left ≤ fuel :=
        fun fewer => Nat.le_of_lt_succ (Nat.lt_of_lt_of_le fewer enough)
      rw [run]
      cases taken : copy.step now <;> rw [taken] at next less
      case quiet => exact .quiet taken (ih next (spare less))
      case gaveUp => exact .gaveUp taken (ih next (spare less))
      case wrote => exact .wrote taken (ih next (spare less))
      case rests => exact .rests taken

/-! ## No request adds to what is to be copied -/

/-- A request that leaves at most so much to be copied. -/
def Stride.Within (bound : Nat) (stride : Stride) : Prop := stride.next.load ≤ bound

theorem load_deliver (copy : Copy) (count : Nat) : (copy.deliver count).load ≤ copy.load := by
  unfold deliver
  dsimp only
  split <;> simp only [load, List.length_drop] <;> omega

theorem within_read {given starved : Copy → Stride}
    (gives : ∀ later : Copy, later.load ≤ copy.load → (given later).Within copy.load)
    (starves : ∀ later : Copy, later.load ≤ copy.load → (starved later).Within copy.load) :
    (copy.read now given starved).Within copy.load := by
  have tail : ∀ {step : Step} {rest : Script}, copy.source.script = step :: rest →
      (copy.withSource (copy.source.goTo rest)).load ≤ copy.load :=
    fun front => Nat.le_of_lt (load_source front)
  exact read_cases (fun _ _ => gives _ (Nat.le_refl _)) (fun _ _ front _ => tail front)
    (fun _ front => tail front)
    (fun _ held => starves _ (load_withSource (Nat.le_of_eq (Tape.load_of_held held))))
    (fun _ _ front _ => gives _ (load_fill front)) (fun _ _ front => tail front)

theorem within_write (copy : Copy) (now : Instant) : (copy.write now).Within copy.load := by
  have tail : ∀ {step : Step} {rest : Script}, copy.sink.takes.script = step :: rest →
      (copy.withTakes (copy.sink.takes.goTo rest)).load ≤ copy.load :=
    fun front => Nat.le_of_lt (load_takes front)
  refine write_cases (fun _ _ => load_deliver _ _) (fun _ _ front _ => tail front)
    (fun _ front => tail front) (fun left held => ?_) (fun _ front => tail front)
    (fun count rest front _ => ?_) (fun _ _ front => tail front)
  · have less : (copy.withTakes left).load ≤ copy.load :=
      load_withTakes (Nat.le_of_eq (Tape.length_of_held held))
    unfold stall
    split <;> exact less
  · exact Nat.le_trans (load_deliver _ count) (load_readyFor front _)

theorem within_settle {tape : Tape} {put : Tape → Copy} {held answered : Copy → Stride}
    (puts : ∀ {left : Tape}, left.script.length ≤ tape.script.length →
      (put left).load ≤ copy.load)
    (waits : ∀ later : Copy, later.load ≤ copy.load → (held later).Within copy.load)
    (answers : ∀ later : Copy, later.load ≤ copy.load → (answered later).Within copy.load) :
    (copy.settle now tape put held answered).Within copy.load := by
  have tail : ∀ {step : Step} {rest : Script}, tape.script = step :: rest →
      (put (tape.goTo rest)).load ≤ copy.load := fun front => puts (by simp [Tape.goTo, front])
  exact settle_cases (fun _ _ => answers _ (Nat.le_refl _)) (fun _ _ front _ => tail front)
    (fun _ front => tail front)
    (fun _ held => waits _ (puts (Nat.le_of_eq (Tape.length_of_held held))))
    (fun _ _ front _ => answers _ (tail front)) (fun _ _ front => tail front)

theorem within_step (copy : Copy) (now : Instant) : (copy.step now).Within copy.load := by
  have starves : ∀ later : Copy, later.load ≤ copy.load → later.starve.Within copy.load := by
    intro later less
    unfold starve
    split
    · exact less
    · split <;> exact less
  unfold Copy.step
  split
  · exact within_read (fun _ less => less) starves
  · exact within_write copy now
  · exact within_read (fun _ less => less) (fun _ less => less)
  · exact within_settle load_withFlushes (fun _ less => less) (fun _ less => less)
  · exact within_settle load_withFlushes (fun _ less => less) (fun _ less => less)
  · exact within_settle load_withShutdown (fun _ less => less) (fun _ less => less)

theorem Runs.load_le {attempt : Attempt} (runs : Runs now copy attempt) :
    attempt.copy.load ≤ copy.load := by
  induction runs with
  | @rests copy next outcome step =>
      have within := within_step copy now
      rwa [step] at within
  | @quiet copy next attempt step _ ih | @gaveUp copy next attempt step _ ih
  | @wrote copy next bytes attempt step _ ih =>
      have within := within_step copy now
      rw [step] at within
      exact Nat.le_trans ih within

/-! ## What the far side takes -/

/-- The octets that a request makes the far side take. -/
def Stride.written : Stride → Bytes
  | .wrote bytes _ => bytes
  | _ => []

/-- A request after which the far side has taken what was written, beyond what it had taken. -/
def Stride.Adds (before : Bytes) (stride : Stride) : Prop :=
  stride.next.received = before ++ stride.written

theorem received_deliver (copy : Copy) (count : Nat) :
    (copy.deliver count).received = copy.received ++ copy.unwritten.take count := by
  unfold deliver
  dsimp only
  split <;> rfl

theorem adds_step (copy : Copy) (now : Instant) : (copy.step now).Adds copy.received := by
  have none : copy.received = copy.received ++ [] := (List.append_nil _).symm
  have proceeds : ∀ later : Copy, later.received = copy.received →
      later.proceed.Adds copy.received := fun later same => same.trans none
  have awaits : ∀ later : Copy, later.received = copy.received →
      later.await.Adds copy.received := fun later same => same.trans none
  have starves : ∀ later : Copy, later.received = copy.received →
      later.starve.Adds copy.received := by
    intro later same
    unfold starve
    split
    · exact same.trans none
    · split <;> exact same.trans none
  unfold Copy.step
  split
  · exact read_cases (fun _ _ => proceeds _ rfl) (fun _ _ _ _ => none) (fun _ _ => none)
      (fun _ _ => starves _ rfl) (fun _ _ _ _ => proceeds _ rfl) (fun _ _ _ => none)
  · refine write_cases (fun _ _ => ?_) (fun _ _ _ _ => none) (fun _ _ => none) (fun takes _ => ?_)
      (fun _ _ => none) (fun _ _ _ _ => received_deliver _ _) (fun _ _ _ => none)
    · exact (received_deliver _ _).trans (by rw [List.take_length]; rfl)
    · unfold stall
      split <;> exact none
  · exact read_cases (fun _ _ => awaits _ rfl) (fun _ _ _ _ => none) (fun _ _ => none)
      (fun _ _ => awaits _ rfl) (fun _ _ _ _ => awaits _ rfl) (fun _ _ _ => none)
  all_goals
    exact settle_cases (fun _ _ => none) (fun _ _ _ _ => none) (fun _ _ => none)
      (fun _ _ => none) (fun _ _ _ _ => none) (fun _ _ _ => none)

/-- What is told to have been written is what the far side has taken. -/
theorem Runs.received {attempt : Attempt} (runs : Runs now copy attempt) :
    attempt.copy.received = copy.received ++ attempt.writes.flatten := by
  induction runs with
  | @rests copy next outcome step =>
      have added := adds_step copy now
      rw [step] at added
      exact added
  | @quiet copy next attempt step later ih =>
      have added := adds_step copy now
      rw [step] at added
      rw [ih, show next.received = copy.received ++ [] from added, List.append_nil]
  | @gaveUp copy next attempt step later ih =>
      have added := adds_step copy now
      rw [step] at added
      rw [ih, show next.received = copy.received ++ [] from added, List.append_nil]
  | @wrote copy next bytes attempt step later ih =>
      have added := adds_step copy now
      rw [step] at added
      rw [ih, show next.received = copy.received ++ bytes from added, List.flatten_cons,
        List.append_assoc]

end

end Copy

/-- An attempt goes on until the copy rests. -/
theorem Copying.attempt_runs (copying : Copying) (now : Instant) :
    Copy.Runs now copying.copy.turn (copying.attempt now) :=
  Copy.runs_run copying.sound.turn (Nat.le_refl _)

/-- An attempt tells of everything that the far side takes meanwhile. -/
theorem Copying.received_next (copying : Copying) (now : Instant) :
    (copying.next now).copy.received =
      copying.copy.received ++ (copying.attempt now).writes.flatten :=
  (copying.attempt_runs now).received

end PodCommand
