import PodCommand.Proofs.Session.InputFailure

namespace PodCommand

/-!
Local input that spoils nothing.

A source and a far side are harmless together if neither makes the caller give up, and if they fail
only as a far side does that has stopped reading.  Requests keep that, and leave as much to be
copied as before or less; an attempt leaves less for certain where a pause has just run out that the
copy had been waiting for, since the request that comes to it goes past it.
-/

namespace Script

/-- A script that can fail only as a far side does that stops reading. -/
def Harmless (script : Script) : Prop :=
  ∀ step ∈ script, step ≠ .cancel ∧ ∀ failure, step = .fail failure → failure.kind = .brokenPipe

theorem exists_of_wake? {script : Script} {wake : Instant} (fixed : script.wake? = some wake) :
    ∃ rest, script = .sleep wake :: rest := by
  cases script with
  | nil => cases fixed
  | cons step rest =>
      cases step with
      | sleep instant =>
          cases fixed
          exact ⟨rest, rfl⟩
      | _ => cases fixed

/-- The pause at the front of a script has run out. -/
def Due (now : Instant) (script : Script) : Prop :=
  ∃ wake, script.wake? = some wake ∧ wake ≤ now

end Script

/-- Nobody is made to give up, and nothing fails, by what is held back. -/
theorem Step.of_held {step as : Step} {around : Surroundings} (held : step.meet around = .held as) :
    as ≠ .cancel ∧ ∀ failure, as ≠ .fail failure := by
  cases step with
  | wait | sleep | awaitInput | awaitInputEnd =>
      simp only [Step.meet] at held
      split at held
      · cases held
      · cases held
        exact ⟨Step.noConfusion, fun _ => Step.noConfusion⟩
  | hang =>
      cases held
      exact ⟨Step.noConfusion, fun _ => Step.noConfusion⟩
  | _ => cases held

namespace Tape

/-- A tape that is at hand as a whole, and spoils nothing. -/
def Harmless (tape : Tape) : Prop := tape.isWhole = true ∧ tape.script.Harmless

namespace Harmless

variable {tape : Tape}

theorem goTo (harmless : tape.Harmless) {step : Step} {rest : Script}
    (front : tape.script = step :: rest) : (tape.goTo rest).Harmless :=
  ⟨harmless.1, fun other member => harmless.2 other (front ▸ List.mem_cons_of_mem _ member)⟩

theorem push (harmless : tape.Harmless) {step : Step} (calm : step ≠ .cancel)
    (sound : ∀ failure, step ≠ .fail failure) : (tape.goTo (step :: tape.script)).Harmless := by
  refine ⟨harmless.1, fun other member => ?_⟩
  rcases List.mem_cons.mp member with rfl | listed
  · exact ⟨calm, fun failure same => absurd same (sound failure)⟩
  · exact harmless.2 other listed

theorem unread (harmless : tape.Harmless) (bytes : Bytes) : (tape.unread bytes).Harmless := by
  unfold Tape.unread
  split
  · exact harmless
  · exact harmless.push Step.noConfusion fun _ => Step.noConfusion

theorem readyFor (harmless : tape.Harmless) (count : Nat) : (tape.readyFor count).Harmless := by
  unfold Tape.readyFor
  split
  · exact harmless
  · exact harmless.push Step.noConfusion fun _ => Step.noConfusion

theorem held (harmless : tape.Harmless) {around : Surroundings} {left : Tape}
    (held : tape.Held around left) : left.Harmless := by
  cases held with
  | dry => exact harmless
  | @step step as rest front held =>
      have kept := Step.of_held held
      exact (harmless.goTo front).push kept.1 kept.2

theorem kind (harmless : tape.Harmless) {failure : StreamFailure} {rest : Script}
    (front : tape.script = .fail failure :: rest) : failure.kind = .brokenPipe :=
  (harmless.2 _ (front ▸ List.mem_cons_self)).2 failure rfl

theorem ofScript {script : Script} (harmless : script.Harmless) :
    (Tape.ofScript script).Harmless :=
  ⟨rfl, harmless⟩

end Harmless

/-- A pause at the front that has run out is passed. -/
theorem ask_of_due {tape : Tape} {around : Surroundings} (due : tape.script.Due around.now) :
    ∃ step rest, tape.script = step :: rest ∧ tape.ask around = .passed (tape.goTo rest) := by
  rcases due with ⟨wake, fixed, passed⟩
  rcases Script.exists_of_wake? fixed with ⟨rest, front⟩
  have met : Step.meet around (.sleep wake) = .passed := if_pos passed
  exact ⟨_, rest, front, by simp only [ask, front, met]⟩

end Tape

namespace Copy

/-! ## What spoils nothing -/

/-- Neither side of a copy spoils anything, and the far side refuses nothing but by failing. -/
structure Harmless (copy : Copy) : Prop where
  source : copy.source.Harmless
  takes : copy.sink.takes.Harmless
  accepts : .accept 0 ∉ copy.sink.takes.script
  flushes : copy.sink.closing.flushes.Harmless
  shutdown : copy.sink.closing.shutdown.Harmless

/-- A request at which the caller does not give up, and that leaves a harmless copy. -/
def Stride.Harmless (stride : Stride) : Prop :=
  stride.next.Harmless ∧ ∀ next, stride ≠ .gaveUp next

section

variable {now : Instant} {copy : Copy}

theorem Harmless.turn (harmless : copy.Harmless) : copy.turn = copy := by
  unfold Copy.turn
  rw [Tape.turn_of_isWhole harmless.source.1, Tape.turn_of_isWhole harmless.takes.1,
    Tape.turn_of_isWhole harmless.flushes.1, Tape.turn_of_isWhole harmless.shutdown.1]

theorem Harmless.withSource (harmless : copy.Harmless) {left : Tape} (source : left.Harmless) :
    (copy.withSource left).Harmless :=
  ⟨source, harmless.takes, harmless.accepts, harmless.flushes, harmless.shutdown⟩

theorem Harmless.withTakes (harmless : copy.Harmless) {left : Tape} (takes : left.Harmless)
    (accepts : .accept 0 ∉ left.script) : (copy.withTakes left).Harmless :=
  ⟨harmless.source, takes, accepts, harmless.flushes, harmless.shutdown⟩

theorem Harmless.withFlushes (harmless : copy.Harmless) {left : Tape} (flushes : left.Harmless) :
    (copy.withFlushes left).Harmless :=
  ⟨harmless.source, harmless.takes, harmless.accepts, flushes, harmless.shutdown⟩

theorem Harmless.withShutdown (harmless : copy.Harmless) {left : Tape} (shutdown : left.Harmless) :
    (copy.withShutdown left).Harmless :=
  ⟨harmless.source, harmless.takes, harmless.accepts, harmless.flushes, shutdown⟩

/-- What leaves the two sides as they are does no harm. -/
theorem Harmless.of_sides {later : Copy} (harmless : copy.Harmless)
    (source : later.source = copy.source) (sink : later.sink = copy.sink) : later.Harmless := by
  refine ⟨source ▸ harmless.source, ?_, ?_, ?_, ?_⟩ <;> rw [sink]
  · exact harmless.takes
  · exact harmless.accepts
  · exact harmless.flushes
  · exact harmless.shutdown

theorem Harmless.deliver (harmless : copy.Harmless) (count : Nat) :
    (copy.deliver count).Harmless := by
  unfold Copy.deliver
  dsimp only
  split <;> exact harmless.of_sides rfl rfl

theorem Harmless.read (harmless : copy.Harmless) {given starved : Copy → Stride}
    (gives : ∀ later : Copy, later.Harmless → (given later).Harmless)
    (starves : ∀ later : Copy, later.Harmless → (starved later).Harmless) :
    (copy.read now given starved).Harmless := by
  have tail : ∀ {step : Step} {rest : Script}, copy.source.script = step :: rest →
      (copy.withSource (copy.source.goTo rest)).Harmless :=
    fun front => harmless.withSource (harmless.source.goTo front)
  refine read_cases (fun _ _ => gives _ (harmless.of_sides rfl rfl))
    (fun _ _ front _ => ⟨tail front, fun _ => Stride.noConfusion⟩) (fun rest front => ?_)
    (fun left held => starves _ (harmless.withSource (harmless.source.held held)))
    (fun bytes rest front _ => gives _ ?_)
    (fun _ _ front => ⟨tail front, fun _ => Stride.noConfusion⟩)
  · exact absurd rfl (harmless.source.2 _ (front ▸ List.mem_cons_self)).1
  · have read : (copy.withSource ((copy.source.goTo rest).unread
        (bytes.drop (bufferSize - copy.filled)))).Harmless :=
      harmless.withSource ((harmless.source.goTo front).unread _)
    exact read.of_sides rfl rfl

theorem Harmless.write (harmless : copy.Harmless) : (copy.write now).Harmless := by
  have tail : ∀ {step : Step} {rest : Script}, copy.sink.takes.script = step :: rest →
      (copy.withTakes (copy.sink.takes.goTo rest)).Harmless :=
    fun front => harmless.withTakes (harmless.takes.goTo front)
      (Tape.accepting_goTo harmless.accepts front)
  refine write_cases (fun _ _ => ⟨harmless.deliver _, fun _ => Stride.noConfusion⟩)
    (fun _ _ front _ => ⟨tail front, fun _ => Stride.noConfusion⟩) (fun rest front => ?_)
    (fun left held => ?_) (fun _ front => ⟨tail front, fun _ => Stride.noConfusion⟩)
    (fun count rest front some => ⟨?_, fun _ => Stride.noConfusion⟩)
    (fun _ _ front => ⟨tail front, fun _ => Stride.noConfusion⟩)
  · exact absurd rfl (harmless.takes.2 _ (front ▸ List.mem_cons_self)).1
  · have waiting := harmless.withTakes (harmless.takes.held held)
      (Tape.accepting_of_held harmless.accepts held)
    unfold stall
    split
    · exact ⟨waiting.of_sides rfl rfl, fun _ => Stride.noConfusion⟩
    · exact ⟨waiting, fun _ => Stride.noConfusion⟩
  · exact (harmless.withTakes ((harmless.takes.goTo front).readyFor _)
      (Tape.accepting_readyFor (tail front).accepts _)).deliver count

theorem Harmless.settle {tape : Tape} (harmless : copy.Harmless) (spoils : tape.Harmless)
    {put : Tape → Copy} {held answered : Copy → Stride}
    (puts : ∀ left, left.Harmless → (put left).Harmless)
    (waits : ∀ later : Copy, later.Harmless → (held later).Harmless)
    (answers : ∀ later : Copy, later.Harmless → (answered later).Harmless) :
    (copy.settle now tape put held answered).Harmless := by
  refine settle_cases (fun _ _ => answers _ harmless)
    (fun _ _ front _ => ⟨puts _ (spoils.goTo front), fun _ => Stride.noConfusion⟩)
    (fun rest front => ?_) (fun _ isHeld => waits _ (puts _ (spoils.held isHeld)))
    (fun _ _ front _ => answers _ (puts _ (spoils.goTo front)))
    (fun _ _ front => ⟨puts _ (spoils.goTo front), fun _ => Stride.noConfusion⟩)
  exact absurd rfl (spoils.2 _ (front ▸ List.mem_cons_self)).1

/-- The step lemma: a request does no harm. -/
theorem Harmless.step (harmless : copy.Harmless) (now : Instant) : (copy.step now).Harmless := by
  have keeps : ∀ {later : Copy}, later.Harmless → ∀ stage, (later.enter stage).Harmless :=
    fun kept _ => kept.of_sides rfl rfl
  have starves : ∀ later : Copy, later.Harmless → later.starve.Harmless := by
    intro later kept
    unfold starve
    split
    · exact ⟨keeps kept _, fun _ => Stride.noConfusion⟩
    · split
      · exact ⟨keeps kept _, fun _ => Stride.noConfusion⟩
      · exact ⟨kept, fun _ => Stride.noConfusion⟩
  unfold Copy.step
  cases copy.stage with
  | reading =>
      exact harmless.read (fun _ kept => ⟨keeps kept _, fun _ => Stride.noConfusion⟩) starves
  | writing => exact harmless.write
  | toppingUp =>
      exact harmless.read (fun _ kept => ⟨keeps kept _, fun _ => Stride.noConfusion⟩)
        fun _ kept => ⟨keeps kept _, fun _ => Stride.noConfusion⟩
  | flushing =>
      exact harmless.settle harmless.flushes (fun _ => harmless.withFlushes)
        (fun _ kept => ⟨keeps kept _, fun _ => Stride.noConfusion⟩)
        fun _ kept => ⟨kept.of_sides rfl rfl, fun _ => Stride.noConfusion⟩
  | finishing =>
      exact harmless.settle harmless.flushes (fun _ => harmless.withFlushes)
        (fun _ kept => ⟨kept, fun _ => Stride.noConfusion⟩)
        fun _ kept => ⟨keeps kept _, fun _ => Stride.noConfusion⟩
  | closing =>
      exact harmless.settle harmless.shutdown (fun _ => harmless.withShutdown)
        (fun _ kept => ⟨kept, fun _ => Stride.noConfusion⟩)
        fun _ kept => ⟨kept, fun _ => Stride.noConfusion⟩

/-- The next request is met with no failure but that of a far side that has stopped reading. -/
theorem Harmless.kind (harmless : copy.Harmless) {failure : StreamFailure}
    (met : copy.failure? = some failure) : failure.kind = .brokenPipe := by
  have tapes : ∀ part, (copy.tape part).Harmless := by
    intro part
    cases part with
    | source => exact harmless.source
    | sink => exact harmless.takes
    | flush => exact harmless.flushes
    | shutdown => exact harmless.shutdown
  rcases Option.bind_eq_some_iff.mp met with ⟨step, head, fails⟩
  rcases List.head?_eq_some_iff.mp head with ⟨rest, front⟩
  cases step with
  | fail other =>
      cases fails
      exact (tapes _).kind front
  | accept count =>
      simp only [Part.failure?] at fails
      split at fails
      · rename_i refused
        rw [refused.1, refused.2] at front
        exact absurd (front ▸ List.mem_cons_self) harmless.accepts
      · cases fails
  | _ => cases fails

/-- An attempt does no harm. -/
theorem Runs.harmless {attempt : Attempt} (runs : Runs now copy attempt)
    (harmless : copy.Harmless) :
    attempt.copy.Harmless ∧ attempt.gaveUp = false ∧
      ∀ failure, attempt.outcome = .failed failure → failure.kind = .brokenPipe := by
  induction runs with
  | @rests copy next outcome step =>
      have kept := harmless.step now
      have same := failure?_step copy now
      rw [step] at kept same
      refine ⟨kept.1, rfl, fun failure failed => harmless.kind ?_⟩
      rw [← same, show outcome = .failed failure from failed]
      rfl
  | quiet step _ ih | wrote step _ ih =>
      have kept := harmless.step now
      rw [step] at kept
      exact ih kept.1
  | gaveUp step _ ih =>
      have kept := harmless.step now
      rw [step] at kept
      exact absurd rfl (kept.2 _)

end

/-! ## What is waited for -/

/-- A pause that a copy waits for has run out. -/
def Due (now : Instant) (copy : Copy) : Prop := ∃ script ∈ copy.awaited, script.Due now

/-- The copy that is left when requests are made until it rests, the first of which comes to
this. -/
def Stride.Ends (now : Instant) (final : Copy) : Stride → Prop
  | .quiet next | .gaveUp next | .wrote _ next =>
    ∃ attempt, Runs now next attempt ∧ attempt.copy = final
  | .rests next _ => next = final

/-- Less than a bound is to be copied once the copy rests. -/
def Stride.Sheds (now : Instant) (bound : Nat) (stride : Stride) : Prop :=
  ∀ final, stride.Ends now final → final.load < bound

section

variable {now : Instant} {copy : Copy} {bound : Nat}

theorem Runs.ends {attempt : Attempt} (runs : Runs now copy attempt) :
    (copy.step now).Ends now attempt.copy := by
  cases runs with
  | rests step =>
      rw [step]
      rfl
  | quiet step later | gaveUp step later | wrote step later =>
      rw [step]
      exact ⟨_, later, rfl⟩

theorem Stride.Sheds.of_next {stride : Stride} (less : stride.next.load < bound) :
    stride.Sheds now bound := by
  intro final ends
  cases stride with
  | rests next outcome => exact ends ▸ less
  | quiet next | gaveUp next | wrote bytes next =>
      rcases ends with ⟨attempt, runs, rfl⟩
      exact Nat.lt_of_le_of_lt runs.load_le less

/-- A request that comes to a pause which has run out goes past it. -/
theorem step_of_due (due : (copy.tape copy.stage.part).script.Due now) :
    ∃ next, copy.step now = .quiet next ∧ next.load < copy.load := by
  have asked := @Tape.ask_of_due (copy.tape copy.stage.part) (copy.surroundings now) due
  rcases asked with ⟨step, rest, front, passed⟩
  unfold Copy.step
  cases current : copy.stage <;> rw [current] at front passed <;>
    simp only [Stage.part, tape] at front passed <;> simp only [read, write, settle, passed]
  case reading | toppingUp => exact ⟨_, rfl, load_source front⟩
  case writing => exact ⟨_, rfl, load_takes front⟩
  case flushing | finishing => exact ⟨_, rfl, load_flushes front⟩
  case closing => exact ⟨_, rfl, load_shutdown front⟩

theorem sheds_of_due (less : copy.load ≤ bound)
    (due : (copy.tape copy.stage.part).script.Due now) : (copy.step now).Sheds now bound := by
  rcases step_of_due due with ⟨next, step, shed⟩
  rw [step]
  exact .of_next (Nat.lt_of_lt_of_le shed less)

/-- It does not matter how many requests there are before one comes to the pause, as long as they do
not add to what is to be copied. -/
theorem sheds_quiet {next : Copy} (less : next.load ≤ bound)
    (due : (next.tape next.stage.part).script.Due now) :
    (Stride.quiet next).Sheds now bound := by
  rintro final ⟨attempt, runs, rfl⟩
  exact sheds_of_due less due _ runs.ends

/-- What is read is done with as far as the source goes. -/
theorem load_fill_lt {bytes : Bytes} {rest : Script}
    (front : copy.source.script = .data bytes :: rest) (some : bytes ≠ [])
    (room : copy.filled < bufferSize) :
    (copy.fill bytes (copy.source.goTo rest)).load < copy.load := by
  have given : bytes.length ≠ 0 := fun none => some (List.length_eq_zero_iff.mp none)
  have moved := load_fill_add front
  rw [List.length_take] at moved
  omega

/-- A read that is followed by other requests only where there is nothing to be read. -/
theorem sheds_read (room : copy.filled < bufferSize)
    (ends : (proceed { copy with exhausted := true }).Sheds now copy.load)
    (starves : ∀ left, copy.source.Held (copy.surroundings now) left →
      (copy.withSource left).starve.Sheds now copy.load) :
    (copy.read now proceed starve).Sheds now copy.load :=
  read_cases (fun _ _ => ends) (fun _ _ front _ => .of_next (load_source front))
    (fun _ front => .of_next (load_source front)) starves
    (fun _ _ front some => .of_next (load_fill_lt front some room))
    (fun _ _ front => .of_next (load_source front))

/-- A copy that reads waits for the far side too, if there is something to write or to flush; where
that is the pause that has run out, the copy comes to it after the source. -/
theorem sheds_of_reading (sound : copy.Sound) (current : copy.stage = .reading)
    (due : copy.Due now) : (copy.step now).Sheds now copy.load := by
  have stage := sound.2
  rw [current] at stage
  have own : copy.source.script.Due now → (copy.step now).Sheds now copy.load := by
    intro due
    refine sheds_of_due (Nat.le_refl _) ?_
    rwa [current]
  have held : ∀ {left}, copy.source.Held (copy.surroundings now) left →
      (copy.withSource left).load ≤ copy.load :=
    fun held => load_withSource (Nat.le_of_eq (Tape.load_of_held held))
  have reads : (proceed { copy with exhausted := true }).Sheds now copy.load →
      (∀ left, copy.source.Held (copy.surroundings now) left →
        (copy.withSource left).starve.Sheds now copy.load) →
      (copy.step now).Sheds now copy.load := by
    intro ends starves
    simp only [Copy.step, current]
    exact sheds_read stage.2 ends starves
  rcases due with ⟨script, listed, due⟩
  simp only [awaited, current] at listed
  split at listed <;> rename_i unwritten
  · rcases List.mem_cons.mp listed with rfl | second
    · exact own due
    · rw [List.mem_singleton.mp second] at due
      have left : copy.unwritten.isEmpty = false := by simpa using unwritten
      refine reads ?_ fun source isHeld => ?_
      · rw [proceed, left]
        exact sheds_quiet (Nat.le_refl _) due
      · have same : (copy.withSource source).unwritten.isEmpty = false := left
        rw [starve, same]
        exact sheds_quiet (held isHeld) due
  · have nothing : copy.unwritten.isEmpty = true := by simpa using unwritten
    split at listed <;> rename_i unflushed
    · rcases List.mem_cons.mp listed with rfl | second
      · exact own due
      · rw [List.mem_singleton.mp second] at due
        refine reads ?_ fun source isHeld => ?_
        · rw [proceed, nothing]
          exact sheds_quiet (Nat.le_refl _) due
        · have same : (copy.withSource source).unwritten.isEmpty = true := nothing
          have still : (copy.withSource source).unflushed = true := unflushed
          rw [starve, same, still]
          exact sheds_quiet (held isHeld) due
    · rw [List.mem_singleton.mp listed] at due
      exact own due

/-- Anywhere else a copy waits for what it is about to ask. -/
theorem awaited_of_ne_reading (other : copy.stage ≠ .reading) :
    copy.awaited = [(copy.tape copy.stage.part).script] := by
  unfold awaited
  cases current : copy.stage with
  | reading => exact absurd current other
  | _ => rfl

/-- Less is left to be copied after an attempt at which a pause has run out that the copy had waited
for. -/
theorem Runs.load_lt {attempt : Attempt} (runs : Runs now copy attempt) (sound : copy.Sound)
    (due : copy.Due now) : attempt.copy.load < copy.load := by
  have sheds : (copy.step now).Sheds now copy.load := by
    by_cases current : copy.stage = .reading
    · exact sheds_of_reading sound current due
    · rcases due with ⟨script, listed, due⟩
      rw [awaited_of_ne_reading current, List.mem_singleton] at listed
      exact sheds_of_due (Nat.le_refl _) (listed ▸ due)
  exact sheds _ runs.ends

end
end Copy

namespace Input

/-- Input that is forwarded, if it is, by a copy that spoils nothing. -/
def Harmless (input : Input) : Prop :=
  ∀ copying, input.copying = some copying → copying.copy.Harmless

theorem awaited_of_over {input : Input} (stopped : input.forwarding = false) :
    input.awaited = [] := by
  unfold awaited
  rw [stopped]
  split <;> rfl

/-- What a look at harmless input comes to. -/
structure Look.Fed (now : Instant) (cancelled : Bool) (input : Input) (look : Look) : Prop where
  harmless : look.input.Harmless
  cancelled : look.cancelled = cancelled
  unfailed : ∀ failure, look.outcome ≠ .failed failure
  untold : ∀ failure, .inputFailed failure ∉ look.events
  fewer : look.input.load ≤ input.load
  due : (∃ script ∈ input.awaited, script.Due now) → look.input.load < input.load

/-- Forwarding that is over leaves nothing to come. -/
theorem Look.Fed.of_over {now : Instant} {cancelled : Bool} {input : Input} {look : Look}
    (harmless : look.input.Harmless) (same : look.cancelled = cancelled)
    (unfailed : ∀ failure, look.outcome ≠ .failed failure)
    (untold : ∀ failure, .inputFailed failure ∉ look.events)
    (forwarding : input.forwarding = true) (stopped : look.input.forwarding = false) :
    look.Fed now cancelled input := by
  have nothing : look.input.load = 0 := by
    simp only [load, stopped, Bool.false_eq_true, if_false]
  have something : 0 < input.load := by
    simp only [load, forwarding, if_true]
    split <;> exact Nat.succ_pos _
  exact ⟨harmless, same, unfailed, untold, by omega, fun _ => by omega⟩

/-- What is written is no failure. -/
theorem inputFailed_notMem_wrote (writes : List Bytes) (failure : StreamFailure) :
    Event.inputFailed failure ∉ writes.map Event.wrote := by
  intro member
  rcases List.mem_map.mp member with ⟨_, _, impossible⟩
  cases impossible

/-- No failure is told where an attempt has come to an end with writes and an ending. -/
theorem inputFailed_notMem_ending {ending : List Event} {failure : StreamFailure}
    (writes : List Bytes) (own : .inputFailed failure ∉ ending) :
    Event.inputFailed failure ∉ writes.map Event.wrote ++ ending := fun told =>
  (List.mem_append.mp told).elim (inputFailed_notMem_wrote writes failure) own

theorem look_fed {input : Input} (harmless : input.Harmless) (forwarding : input.forwarding = true)
    (now : Instant) (cancelled : Bool) : (input.look now cancelled).Fed now cancelled input := by
  unfold look
  split
  · rename_i copying copied
    have spares := harmless copying copied
    have runs := copying.attempt_runs now
    rw [spares.turn] at runs
    rcases runs.harmless spares with ⟨kept, aware, broken⟩
    have same : (cancelled || (copying.attempt now).gaveUp) = cancelled := by
      rw [aware, Bool.or_false]
    have still : ∀ later : Input, later.copying = some (copying.next now) → later.Harmless := by
      intro later next other given
      rw [← Option.some.inj (next.symm.trans given)]
      exact kept
    dsimp only
    rw [same]
    cases outcome : (copying.attempt now).outcome with
    | done =>
        exact .of_over (still _ rfl) rfl (fun _ => Copy.Outcome.noConfusion)
          (fun _ => inputFailed_notMem_ending _ (by simp)) forwarding rfl
    | failed raised =>
        have refused : raised.kind = .brokenPipe := broken raised outcome
        simp only [settle, if_pos refused]
        exact .of_over (still _ rfl) rfl (fun _ => Copy.Outcome.noConfusion)
          (fun _ => inputFailed_notMem_ending _ (by simp)) forwarding rfl
    | pending =>
        have before : input.load = copying.copy.load + 1 := by
          simp only [load, forwarding, if_true, copied]
        have after : Input.load { input with copying := some (copying.next now) } =
            (copying.attempt now).copy.load + 1 := by
          simp only [load, forwarding, if_true]
          rfl
        refine ⟨still _ rfl, rfl, fun _ => Copy.Outcome.noConfusion,
          inputFailed_notMem_wrote _, ?_, ?_⟩
        · simp only [settle, after, before]
          exact Nat.succ_le_succ runs.load_le
        · intro waited
          simp only [awaited, copied, forwarding, if_true] at waited
          simp only [settle, after, before]
          exact Nat.succ_lt_succ (runs.load_lt copying.sound waited)
  · exact .of_over harmless rfl (fun _ => Copy.Outcome.noConfusion) (fun _ => List.not_mem_nil)
      forwarding rfl

/-- Input begins harmless if its source and its far side are. -/
theorem harmless_start {source : Option Tape} {sink : Option Sink}
    (spares : ∀ tape far, source = some tape → sink = some far →
      (Copy.start tape far).Harmless) : (Input.start source sink).Harmless := by
  intro copying copied
  rcases Option.bind_eq_some_iff.mp copied with ⟨tape, given, started⟩
  rcases Option.map_eq_some_iff.mp started with ⟨far, taken, rfl⟩
  exact spares tape far given taken

end Input

namespace Streaming

/-- Harmless input is never told to have failed. -/
def fed : Promise where
  pending := fun events session =>
    session.input.Harmless ∧ ∀ failure, .inputFailed failure ∉ events
  finished := fun events _ => ∀ failure, .inputFailed failure ∉ events
  failed := fun events _ => ∀ failure, .inputFailed failure ∉ events

/-- What is no forwarding keeps what is known of the input. -/
theorem keeps_fed {before : List Event} {session : Streaming} {look : Look}
    (kept : fed.pending before session) (same : look.session.input = session.input)
    (own : ∀ failure, .inputFailed failure ∉ look.events) : look.Keeps fed before := by
  have untold : ∀ failure, .inputFailed failure ∉ before ++ look.events := by
    intro failure member
    exact (List.mem_append.mp member).elim (kept.2 failure) (own failure)
  unfold Look.Keeps
  cases look.progress with
  | pending => exact ⟨same ▸ kept.1, untold⟩
  | finished output => exact untold
  | failed failure => exact untold

theorem fed_sustained {source : Option Tape} {remote : Remote}
    (spares : ∀ tape far, source = some tape → remote.stdin = some far →
      (Copy.start tape far).Harmless) : fed.Sustained source remote where
  start := ⟨Input.harmless_start spares, fun _ => List.not_mem_nil⟩
  look := by
    intro choices now cancelled before session kept
    apply look_keeps
    case reads =>
      intro outlet now cancelled before session kept
      refine keeps_fed kept (lookChannel_input ..) fun failure told => ?_
      rw [lookChannel_events] at told
      cases Channel.look_isReading _ _ _ _ _ told
    case asks =>
      intro now cancelled before session kept _ _
      refine keeps_fed kept (askStatus_input ..) ?_
      unfold askStatus
      dsimp only
      split <;> split <;> simp
    case feeds =>
      intro now cancelled before session kept forwarding
      have look := Input.look_fed kept.1 forwarding now cancelled
      have untold : ∀ failure, .inputFailed failure ∉
          before ++ (session.input.look now cancelled).events := by
        intro failure member
        exact (List.mem_append.mp member).elim (kept.2 failure) (look.untold failure)
      unfold lookInput
      dsimp only
      split
      · rename_i failure failed
        exact absurd failed (look.unfailed failure)
      · exact ⟨look.harmless, untold⟩
    case kept => exact kept

end Streaming

/-- In no stage is harmless input told to have failed. -/
theorem Stage.untold {stage : Stage} {remote : Remote} {request : Request} {phase : Phase}
    (fits : stage.Fits remote Streaming.fed request phase) (failure : StreamFailure) :
    .inputFailed failure ∉ stage.events request := by
  cases fits with
  | streaming agreed kept =>
      intro member
      rcases List.mem_append.mp member with before | within
      · simp at before
      · exact kept.2 failure within
  | _ => simp [Stage.events]

/-- In no call is harmless input told to have failed. -/
theorem History.untold {order : Order} {remote : Remote} {state : SessionState} {phase : Phase}
    {events : List Event} (history : History order remote Streaming.fed state phase events)
    (failure : StreamFailure) : .inputFailed failure ∉ events := by
  have within : ∀ {streamed : List Event} {own : ∀ event ∈ streamed, event.isStreaming = true}
      {request : Request} {more : List Event}, (∀ failure, .inputFailed failure ∉ streamed) →
      .inputFailed failure ∉ more →
      .inputFailed failure ∉ (Stage.taken streamed own).events request ++ more := by
    intro streamed own request more kept quiet member
    rcases List.mem_append.mp member with earlier | later
    · rcases List.mem_append.mp earlier with before | within
      · simp at before
      · exact kept failure within
    · exact quiet later
  cases history with
  | fresh | overflowed | rejected => simp
  | underWay valid fits => exact Stage.untold fits failure
  | @cancelled request valid stage phase fits reason wish =>
      intro member
      rcases List.mem_append.mp member with earlier | later
      · exact Stage.untold fits failure earlier
      · cases stage <;> simp [Stage.cancellation] at later
  | refused => simp [Stage.events]
  | completed valid agreed kept => exact within kept (by simp)
  | broken valid agreed kept => exact within kept (by simp)

end PodCommand
