import PodCommand.Proofs.Session.Independence

namespace PodCommand

/-!
What fails where local input is forwarded, and what comes of it.

A read of the local source can fail, a write to the far side, flushing it and shutting it down;
`Copy.Fails` tells the four apart, by the request that is met with the failure.  `look_failed_iff`
and `inputRefused_mem_look_iff` are exact: an attempt to forward is settled by the kind of the
failure alone, whichever of the four has failed.  So a local source that fails as a far side does
that has stopped reading is taken for one, and a failure of any other kind ends the call.
-/

namespace Copy

/-- What takes part in copying, and can fail. -/
inductive Part
  | source
  | sink
  | flush
  | shutdown
  deriving DecidableEq

/-- The part that a request is made to. -/
def Stage.part : Stage → Part
  | .reading | .toppingUp => .source
  | .writing => .sink
  | .flushing | .finishing => .flush
  | .closing => .shutdown

/-- What a part will do. -/
def tape (copy : Copy) : Part → Tape
  | .source => copy.source
  | .sink => copy.sink.takes
  | .flush => copy.sink.closing.flushes
  | .shutdown => copy.sink.closing.shutdown

/-- The failure that a step of a part is; a write of which nothing is taken is one, too. -/
def Part.failure? (part : Part) : Step → Option StreamFailure
  | .fail failure => some failure
  | .accept count => if part = .sink ∧ count = 0 then some .zeroWrite else none
  | _ => none

/-- The failure that the next request is met with. -/
def failure? (copy : Copy) : Option StreamFailure :=
  (copy.tape copy.stage.part).script.head?.bind copy.stage.part.failure?

/-- The copy on which further requests are made at once. -/
def Stride.onward? : Stride → Option Copy
  | .quiet next | .gaveUp next | .wrote _ next => some next
  | .rests _ _ => none

/-- Copying comes to a failure before it rests, and the part whose failure it is. -/
inductive Fails (now : Instant) : Copy → Part → StreamFailure → Prop
  | here {copy : Copy} {part : Part} {failure : StreamFailure} (request : copy.stage.part = part)
      (met : copy.failure? = some failure) : Fails now copy part failure
  | later {copy next : Copy} {part : Part} {failure : StreamFailure}
      (onward : (copy.step now).onward? = some next) (fails : Fails now next part failure) :
      Fails now copy part failure

/-- The failure with which a request ends the copy. -/
def Stride.failure? : Stride → Option StreamFailure
  | .rests _ (.failed failure) => some failure
  | _ => none

/-- A request fails with what it is met with, and with nothing else. -/
def Stride.Blames (met : Option StreamFailure) (stride : Stride) : Prop := stride.failure? = met

section

variable {now : Instant}

/-- What does not fail is met with no failure. -/
theorem failure?_of_passed {around : Surroundings} {step : Step} (part : Part)
    (passed : step.meet around = .passed) : part.failure? step = none := by
  cases step with
  | fail | accept => cases passed
  | _ => rfl

theorem failure?_of_held {around : Surroundings} {tape left : Tape} (part : Part)
    (held : tape.Held around left) : tape.script.head?.bind part.failure? = none := by
  cases held with
  | dry nothing => simp [nothing]
  | @step step as rest front held =>
      rw [front, List.head?_cons, Option.bind_some]
      cases step with
      | fail | accept => cases held
      | _ => rfl

theorem blames_read {copy : Copy} {given starved : Copy → Stride}
    (gives : ∀ later, (given later).failure? = none)
    (starves : ∀ later, (starved later).failure? = none) :
    (copy.read now given starved).Blames
      (copy.source.script.head?.bind (Part.failure? .source)) := by
  refine read_cases (fun nothing _ => ?_) (fun step rest front idle => ?_) (fun rest front => ?_)
    (fun left held => ?_) (fun bytes rest front _ => ?_) (fun failure rest front => ?_)
  · rw [nothing]
    exact gives _
  · rw [front, List.head?_cons, Option.bind_some]
    cases idle with
    | passed met => exact (failure?_of_passed .source met).symm
    | accept | empty => rfl
  · rw [front]
    rfl
  · rw [failure?_of_held .source held]
    exact starves _
  · rw [front]
    exact gives _
  · rw [front]
    rfl

theorem blames_settle {copy : Copy} {put : Tape → Copy} {held answered : Copy → Stride}
    (part : Part) (other : part ≠ .sink) (waits : ∀ later, (held later).failure? = none)
    (answers : ∀ later, (answered later).failure? = none) (tape : Tape) :
    (copy.settle now tape put held answered).Blames (tape.script.head?.bind part.failure?) := by
  refine settle_cases (fun nothing _ => ?_) (fun step rest front met => ?_) (fun rest front => ?_)
    (fun left isHeld => ?_) (fun step rest front answer => ?_) (fun failure rest front => ?_)
  · rw [nothing]
    exact answers _
  · rw [front, List.head?_cons, Option.bind_some]
    exact (failure?_of_passed part met).symm
  · rw [front]
    rfl
  · rw [failure?_of_held part isHeld]
    exact waits _
  · have none : part.failure? step = none := by
      rcases answer with ⟨bytes, rfl⟩ | ⟨count, rfl⟩
      · rfl
      · exact if_neg fun refused => other refused.1
    rw [front, List.head?_cons, Option.bind_some, none]
    exact answers _
  · rw [front]
    rfl

theorem blames_write (copy : Copy) :
    (copy.write now).Blames (copy.sink.takes.script.head?.bind (Part.failure? .sink)) := by
  refine write_cases (fun nothing _ => ?_) (fun step rest front skips => ?_)
    (fun rest front => ?_) (fun left held => ?_) (fun rest front => ?_)
    (fun count rest front some => ?_) (fun failure rest front => ?_)
  · rw [nothing]
    rfl
  · rw [front, List.head?_cons, Option.bind_some]
    rcases skips with met | ⟨bytes, rfl⟩
    · exact (failure?_of_passed .sink met).symm
    · rfl
  · rw [front]
    rfl
  · rw [failure?_of_held .sink held]
    unfold stall
    split <;> rfl
  · rw [front]
    rfl
  · have none : Part.failure? .sink (.accept count) = none := if_neg fun refused => some refused.2
    rw [front, List.head?_cons, Option.bind_some, none]
    rfl
  · rw [front]
    rfl

/-- The step lemma: a request ends the copy with the failure that it is met with, if any. -/
theorem failure?_step (copy : Copy) (now : Instant) :
    (copy.step now).failure? = copy.failure? := by
  have starves : ∀ later : Copy, later.starve.failure? = none := by
    intro later
    unfold starve
    split
    · rfl
    · split <;> rfl
  unfold Copy.step failure?
  cases copy.stage with
  | reading => exact blames_read (fun _ => rfl) starves
  | toppingUp => exact blames_read (fun _ => rfl) (fun _ => rfl)
  | writing => exact blames_write copy
  | flushing => exact blames_settle .flush nofun (fun _ => rfl) (fun _ => rfl) _
  | finishing => exact blames_settle .flush nofun (fun _ => rfl) (fun _ => rfl) _
  | closing => exact blames_settle .shutdown nofun (fun _ => rfl) (fun _ => rfl) _

/-- A copy that goes on comes to a failure where what it goes on to does. -/
theorem fails_iff_of_onward {copy next : Copy} (onward : (copy.step now).onward? = some next)
    {part : Part} {failure : StreamFailure} :
    Fails now copy part failure ↔ Fails now next part failure := by
  constructor
  · intro fails
    cases fails with
    | here _ met =>
        rw [← failure?_step copy now] at met
        cases taken : copy.step now <;> rw [taken] at met onward
        case rests => cases onward
        all_goals cases met
    | later step fails => exact Option.some.inj (step.symm.trans onward) ▸ fails
  · exact .later onward

/-- An attempt fails where one of its parts does. -/
theorem Runs.failed_iff {copy : Copy} {attempt : Attempt} (runs : Runs now copy attempt)
    {failure : StreamFailure} :
    attempt.outcome = .failed failure ↔ ∃ part, Fails now copy part failure := by
  induction runs with
  | @rests copy next outcome step =>
      have same := failure?_step copy now
      rw [step] at same
      constructor
      · rintro rfl
        exact ⟨copy.stage.part, .here rfl same.symm⟩
      · rintro ⟨part, fails⟩
        cases fails with
        | here _ met =>
            rw [met] at same
            cases outcome <;> cases same
            rfl
        | later onward =>
            rw [step] at onward
            cases onward
  | quiet step later ih | gaveUp step later ih | wrote step later ih =>
      simp only [ih, fails_iff_of_onward (congrArg Stride.onward? step)]

end

end Copy

namespace Input

/-- Forwarding comes to a failure at an instant, and the part that fails. -/
def Fails (now : Instant) (input : Input) (part : Copy.Part) (failure : StreamFailure) : Prop :=
  ∃ copying, input.copying = some copying ∧ Copy.Fails now copying.copy.turn part failure

/-- The input fails with a part of it, whichever it is, unless with a broken pipe. -/
theorem look_failed_iff {now : Instant} {cancelled : Bool} {input : Input}
    {failure : StreamFailure} :
    (input.look now cancelled).outcome = .failed failure ↔
      failure.kind ≠ .brokenPipe ∧ ∃ part, input.Fails now part failure := by
  rcases look_cases now cancelled input with
    ⟨copying, attempted, wish, events, copied, settled, _, _⟩ | ⟨missing, done, _, _⟩
  · rw [settled, settle_failed_iff, (copying.attempt_runs now).failed_iff, And.comm]
    simp only [Fails, copied, Option.some.injEq, exists_eq_left']
  · rw [done]
    constructor
    · exact fun same => by cases same
    · rintro ⟨_, part, copying, copied, _⟩
      cases missing.symm.trans copied

/-- The far side is told to have refused the input where a part of it, whichever it is, has failed
with a broken pipe. -/
theorem inputRefused_mem_look_iff {now : Instant} {cancelled : Bool} {input : Input} :
    .inputRefused ∈ (input.look now cancelled).events ↔
      ∃ part failure, input.Fails now part failure ∧ failure.kind = .brokenPipe := by
  rcases look_cases now cancelled input with
    ⟨copying, attempted, wish, events, copied, settled, _, untold⟩ | ⟨missing, _, _, silent⟩
  · rw [settled, inputRefused_mem_settle_iff untold]
    simp only [(copying.attempt_runs now).failed_iff, Fails, copied, Option.some.injEq,
      exists_eq_left']
    constructor
    · rintro ⟨failure, ⟨part, fails⟩, kind⟩
      exact ⟨part, failure, fails, kind⟩
    · rintro ⟨part, failure, fails, kind⟩
      exact ⟨failure, ⟨part, fails⟩, kind⟩
  · rw [silent]
    constructor
    · exact fun told => absurd told List.not_mem_nil
    · rintro ⟨part, failure, ⟨copying, copied, _⟩, _⟩
      cases missing.symm.trans copied

end Input

/-! ## Where a failure leads -/

namespace Streaming

/-- What belongs to one part of a loop belongs to another. -/
def Polled.Within (part whole : Polled) : Prop :=
  (∀ poll ∈ part.polls, poll ∈ whole.polls) ∧
    ∀ event ∈ part.look.events, event ∈ whole.look.events

theorem Polled.Within.trans {first second third : Polled} (one : first.Within second)
    (two : second.Within third) : first.Within third :=
  ⟨fun poll member => two.1 poll (one.1 poll member),
    fun event member => two.2 event (one.2 event member)⟩

theorem Polled.within_followedBy_left (first next : Polled) :
    first.Within (first.followedBy next) :=
  ⟨fun _ => List.mem_append_left _, fun _ => List.mem_append_left _⟩

theorem Polled.within_followedBy_right (first next : Polled) :
    next.Within (first.followedBy next) :=
  ⟨fun _ => List.mem_append_right _, fun _ => List.mem_append_right _⟩

theorem poll_within_pollAll (now : Instant) (turn : Turn) (side : Side) (rest : List Side)
    (cancelled : Bool) (session : Streaming) :
    (session.poll now turn cancelled side).Within
      (pollAll now turn (side :: rest) cancelled session) := by
  rw [pollAll]
  split
  · exact ⟨fun _ => id, fun _ => id⟩
  · exact Polled.within_followedBy_left _ _

theorem turn_within_loop (now : Instant) (again turn : Turn) (cancelled : Bool)
    (session : Streaming) :
    (pollAll now turn (session.sides turn) cancelled session).Within
      (loop now again turn cancelled session) := by
  rw [loop]
  split
  · exact Polled.within_followedBy_left _ _
  · exact ⟨fun _ => id, fun _ => id⟩

/-- The loop polls an input that is forwarded, if the output is not complete before that. -/
theorem exists_poll_within_loop {now : Instant} (again turn : Turn) {cancelled : Bool}
    {session : Streaming} (fed : session.input.forwarding = true)
    (unfinished : turn.inputFirst = true ∨
      (session.lookOutput now turn.stderrFirst cancelled).progress = .pending) :
    ∃ (wish : Bool) (later : Streaming), later.input = session.input ∧
      (later.poll now turn wish .input).Within (loop now again turn cancelled session) := by
  have whole := turn_within_loop now again turn cancelled session
  cases order : turn.inputFirst with
  | true =>
      rw [sides_of_inputFirst fed order] at whole
      exact ⟨cancelled, session, rfl, (poll_within_pollAll ..).trans whole⟩
  | false =>
      have pending := unfinished.resolve_left (by simp [order])
      have waits : (session.poll now turn cancelled .output).polls.any Poll.isReady = false := by
        simp [poll, pending, Poll.isReady]
      rw [sides_of_outputFirst fed order, pollAll_pair_of_not_ready _ waits] at whole
      exact ⟨_, _, lookOutput_input .., (Polled.within_followedBy_right _ _).trans whole⟩

end Streaming

/-- A run comes to an attempt to forward its input at a glance: its streams are open, nothing
interrupts it, and its output side is not complete before the input is looked at. -/
structure Order.Attempts (order : Order) (remote : Remote) (before : List Glance) (glance : Glance)
    (session : Streaming) : Prop where
  streams : (order.run remote before).session? = some session
  calm : (order.run remote before).interruption? glance.moment ⟨glance.cancelled, []⟩ = none
  forwarding : session.input.forwarding = true
  unfinished : glance.moment.choices.inputFirst = true ∨
    (session.lookOutput glance.moment.now glance.moment.choices.stderrFirst
      glance.cancelled).progress = .pending

/-- What an attempt comes to is polled, and what it tells is told. -/
theorem Order.Attempts.polled {order : Order} {remote : Remote} {before : List Glance}
    {glance : Glance} {session : Streaming}
    (attempts : order.Attempts remote before glance session) :
    ∃ wish, .input (session.input.look glance.moment.now wish).outcome ∈
        (order.run remote before).pollsAt glance ∧
      ∀ event ∈ (session.input.look glance.moment.now wish).events,
        event ∈ (order.run remote (before ++ [glance])).events := by
  rcases Streaming.exists_poll_within_loop (.again glance.moment.choices)
    (.first glance.moment.choices) attempts.forwarding attempts.unfinished with
    ⟨wish, later, same, within⟩
  rw [← same]
  refine ⟨wish, ?_, fun event member => ?_⟩
  · rw [Call.pollsAt_of_calm attempts.streams attempts.calm]
    exact within.1 _ (List.mem_singleton_self _)
  · rcases Call.next_of_uninterrupted attempts.streams attempts.calm remote with ⟨earlier, step⟩
    rw [← Streaming.lookInput_events] at member
    have told := within.2 event member
    rw [Streaming.loop_look] at told
    rw [Order.run_concat, step]
    exact Call.mem_stream_of_mem_look told

/-- What comes of failures where the input of an order is forwarded. -/
structure Order.FailuresHeeded (order : Order) (remote : Remote) (glances : List Glance) :
    Prop where
  /-- A failure of the source, of a write to the far side, of flushing it or of shutting it down
  ends the call as that failure, unless it is a broken pipe. -/
  broken : ∀ before glance later session part failure, glances = before ++ glance :: later →
    order.Attempts remote before glance session →
    session.input.Fails glance.moment.now part failure → failure.kind ≠ .brokenPipe →
    (order.run remote glances).ending? = some (.returned (.error (.stream failure)))
  /-- So a call that returns an output has met no failure but broken pipes. -/
  complete : ∀ output, (order.run remote glances).ending? = some (.returned (.ok output)) →
    ∀ before glance later session part failure, glances = before ++ glance :: later →
      order.Attempts remote before glance session →
      session.input.Fails glance.moment.now part failure → failure.kind = .brokenPipe
  /-- A broken pipe is told, and leaves it to the output how the call ends. -/
  refused : ∀ before glance later session part failure, glances = before ++ glance :: later →
    order.Attempts remote before glance session →
    session.input.Fails glance.moment.now part failure → failure.kind = .brokenPipe →
    .inputRefused ∈ (order.run remote (before ++ [glance])).events ∧
      ((order.run remote glances).StreamsOver →
        ∃ progress, .output progress ∈ order.polls remote glances ∧
          (order.run remote glances).ending? = progress.ending?)

/-- Failures of the input are heeded in every run of every order, but for broken pipes. -/
theorem failures_heeded (order : Order) (remote : Remote) (glances : List Glance) :
    order.FailuresHeeded remote glances := by
  have broken : ∀ before glance later session part failure, glances = before ++ glance :: later →
      order.Attempts remote before glance session →
      session.input.Fails glance.moment.now part failure → failure.kind ≠ .brokenPipe →
      (order.run remote glances).ending? = some (.returned (.error (.stream failure))) := by
    intro before glance later session part failure split attempts fails unbroken
    rcases attempts.polled with ⟨wish, polled, _⟩
    rw [Input.look_failed_iff.mpr ⟨unbroken, part, fails⟩] at polled
    rcases Call.next_of_calm attempts.streams attempts.calm remote with
      ⟨orderly, last, final, ended⟩
    have least := orderly.getLast?_of_settled polled Streaming.Progress.noConfusion
    rw [Option.some.inj (final.symm.trans least)] at ended
    rw [split, Order.run_of_last ended]
    exact ended
  constructor
  case broken => exact broken
  case complete =>
    intro output ended before glance later session part failure split attempts fails
    apply Classical.byContradiction
    intro unbroken
    have failed := broken before glance later session part failure split attempts fails unbroken
    cases ended.symm.trans failed
  case refused =>
    intro before glance later session part failure split attempts fails kind
    rcases attempts.polled with ⟨wish, polled, told⟩
    have refusal : .inputRefused ∈ (session.input.look glance.moment.now wish).events :=
      Input.inputRefused_mem_look_iff.mpr ⟨part, failure, fails, kind⟩
    rw [Input.look_told refusal rfl] at polled
    refine ⟨told _ refusal, fun closed => ?_⟩
    rcases Order.output_or_failed closed with output | ⟨other, _, undone, _⟩
    · exact output
    · rw [split] at undone
      exact absurd (order.pollsAt_subset_polls remote before later glance _ polled) undone

/-- A local read that is interrupted while the far side takes nothing is what the call returns. -/
example :
    (Order.run ⟨.pod "default" "web", ["cat"], none,
        some (.ofScript [.data [97], .fail ⟨.interrupted, "local read"⟩])⟩
      ⟨[], some ⟨.ofScript [.hang], .ofFailure none⟩, some [.awaitInputEnd, .data [98]], none, [],
        some (.exited 0)⟩
      (List.replicate 5 (.calm 0))).ending? =
        some (.returned (.error (.stream ⟨.interrupted, "local read"⟩))) := rfl

/-- An order to copy local input, which breaks off with a failure of its own. -/
def Order.cutShort : Order :=
  ⟨.pod "default" "web", ["cat"], none,
    some (.ofScript [.data [97], .fail ⟨.brokenPipe, "local read"⟩])⟩

/-- A server that takes input, and answers when it has been closed. -/
def Remote.answering : Remote :=
  ⟨[], some .ready, some [.awaitInputEnd, .data [98]], none, [], some (.exited 0)⟩

/-- A source that fails with a broken pipe is taken for a far side that has stopped reading: the
call returns as if its input had been complete. -/
theorem cutShort_completed :
    ∃ session output,
      Order.cutShort.Attempts .answering (List.replicate 4 (.calm 0)) (.calm 0) session ∧
      session.input.Fails 0 .source ⟨.brokenPipe, "local read"⟩ ∧
      (Order.cutShort.run .answering (List.replicate 4 (.calm 0) ++ [.calm 0])).ending? =
        some (.returned (.ok output)) := by
  refine ⟨.start Order.cutShort.stdin .answering, ⟨[98], [], .exited 0⟩, ?_, ?_, rfl⟩
  · exact ⟨rfl, rfl, rfl, .inl rfl⟩
  · -- The octet is read and written, and then the source is read again.
    exact ⟨_, rfl, .later rfl (.later rfl (.here rfl rfl))⟩

end PodCommand
