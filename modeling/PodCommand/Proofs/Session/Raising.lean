import PodCommand.Proofs.Session.Readiness

namespace PodCommand

/-!
Channels that fail.

`Script.Raises` says that a reader of a script comes to a failure, at some time or other, and
`Script.raised?` that it meets one now.  A failure that is there at a moment stays there while other
things happen at that moment, so a look at the streams ends with it, unless it meets another failure
first; nothing that is still pending can put it off.
-/

namespace Script

/-- A reader of the script comes to this failure. -/
inductive Raises (failure : StreamFailure) : Script → Prop
  | fail (rest : Script) : Raises failure (.fail failure :: rest)
  | pause {step : Step} {rest : Script} (pause : step.isPause = true)
      (later : Raises failure rest) : Raises failure (step :: rest)
  | accept {count : Nat} {rest : Script} (later : Raises failure rest) :
      Raises failure (.accept count :: rest)
  | data {bytes : Bytes} {rest : Script} (later : Raises failure rest) :
      Raises failure (.data bytes :: rest)

theorem Raises.of_held {failure : StreamFailure} {step as : Step} {rest : Script}
    (pause : as.isPause = true → step.isPause = true) (stays : as = .hang ∨ as.isPause = true)
    (raises : Raises failure (as :: rest)) : Raises failure (step :: rest) := by
  cases raises with
  | pause isPause later => exact .pause (pause isPause) later
  | _ => simp [Step.isPause] at stays

/-- A script that fails does not come to its end. -/
theorem Raises.not_delivers {failure : StreamFailure} {script : Script}
    (raises : script.Raises failure) {bytes : Bytes} : ¬ script.Delivers bytes := by
  intro delivers
  induction delivers with
  | ended => cases raises
  | pause pause _ ih =>
      cases raises with
      | pause _ later => exact ih later
      | _ => cases pause
  | accept _ ih =>
      cases raises with
      | pause impossible => cases impossible
      | accept later => exact ih later
  | data _ ih =>
      cases raises with
      | pause impossible => cases impossible
      | data later => exact ih later

/-- The failure that a reader meets before anything holds it back. -/
def raised? (around : Surroundings) : Script → Option StreamFailure
  | [] => none
  | step :: rest =>
    match step.meet around with
    | .held _ => none
    | .failed failure => some failure
    | _ => raised? around rest

theorem raised?_of_precedes {earlier later : Surroundings} (precedes : earlier.Precedes later)
    {script : Script} {failure : StreamFailure} (raised : script.raised? earlier = some failure) :
    script.raised? later = some failure := by
  induction script with
  | nil => cases raised
  | cons step rest ih =>
      rw [raised?] at raised ⊢
      by_cases holds : ∃ as, step.meet earlier = .held as
      · rcases holds with ⟨as, held⟩
        rw [held] at raised
        cases raised
      · rw [Step.meet_of_precedes precedes (not_exists.mp holds)]
        cases meeting : step.meet earlier with
        | held as => exact absurd ⟨as, meeting⟩ holds
        | passed | gaveUp | data | accepts =>
            rw [meeting] at raised
            exact ih raised
        | failed other =>
            rw [meeting] at raised
            exact raised

end Script

namespace Channel

variable {outlet : Outlet} {around : Surroundings} {cancelled : Bool}

theorem collect_failure (outlet : Outlet) (around : Surroundings) (captured : Bytes)
    (cancelled : Bool) (script : Script) :
    (collect outlet around captured cancelled script).failure = script.raised? around := by
  induction script generalizing captured cancelled with
  | nil => rfl
  | cons step rest ih =>
      rw [collect, Script.raised?]
      cases step.meet around with
      | held | failed => rfl
      | passed | gaveUp | data | accepts => exact ih _ _

/-- A failure that reading comes to is one of the script, and the last thing that is told. -/
theorem collect_raises {captured : Bytes} {script : Script} {failure : StreamFailure}
    (broken : (collect outlet around captured cancelled script).failure = some failure) :
    script.Raises failure ∧ ∃ reads : List Bytes,
      (collect outlet around captured cancelled script).events =
        reads.map (.read outlet) ++ [.broken outlet failure] := by
  induction script generalizing captured cancelled with
  | nil => cases broken
  | cons step rest ih =>
      have met := step.met around
      rw [collect] at broken ⊢
      cases meeting : step.meet around <;> rw [meeting] at met broken <;> cases met
      case passed pause => exact (ih broken).imp_left (.pause pause)
      case gaveUp same =>
        subst same
        exact (ih broken).imp_left (.pause rfl)
      case accepts count same =>
        subst same
        exact (ih broken).imp_left .accept
      case held => cases broken
      case data chunk same =>
        subst same
        rcases ih broken with ⟨raises, reads, told⟩
        refine ⟨.data raises, chunk :: reads, ?_⟩
        dsimp only
        rw [told, List.map_cons, List.cons_append]
      case failed other same =>
        subst same
        cases broken
        exact ⟨.fail rest, [], rfl⟩

/-- What is left to fail after a look was there to fail before it. -/
theorem collect_rest_raises {captured : Bytes} {script : Script}
    (sound : (collect outlet around captured cancelled script).failure = none)
    {failure : StreamFailure}
    (raises : ((collect outlet around captured cancelled script).channel.script.getD []).Raises
      failure) : script.Raises failure := by
  induction script generalizing captured cancelled with
  | nil => cases raises
  | cons step rest ih =>
      have met := step.met around
      rw [collect] at sound raises
      cases meeting : step.meet around <;> rw [meeting] at met sound raises <;> cases met
      case passed pause => exact .pause pause (ih sound raises)
      case gaveUp same =>
        subst same
        exact .pause rfl (ih sound raises)
      case accepts count same =>
        subst same
        exact .accept (ih sound raises)
      case held as pause stays => exact .of_held pause stays raises
      case data chunk same =>
        subst same
        exact .data (ih sound raises)
      case failed => cases sound

/-- A look at a channel fails with the failure that is there, and tells it last. -/
theorem look_raises {channel : Channel} {failure : StreamFailure}
    (broken : (channel.look outlet around cancelled).failure = some failure) :
    (channel.script.getD []).Raises failure ∧ ∃ reads : List Bytes,
      (channel.look outlet around cancelled).events =
        reads.map (.read outlet) ++ [.broken outlet failure] := by
  unfold look at broken ⊢
  cases present : channel.script with
  | none =>
      rw [present] at broken
      cases broken
  | some script =>
      rw [present] at broken
      exact collect_raises broken

theorem look_rest_raises {channel : Channel}
    (sound : (channel.look outlet around cancelled).failure = none) {failure : StreamFailure}
    (raises : ((channel.look outlet around cancelled).channel.script.getD []).Raises failure) :
    (channel.script.getD []).Raises failure := by
  unfold look at sound raises
  cases present : channel.script with
  | none =>
      rw [present] at raises
      rwa [present] at raises
  | some script =>
      rw [present] at sound raises
      exact collect_rest_raises sound raises

end Channel

namespace Streaming

/-- The failure that reading a channel of the session meets at a moment. -/
def raised? (now : Instant) (session : Streaming) (outlet : Outlet) : Option StreamFailure :=
  ((session.channel outlet).script.getD []).raised? (session.input.surroundings now)

section

variable {now : Instant} {session : Streaming} {outlet : Outlet} {failure : StreamFailure}

theorem look_failure (now : Instant) (outlet : Outlet) (cancelled : Bool) (session : Streaming) :
    ((session.channel outlet).look outlet (session.input.surroundings now) cancelled).failure =
      session.raised? now outlet := by
  unfold raised? Channel.look
  cases (session.channel outlet).script with
  | none => rfl
  | some script => exact Channel.collect_failure outlet _ _ cancelled script

theorem lookChannel_of_raised (raised : session.raised? now outlet = some failure)
    (cancelled : Bool) :
    (session.lookChannel now outlet cancelled).progress = .failed failure ∧
      .broken outlet failure ∈ (session.lookChannel now outlet cancelled).events := by
  have broken := (look_failure now outlet cancelled session).trans raised
  have told := Channel.look_broken broken
  unfold lookChannel
  simp only [broken]
  exact ⟨trivial, told⟩

theorem lookChannel_of_sound (sound : session.raised? now outlet = none) (cancelled : Bool) :
    (session.lookChannel now outlet cancelled).progress = .pending ∧
      ∀ other, outlet ≠ other →
        (session.lookChannel now outlet cancelled).session.raised? now other =
          session.raised? now other := by
  have whole := (look_failure now outlet cancelled session).trans sound
  have input := lookChannel_input now outlet cancelled session
  unfold lookChannel at input ⊢
  simp only [whole] at input ⊢
  refine ⟨trivial, fun other different => ?_⟩
  unfold raised?
  rw [input, channel_withChannel_of_ne session different]

/-- Where one of two channels fails, reading them one after the other ends with its failure or with
the other's. -/
theorem followedBy_of_raised (raised : session.raised? now outlet = some failure)
    {first second : Outlet} (either : outlet = first ∨ outlet = second) (cancelled : Bool) :
    let look := (session.lookChannel now first cancelled).followedBy (lookChannel now second)
    ∃ other found, look.progress = .failed found ∧ .broken other found ∈ look.events ∧
      session.raised? now other = some found := by
  dsimp only
  cases early : session.raised? now first with
  | some found =>
      rcases lookChannel_of_raised early cancelled with ⟨failed, told⟩
      have stopped : (session.lookChannel now first cancelled).progress ≠ .pending := by
        rw [failed]
        exact Progress.noConfusion
      rw [Look.followedBy_of_ne_pending stopped]
      exact ⟨first, found, failed, told, early⟩
  | none =>
      have different : first ≠ outlet := by
        rintro rfl
        cases early.symm.trans raised
      have same : outlet = second := either.resolve_left (Ne.symm different)
      subst same
      rcases lookChannel_of_sound early cancelled with ⟨pending, kept⟩
      have later := (kept outlet different).trans raised
      rcases lookChannel_of_raised later (session.lookChannel now first cancelled).cancelled with
        ⟨failed, told⟩
      rw [Look.followedBy_of_pending pending]
      exact ⟨outlet, failure, failed, List.mem_append_right _ told, raised⟩

theorem drain_of_raised (raised : session.raised? now outlet = some failure)
    (stderrFirst cancelled : Bool) :
    ∃ other found, (session.drain now stderrFirst cancelled).progress = .failed found ∧
      .broken other found ∈ (session.drain now stderrFirst cancelled).events ∧
      session.raised? now other = some found := by
  unfold drain
  cases stderrFirst with
  | true =>
      apply followedBy_of_raised raised
      cases outlet <;> simp
  | false =>
      apply followedBy_of_raised raised
      cases outlet <;> simp

theorem lookOutput_of_raised (raised : session.raised? now outlet = some failure)
    (stderrFirst cancelled : Bool) :
    ∃ other found, (session.lookOutput now stderrFirst cancelled).progress = .failed found ∧
      .broken other found ∈ (session.lookOutput now stderrFirst cancelled).events ∧
      session.raised? now other = some found := by
  rcases drain_of_raised raised stderrFirst cancelled with ⟨other, found, failed, told, there⟩
  have stopped : (session.drain now stderrFirst cancelled).progress ≠ .pending := by
    rw [failed]
    exact Progress.noConfusion
  unfold lookOutput
  rw [Look.followedBy_of_ne_pending stopped]
  exact ⟨other, found, failed, told, there⟩

/-- A channel that fails still fails after a look at the input. -/
theorem raised?_lookInput (unshut : session.input.closed = false)
    (raised : session.raised? now outlet = some failure) (cancelled : Bool) :
    (session.lookInput now cancelled).session.raised? now outlet = some failure := by
  have later := Script.raised?_of_precedes (look_precedes unshut now cancelled) raised
  rw [lookInput_session]
  unfold raised?
  cases outlet <;> exact later

/-- How a look ends at a moment at which a channel fails: with its failure, unless the other channel
or forwarding fails as well. -/
def Look.EndsWith (look : Look) (outlet : Outlet) (failure : StreamFailure) : Prop :=
  ∃ found, look.progress = .failed found ∧
    (found = failure ∨ (∃ other, other ≠ outlet ∧ .broken other found ∈ look.events) ∨
      .inputFailed found ∈ look.events)

theorem endsWith_lookOutput (raised : session.raised? now outlet = some failure)
    (stderrFirst cancelled : Bool) :
    (session.lookOutput now stderrFirst cancelled).EndsWith outlet failure := by
  rcases lookOutput_of_raised raised stderrFirst cancelled with ⟨other, found, failed, told, there⟩
  refine ⟨found, failed, ?_⟩
  by_cases same : other = outlet
  · subst same
    exact .inl (Option.some.inj (there.symm.trans raised))
  · exact .inr (.inl ⟨other, same, told⟩)

theorem Look.EndsWith.followedBy {first : Look} (pending : first.progress = .pending)
    {second : Bool → Streaming → Look}
    (ends : (second first.cancelled first.session).EndsWith outlet failure) :
    (first.followedBy second).EndsWith outlet failure := by
  rcases ends with ⟨found, failed, why⟩
  rw [Look.followedBy_of_pending pending]
  refine ⟨found, failed, why.imp_right fun rest => ?_⟩
  rcases rest with ⟨other, different, told⟩ | told
  · exact .inl ⟨other, different, List.mem_append_right _ told⟩
  · exact .inr (List.mem_append_right _ told)

theorem endsWith_look (unshut : session.input.forwarding = true → session.input.closed = false)
    (raised : session.raised? now outlet = some failure) (choices : Choices) (cancelled : Bool) :
    (session.look choices now cancelled).EndsWith outlet failure := by
  have output := endsWith_lookOutput raised choices.stderrFirst cancelled
  unfold Streaming.look
  dsimp only
  cases forwarding : session.input.forwarding with
  | false => exact output
  | true =>
      simp only [Bool.not_true, Bool.false_eq_true, if_false]
      split
      · by_cases pending : (session.lookInput now cancelled).progress = .pending
        · apply Look.EndsWith.followedBy pending
          exact endsWith_lookOutput (raised?_lookInput (unshut forwarding) raised cancelled) _ _
        · rcases inputFailed_of_ne_pending pending with ⟨found, failed, told⟩
          rw [Look.followedBy_of_ne_pending pending]
          exact ⟨found, failed, .inr (.inr told)⟩
      · -- The output side fails before the input is looked at.
        have stopped :
            (session.lookOutput now choices.stderrFirst cancelled).progress ≠ .pending := by
          rcases output with ⟨found, failed, -⟩
          rw [failed]
          exact Progress.noConfusion
        rw [Look.followedBy_of_ne_pending stopped, Look.followedBy_of_ne_pending stopped]
        exact output

end

end Streaming
end PodCommand
