import PodCommand.Session.Channel

namespace PodCommand

/-!
What a script comes to, told from the script alone.

`Script.Delivers` says what a reader of a script has read when it comes to the end without an error,
and `Script.ComesTo` says how playing a script that is not read from ends.  Neither mentions a clock
or a look: pauses, however long, change nothing in what follows them.  The theorems here tie the
machines `Channel.collect` and `Script.play`, which stop at every step that holds, to these two
relations, by way of what is left of a script.
-/

namespace Step

/-- Whether a step only keeps its place for a while: it carries nothing and fails nothing.  A step
that never passes is none. -/
def isPause : Step → Bool
  | wait _ | sleep _ | cancel | awaitInput _ | awaitInputEnd => true
  | _ => false

/-- What a step can be if it is met in a certain way. -/
inductive Met (step : Step) : Meeting → Prop
  | passed (pause : step.isPause = true) : Met step .passed
  | gaveUp (same : step = .cancel) : Met step .gaveUp
  | held {as : Step} (pause : as.isPause = true → step.isPause = true)
      (stays : as = .hang ∨ as.isPause = true) : Met step (.held as)
  | data {bytes : Bytes} (same : step = .data bytes) : Met step (.data bytes)
  | failed {failure : StreamFailure} (same : step = .fail failure) : Met step (.failed failure)
  | accepts {count : Nat} (same : step = .accept count) : Met step (.accepts count)

theorem met (step : Step) (around : Surroundings) : step.Met (step.meet around) := by
  cases step with
  | wait span =>
      simp only [meet]
      split
      · exact .passed rfl
      · exact .held (fun _ => rfl) (Or.inr rfl)
  | sleep wake =>
      simp only [meet]
      split
      · exact .passed rfl
      · exact .held (fun _ => rfl) (Or.inr rfl)
  | data bytes => exact .data rfl
  | fail failure => exact .failed rfl
  | hang => exact .held id (Or.inl rfl)
  | cancel => exact .gaveUp rfl
  | accept count => exact .accepts rfl
  | awaitInput count =>
      simp only [meet]
      split
      · exact .passed rfl
      · exact .held (fun _ => rfl) (Or.inr rfl)
  | awaitInputEnd =>
      simp only [meet]
      split
      · exact .passed rfl
      · exact .held (fun _ => rfl) (Or.inr rfl)

end Step

namespace Script

/-! ## Reading a script to its end -/

/-- A reader of the script comes to its end without an error, and has read these octets by then. -/
inductive Delivers : Script → Bytes → Prop
  | ended : Delivers [] []
  | pause {step : Step} {rest : Script} {bytes : Bytes} (pause : step.isPause = true)
      (later : Delivers rest bytes) : Delivers (step :: rest) bytes
  | accept {count : Nat} {rest : Script} {bytes : Bytes} (later : Delivers rest bytes) :
      Delivers (.accept count :: rest) bytes
  | data {chunk : Bytes} {rest : Script} {bytes : Bytes} (later : Delivers rest bytes) :
      Delivers (.data chunk :: rest) (chunk ++ bytes)

/-- What is read is the octets of the data steps, all of them and in order. -/
theorem Delivers.eq_bytes {script : Script} {read : Bytes} (delivers : script.Delivers read) :
    read = script.bytes := by
  induction delivers with
  | ended => rfl
  | @pause step rest bytes pause later ih =>
      cases step <;> first | exact ih | cases pause
  | accept later ih => exact ih
  | @data chunk rest bytes later ih =>
      rw [ih]
      rfl

/-- What holds back a script in another form delivers what it did. -/
theorem Delivers.of_held {step as : Step} {rest : Script} {bytes : Bytes}
    (pause : as.isPause = true → step.isPause = true) (stays : as = .hang ∨ as.isPause = true)
    (delivers : Script.Delivers (as :: rest) bytes) : Script.Delivers (step :: rest) bytes := by
  cases delivers with
  | pause isPause later => exact .pause (pause isPause) later
  | _ => simp [Step.isPause] at stays

/-! ## Playing a script that is not read from -/

/-- Playing the script ends, with a failure or without one.  What follows data or the readiness to
take some is not played. -/
inductive ComesTo : Script → Option StreamFailure → Prop
  | ended : ComesTo [] none
  | pause {step : Step} {rest : Script} {outcome : Option StreamFailure}
      (pause : step.isPause = true) (later : ComesTo rest outcome) : ComesTo (step :: rest) outcome
  | data (bytes : Bytes) (rest : Script) : ComesTo (.data bytes :: rest) none
  | accept (count : Nat) (rest : Script) : ComesTo (.accept count :: rest) none
  | fail (failure : StreamFailure) (rest : Script) : ComesTo (.fail failure :: rest) (some failure)

theorem ComesTo.of_held {step as : Step} {rest : Script} {outcome : Option StreamFailure}
    (pause : as.isPause = true → step.isPause = true) (stays : as = .hang ∨ as.isPause = true)
    (comes : ComesTo (as :: rest) outcome) : ComesTo (step :: rest) outcome := by
  cases comes with
  | pause isPause later => exact .pause (pause isPause) later
  | _ => simp [Step.isPause] at stays

/-- When playing is over, the script has come to the outcome. -/
theorem comesTo_of_over {around : Surroundings} {cancelled : Bool} {script : Script}
    {outcome : Option StreamFailure} (stopped : (script.play around cancelled).1 = .over outcome) :
    script.ComesTo outcome := by
  induction script generalizing cancelled with
  | nil =>
      cases stopped
      exact .ended
  | cons step rest ih =>
      have met := step.met around
      rw [play] at stopped
      cases meeting : step.meet around <;> rw [meeting] at met stopped <;> cases met
      case passed pause => exact .pause pause (ih stopped)
      case gaveUp same =>
        subst same
        exact .pause rfl (ih stopped)
      case held => cases stopped
      case data bytes same =>
        subst same
        cases stopped
        exact .data _ _
      case failed failure same =>
        subst same
        cases stopped
        exact .fail _ _
      case accepts count same =>
        subst same
        cases stopped
        exact .accept _ _

/-- While playing is held up, what is left comes to what the whole comes to. -/
theorem comesTo_of_held {around : Surroundings} {cancelled : Bool} {script : Script}
    {outcome : Option StreamFailure} (held : (script.play around cancelled).1 = .held)
    (comes : (script.play around cancelled).2.1.ComesTo outcome) : script.ComesTo outcome := by
  induction script generalizing cancelled with
  | nil => cases held
  | cons step rest ih =>
      have met := step.met around
      rw [play] at held comes
      cases meeting : step.meet around <;> rw [meeting] at met held comes <;> cases met
      case passed pause => exact .pause pause (ih held comes)
      case gaveUp same =>
        subst same
        exact .pause rfl (ih held comes)
      case held as pause stays => exact .of_held pause stays comes
      all_goals cases held

end Script
end PodCommand
