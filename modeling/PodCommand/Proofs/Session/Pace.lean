import PodCommand.Proofs.Session.Feeding
import PodCommand.Session.Schedule

namespace PodCommand

/-!
Streams whose outputs wait for nothing but the clock.

A timed script holds data and pauses on the clock, and `Script.finish` is the instant at which it
comes to its end if every pause begins when it is reached.  A look changes nothing in that, and
neither does the clock when it moves on to the end of a pause.  So a look at timed outputs, with an
input that spoils nothing, brings the streams to their end or leaves one of the outputs asleep until
an instant that is known beforehand; and there is less to come after each look at which some pause
has run out.
-/

/-- Whether a step carries data or is a pause on the clock. -/
def Step.isTimed : Step → Bool
  | wait _ | sleep _ | data _ => true
  | _ => false

namespace Script

/-- A script of data and of pauses on the clock. -/
def Timed (script : Script) : Prop := ∀ step ∈ script, step.isTimed = true

theorem Timed.tail {step : Step} {rest : Script} (timed : Timed (step :: rest)) : rest.Timed :=
  fun other member => timed other (List.mem_cons_of_mem _ member)

/-- When a timed script that is read from an instant on comes to its end. -/
def finish (now : Instant) : Script → Instant
  | [] => now
  | .wait span :: rest => finish (now + span.nanos) rest
  | .sleep wake :: rest => finish (max now wake) rest
  | _ :: rest => finish now rest

theorem le_finish (now : Instant) (script : Script) : now ≤ script.finish now := by
  induction script generalizing now with
  | nil => exact Nat.le_refl now
  | cons step rest ih =>
      cases step with
      | wait span => exact Nat.le_trans (Nat.le_add_right now span.nanos) (ih _)
      | sleep wake => exact Nat.le_trans (Nat.le_max_left now wake) (ih _)
      | _ => exact ih now

/-- A script begins with a pause that is not over yet. -/
def Asleep (now : Instant) (script : Script) : Prop :=
  ∃ wake, script.wake? = some wake ∧ now < wake

/-- A script that begins with a pause does not end before the pause does. -/
theorem wake_le_finish {script : Script} {wake : Instant} (fixed : script.wake? = some wake)
    (now : Instant) : wake ≤ script.finish now := by
  rcases exists_of_wake? fixed with ⟨rest, rfl⟩
  exact Nat.le_trans (Nat.le_max_right now wake) (le_finish _ rest)

/-- The clock may move on up to the end of the pause at the front. -/
theorem finish_later {script : Script} {wake : Instant} (fixed : script.wake? = some wake)
    {now later : Instant} (onward : now ≤ later) (upTo : later ≤ wake) :
    script.finish later = script.finish now := by
  rcases exists_of_wake? fixed with ⟨rest, rfl⟩
  rw [finish, finish, Nat.max_eq_right upTo, Nat.max_eq_right (Nat.le_trans onward upTo)]

end Script

namespace Channel

/-- How much is still to come of a channel. -/
def ahead (channel : Channel) : Nat := (channel.script.getD []).length

/-- What is left of a channel is timed and comes to its end by an instant. -/
def OnTime (now total : Instant) (channel : Channel) : Prop :=
  ∀ script, channel.script = some script → script.Timed ∧ script.finish now ≤ total

/-- A channel that has not ended is asleep. -/
def Waits (now : Instant) (channel : Channel) : Prop :=
  ∀ script, channel.script = some script → script.Asleep now

/-- What a look makes of a channel that is on time. -/
structure Advances (now total : Instant) (before after : Channel) : Prop where
  onTime : after.OnTime now total
  waits : after.Waits now
  fewer : after.ahead ≤ before.ahead
  due : (before.script.getD []).Due now → after.ahead < before.ahead

/-- What a look comes to that has read from a timed script, if at most so many steps are left. -/
structure Look.Timed (now total : Instant) (cancelled : Bool) (steps : Nat) (look : Look) :
    Prop where
  sound : look.failure = none
  cancelled : look.cancelled = cancelled
  onTime : look.channel.OnTime now total
  waits : look.channel.Waits now
  fewer : look.channel.ahead ≤ steps

theorem Look.Timed.succ {now total : Instant} {cancelled : Bool} {steps : Nat} {look : Look}
    (timed : look.Timed now total cancelled steps) : look.Timed now total cancelled (steps + 1) :=
  { timed with fewer := Nat.le_succ_of_le timed.fewer }

/-- A script that begins with a pause is held there. -/
theorem timed_of_sleep {now wake total : Instant} {rest : Script} (timed : rest.Timed)
    (asleep : now < wake) (inTime : rest.finish wake ≤ total) (captured : Bytes)
    (cancelled : Bool) :
    Look.Timed now total cancelled (rest.length + 1)
      ⟨⟨some (.sleep wake :: rest), captured⟩, none, cancelled, []⟩ where
  sound := rfl
  cancelled := rfl
  onTime := by
    intro script same
    cases same
    refine ⟨fun step member => ?_, ?_⟩
    · rcases List.mem_cons.mp member with here | there
      · rw [here]
        rfl
      · exact timed step there
    · rw [Script.finish, Nat.max_eq_right (Nat.le_of_lt asleep)]
      exact inTime
  waits := by
    intro script same
    cases same
    exact ⟨wake, rfl, asleep⟩
  fewer := Nat.le_refl _

/-- A timed script is read up to a pause that is not over, without a failure. -/
theorem collect_timed {script : Script} (timed : script.Timed) {around : Surroundings}
    {total : Instant} (inTime : script.finish around.now ≤ total) (outlet : Outlet)
    (captured : Bytes) (cancelled : Bool) :
    (collect outlet around captured cancelled script).Timed around.now total cancelled
      script.length := by
  induction script generalizing captured with
  | nil =>
      refine ⟨rfl, rfl, ?_, ?_, Nat.le_refl 0⟩
      · rintro script ⟨⟩
      · rintro script ⟨⟩
  | cons step rest ih =>
      cases step with
      | wait span =>
          rw [Script.finish] at inTime
          rw [collect, Step.meet]
          by_cases instantly : span.nanos = 0
          · simp only [if_pos instantly]
            rw [instantly, Nat.add_zero] at inTime
            exact (ih timed.tail inTime captured).succ
          · simp only [if_neg instantly]
            have asleep : around.now < around.now + span.nanos :=
              Nat.lt_add_of_pos_right (Nat.pos_of_ne_zero instantly)
            exact timed_of_sleep timed.tail asleep inTime captured cancelled
      | sleep wake =>
          rw [Script.finish] at inTime
          rw [collect, Step.meet]
          by_cases passed : wake ≤ around.now
          · simp only [if_pos passed]
            rw [Nat.max_eq_left passed] at inTime
            exact (ih timed.tail inTime captured).succ
          · simp only [if_neg passed]
            have asleep : around.now < wake := Nat.lt_of_not_le passed
            rw [Nat.max_eq_right (Nat.le_of_lt asleep)] at inTime
            exact timed_of_sleep timed.tail asleep inTime captured cancelled
      | data bytes =>
          have read := ih timed.tail inTime (captured ++ bytes)
          rw [collect, Step.meet]
          exact ⟨read.sound, read.cancelled, read.onTime, read.waits, read.succ.fewer⟩
      | _ => cases timed _ List.mem_cons_self

/-- A look at a channel that is on time. -/
theorem look_onTime {channel : Channel} (around : Surroundings) {total : Instant}
    (onTime : channel.OnTime around.now total) (outlet : Outlet) (cancelled : Bool) :
    (channel.look outlet around cancelled).failure = none ∧
      (channel.look outlet around cancelled).cancelled = cancelled ∧
      channel.Advances around.now total (channel.look outlet around cancelled).channel := by
  cases present : channel.script with
  | none =>
      simp only [look, present]
      refine ⟨trivial, trivial, onTime, ?_, Nat.le_refl _, ?_⟩
      · intro script same
        cases present.symm.trans same
      · rw [present]
        rintro ⟨wake, fixed, _⟩
        cases fixed
  | some script =>
      rcases onTime script present with ⟨timed, inTime⟩
      have whole : channel.ahead = script.length := by
        rw [ahead, present]
        rfl
      have read := collect_timed timed inTime outlet channel.captured cancelled
      simp only [look, present]
      refine ⟨read.sound, read.cancelled, read.onTime, read.waits, ?_, ?_⟩
      · rw [whole]
        exact read.fewer
      · rw [whole, present]
        rintro ⟨wake, fixed, passed⟩
        rcases Script.exists_of_wake? fixed with ⟨rest, rfl⟩
        rw [Script.finish, Nat.max_eq_left passed] at inTime
        have met : Step.meet around (.sleep wake) = .passed := if_pos passed
        rw [collect, met]
        exact Nat.lt_succ_of_le
          (collect_timed timed.tail inTime outlet channel.captured cancelled).fewer

/-- A channel that waits can wait until its pause is over, and no longer. -/
theorem OnTime.later {now total later : Instant} {channel : Channel}
    (onTime : channel.OnTime now total) (waits : channel.Waits now) (onward : now ≤ later)
    (upTo : ∀ wake, (channel.script.getD []).wake? = some wake → later ≤ wake) :
    channel.OnTime later total := by
  intro script present
  rcases onTime script present with ⟨timed, inTime⟩
  rcases waits script present with ⟨wake, fixed, _⟩
  rw [present] at upTo
  exact ⟨timed, by rwa [Script.finish_later fixed onward (upTo wake fixed)]⟩

end Channel

namespace Streaming

/-- Outputs on time, an input that spoils nothing, and a status that is told when it is asked
for. -/
structure OnTime (now total : Instant) (session : Streaming) : Prop where
  channel : ∀ outlet, (session.channel outlet).OnTime now total
  answers : session.statusScript = []
  input : session.input.Harmless

/-- How much is still to come of a session. -/
def ahead (session : Streaming) : Nat :=
  session.stdout.ahead + session.stderr.ahead + session.input.load

/-- Some pause in a session has run out. -/
def Due (now : Instant) (session : Streaming) : Prop :=
  (∃ outlet, ((session.channel outlet).script.getD []).Due now) ∨
    ∃ script ∈ session.input.awaited, script.Due now

/-- What a look makes of a session on time that it does not bring to its end. -/
structure Advances (now total : Instant) (before after : Streaming) : Prop where
  onTime : after.OnTime now total
  waits : ∀ outlet, (after.channel outlet).Waits now
  unended : ∃ outlet, (after.channel outlet).hasEnded = false
  fewer : after.ahead ≤ before.ahead
  due : before.Due now → after.ahead < before.ahead

section

variable {now total : Instant} {session : Streaming}

theorem lookChannel_onTime {outlet : Outlet} (onTime : (session.channel outlet).OnTime now total)
    (cancelled : Bool) :
    ∃ channel events, session.lookChannel now outlet cancelled =
        ⟨session.withChannel outlet channel, .pending, cancelled, events⟩ ∧
      (session.channel outlet).Advances now total channel := by
  rcases Channel.look_onTime (session.input.surroundings now) onTime outlet cancelled with
    ⟨sound, same, advances⟩
  refine ⟨_, (session.lookChannel now outlet cancelled).events, ?_, advances⟩
  unfold lookChannel
  simp only [sound, same]

/-- Reading both outputs changes nothing else. -/
theorem drain_onTime (onTime : session.OnTime now total) (cancelled : Bool) :
    ∃ stdout stderr events, session.drain now false cancelled =
        ⟨{ session with stdout, stderr }, .pending, cancelled, events⟩ ∧
      session.stdout.Advances now total stdout ∧ session.stderr.Advances now total stderr := by
  rcases lookChannel_onTime (onTime.channel .output) cancelled with
    ⟨stdout, first, looked, output⟩
  have untouched : ((session.withChannel .output stdout).channel .errors).OnTime now total :=
    onTime.channel .errors
  rcases lookChannel_onTime untouched cancelled with ⟨stderr, second, looked', errors⟩
  refine ⟨stdout, stderr, first ++ second, ?_, output, errors⟩
  simp only [drain, Bool.false_eq_true, if_false, looked]
  rw [Look.followedBy_of_pending rfl, looked']
  rfl

theorem lookInput_onTime (harmless : session.input.Harmless)
    (forwarding : session.input.forwarding = true) (now : Instant) (cancelled : Bool) :
    ∃ input events, session.lookInput now cancelled =
        ⟨{ session with input }, .pending, cancelled, events⟩ ∧
      input.Harmless ∧ input.load ≤ session.input.load ∧
      ((∃ script ∈ session.input.awaited, script.Due now) → input.load < session.input.load) := by
  have fed := Input.look_fed harmless forwarding now cancelled
  refine ⟨_, (session.input.look now cancelled).events, ?_, fed.harmless, fed.fewer, fed.due⟩
  unfold lookInput
  cases outcome : (session.input.look now cancelled).outcome with
  | failed failure => exact absurd outcome (fed.unfailed failure)
  | _ => simp only [outcome, fed.cancelled]

/-- A look at the output side ends the session or leaves one of the outputs asleep. -/
theorem lookOutput_onTime (onTime : session.OnTime now total) (cancelled : Bool) :
    ∃ stdout stderr,
      session.stdout.Advances now total stdout ∧ session.stderr.Advances now total stderr ∧
      (session.lookOutput now false cancelled).cancelled = cancelled ∧
      ((session.lookOutput now false cancelled).progress = .pending →
        (session.lookOutput now false cancelled).session = { session with stdout, stderr } ∧
          (stdout.hasEnded && stderr.hasEnded) = false) := by
  rcases drain_onTime onTime cancelled with ⟨stdout, stderr, events, drained, output, errors⟩
  refine ⟨stdout, stderr, output, errors, ?_⟩
  unfold lookOutput
  rw [drained, Look.followedBy_of_pending rfl]
  by_cases ended : (stdout.hasEnded && stderr.hasEnded) = true
  · have answered : ∀ around,
        session.statusScript.play around cancelled = (.over none, [], cancelled) := by
      intro around
      rw [onTime.answers]
      rfl
    simp only [if_pos ended, askStatus, answered, conclusion]
    refine ⟨trivial, fun pending => ?_⟩
    split at pending <;> cases pending
  · simp only [if_neg ended]
    exact ⟨trivial, fun _ => ⟨trivial, Bool.eq_false_iff.mpr ended⟩⟩

/-- A session advances with its sides, as long as one of its outputs has not ended. -/
theorem Advances.of_sides {input : Input} {stdout stderr : Channel}
    (answers : session.statusScript = []) (harmless : input.Harmless)
    (fed : input.load ≤ session.input.load)
    (feeds : (∃ script ∈ session.input.awaited, script.Due now) → input.load < session.input.load)
    (output : session.stdout.Advances now total stdout)
    (errors : session.stderr.Advances now total stderr)
    (unended : (stdout.hasEnded && stderr.hasEnded) = false) :
    session.Advances now total { session with input, stdout, stderr } where
  onTime := by
    refine ⟨fun outlet => ?_, answers, harmless⟩
    cases outlet with
    | output => exact output.onTime
    | errors => exact errors.onTime
  waits := by
    intro outlet
    cases outlet with
    | output => exact output.waits
    | errors => exact errors.waits
  unended := by
    rcases Bool.and_eq_false_iff.mp unended with first | second
    · exact ⟨.output, first⟩
    · exact ⟨.errors, second⟩
  fewer := Nat.add_le_add (Nat.add_le_add output.fewer errors.fewer) fed
  due := by
    have first := output.fewer
    have second := errors.fewer
    simp only [ahead]
    rintro (⟨outlet, ready⟩ | ready)
    · cases outlet with
      | output =>
          have less := output.due ready
          omega
      | errors =>
          have less := errors.due ready
          omega
    · have less := feeds ready
      omega

/-- A look at a session on time ends it or leaves one of the outputs asleep, and there is less to
come after it if some pause had run out. -/
theorem look_onTime (onTime : session.OnTime now total) (cancelled : Bool) :
    (session.look Schedule.choices now cancelled).cancelled = cancelled ∧
      ((session.look Schedule.choices now cancelled).progress = .pending →
        session.Advances now total (session.look Schedule.choices now cancelled).session) := by
  unfold look
  dsimp only
  by_cases forwarding : session.input.forwarding = true
  · simp only [forwarding, Bool.not_true, Bool.false_eq_true, if_false, Schedule.choices, if_true]
    rcases lookInput_onTime onTime.input forwarding now cancelled with
      ⟨input, events, looked, harmless, fewer, due⟩
    have fed : OnTime now total { session with input } := by
      refine ⟨fun outlet => ?_, onTime.answers, harmless⟩
      cases outlet with
      | output => exact onTime.channel .output
      | errors => exact onTime.channel .errors
    rw [looked, Look.followedBy_of_pending rfl]
    rcases lookOutput_onTime fed cancelled with ⟨stdout, stderr, output, errors, same, pending⟩
    refine ⟨same, fun waits => ?_⟩
    rcases pending waits with ⟨left, unended⟩
    dsimp only
    rw [left]
    exact .of_sides onTime.answers harmless fewer due output errors unended
  · simp only [Bool.not_eq_true] at forwarding
    simp only [forwarding, Bool.not_false, if_true, Schedule.choices]
    rcases lookOutput_onTime onTime cancelled with ⟨stdout, stderr, output, errors, same, pending⟩
    refine ⟨same, fun waits => ?_⟩
    rcases pending waits with ⟨left, unended⟩
    rw [left]
    refine .of_sides onTime.answers onTime.input (Nat.le_refl _) ?_ output errors unended
    -- Nothing is waited for where nothing is forwarded.
    rintro ⟨script, listed, _⟩
    rw [Input.awaited_of_over forwarding] at listed
    cases listed

end

end Streaming
end PodCommand
