import PodCommand.Proofs.Session.Streams

namespace PodCommand
namespace Streaming

/-!
When one look at the streams of a session brings them to their end.

`Ready` asks that nothing hold back what is left of the two channels and of the answer how the
command ended.  What the input takes meanwhile only lets more of it pass, so a session that is ready
stays ready through the look, and the look finishes it whatever it looks at first, unless forwarding
fails.
-/

/-- Nothing that the output side waits for is held back at a moment. -/
structure Ready (now : Instant) (session : Streaming) : Prop where
  clear : ∀ outlet,
    ((session.channel outlet).script.getD []).Clear (session.input.surroundings now)
  answers : (session.statusScript.play (session.input.surroundings now) false).1 ≠ .held
  status : session.status.isSome = true

section

variable {now : Instant} {session : Streaming}

/-- A session that is ready reads a channel to its end, and is ready after that. -/
theorem Ready.lookChannel (ready : session.Ready now) (outlet : Outlet) (cancelled : Bool) :
    (session.lookChannel now outlet cancelled).progress = .pending ∧
      (session.lookChannel now outlet cancelled).session.Ready now ∧
      ∀ other, other = outlet ∨ (session.channel other).hasEnded = true →
        ((session.lookChannel now outlet cancelled).session.channel other).hasEnded = true := by
  have sound := Channel.look_of_clear (ready.clear outlet) outlet cancelled
  unfold Streaming.lookChannel
  simp only [sound.1]
  refine ⟨trivial, ⟨fun other => ?_, ?_, ?_⟩, fun other => ?_⟩
  · rw [withChannel_input]
    by_cases same : outlet = other
    · subst same
      rw [channel_withChannel, Option.isNone_iff_eq_none.mp sound.2]
      exact fun _ member => absurd member List.not_mem_nil
    · rw [channel_withChannel_of_ne session same]
      exact ready.clear other
  · rw [withChannel_input, withChannel_statusScript]
    exact ready.answers
  · rw [withChannel_status]
    exact ready.status
  · intro ended
    by_cases same : outlet = other
    · subst same
      rw [channel_withChannel]
      exact sound.2
    · rw [channel_withChannel_of_ne session same]
      exact ended.resolve_left (Ne.symm same)

/-- A session that is ready reads both channels to their ends. -/
theorem Ready.drain (ready : session.Ready now) (stderrFirst cancelled : Bool) :
    (session.drain now stderrFirst cancelled).progress = .pending ∧
      (session.drain now stderrFirst cancelled).session.Ready now ∧
      ∀ outlet,
        ((session.drain now stderrFirst cancelled).session.channel outlet).hasEnded = true := by
  have both : ∀ first second, first ≠ second →
      let look := (session.lookChannel now first cancelled).followedBy
        (Streaming.lookChannel now second)
      look.progress = .pending ∧ look.session.Ready now ∧
        ∀ outlet, (look.session.channel outlet).hasEnded = true := by
    intro first second different
    rcases ready.lookChannel first cancelled with ⟨pending, later, ended⟩
    rw [Look.followedBy_of_pending pending]
    rcases later.lookChannel second (session.lookChannel now first cancelled).cancelled with
      ⟨pending, last, kept⟩
    refine ⟨pending, last, fun outlet => kept outlet ?_⟩
    by_cases same : outlet = second
    · exact Or.inl same
    · refine Or.inr (ended outlet (Or.inl ?_))
      cases outlet <;> cases first <;> cases second <;>
        first | rfl | exact absurd rfl same | exact absurd rfl different
  unfold Streaming.drain
  cases stderrFirst with
  | true => exact both .errors .output Outlet.noConfusion
  | false => exact both .output .errors Outlet.noConfusion

/-- A session that is ready answers how the command ended. -/
theorem Ready.askStatus (ready : session.Ready now) (cancelled : Bool) :
    ∃ output, (session.askStatus now cancelled).progress = .finished output := by
  have around : (session.input.surroundings now).Precedes (session.input.surroundings now) :=
    ⟨rfl, Nat.le_refl _, id⟩
  have played := Script.play_of_precedes around ready.answers cancelled
  rcases Option.isSome_iff_exists.mp ready.status with ⟨status, present⟩
  unfold Streaming.askStatus
  dsimp only
  split
  · rename_i held
    exact absurd (played.symm.trans held) ready.answers
  · simp only [conclusion, present]
    exact ⟨_, rfl⟩

theorem Ready.lookOutput (ready : session.Ready now) (stderrFirst cancelled : Bool) :
    ∃ output, (session.lookOutput now stderrFirst cancelled).progress = .finished output := by
  rcases ready.drain stderrFirst cancelled with ⟨pending, later, ended⟩
  unfold Streaming.lookOutput
  have output := ended .output
  have errors := ended .errors
  simp only [Streaming.channel] at output errors
  rw [Look.followedBy_of_pending pending]
  simp only [output, errors, Bool.and_self, if_true]
  exact later.askStatus _

/-- Scripts find themselves later at the same moment after a look at the input. -/
theorem look_precedes {input : Input} (unshut : input.closed = false) (now : Instant)
    (cancelled : Bool) :
    (input.surroundings now).Precedes ((input.look now cancelled).input.surroundings now) := by
  refine ⟨rfl, (Input.received_prefix_look now cancelled input).length_le, fun closed => ?_⟩
  rw [Input.surroundings, unshut] at closed
  cases closed

theorem lookInput_session (now : Instant) (cancelled : Bool) (session : Streaming) :
    (session.lookInput now cancelled).session =
      { session with input := (session.input.look now cancelled).input } := by
  unfold Streaming.lookInput
  dsimp only
  split <;> rfl

/-- What the input takes meanwhile does not hold back a session that is ready. -/
theorem Ready.lookInput (ready : session.Ready now) (unshut : session.input.closed = false)
    (cancelled : Bool) : (session.lookInput now cancelled).session.Ready now := by
  have later := look_precedes unshut now cancelled
  rw [lookInput_session]
  refine ⟨fun outlet => ?_, ?_, ready.status⟩
  · have clear := (ready.clear outlet).of_precedes later
    cases outlet <;> exact clear
  · dsimp only
    rw [Script.play_of_precedes later ready.answers]
    exact ready.answers

theorem inputFailed_of_ne_pending {cancelled : Bool}
    (stopped : (session.lookInput now cancelled).progress ≠ .pending) :
    ∃ failure, (session.lookInput now cancelled).progress = .failed failure ∧
      .inputFailed failure ∈ (session.lookInput now cancelled).events := by
  rw [lookInput_events]
  unfold Streaming.lookInput at stopped ⊢
  dsimp only at stopped ⊢
  split at stopped
  · rename_i failure failed
    exact ⟨failure, rfl, Input.look_failed failed⟩
  · exact absurd rfl stopped

end

/-- One look at a session that is ready finishes it, unless forwarding fails. -/
theorem Ready.look {now : Instant} {session : Streaming} (ready : session.Ready now)
    (unshut : session.input.forwarding = true → session.input.closed = false)
    (choices : Choices) (cancelled : Bool)
    (sound : ∀ failure, .inputFailed failure ∉ (session.look choices now cancelled).events) :
    ∃ output, (session.look choices now cancelled).progress = .finished output := by
  unfold Streaming.look at sound ⊢
  dsimp only at sound ⊢
  cases forwarding : session.input.forwarding with
  | false =>
      rw [forwarding] at sound
      exact ready.lookOutput choices.stderrFirst cancelled
  | true =>
      simp only [forwarding, Bool.not_true, Bool.false_eq_true, if_false] at sound ⊢
      -- Only a look that begins with the input can fail there; the other is finished before that.
      cases first : choices.inputFirst with
      | true =>
          simp only [first, if_true] at sound ⊢
          by_cases pending : (session.lookInput now cancelled).progress = .pending
          · rw [Look.followedBy_of_pending pending]
            exact (ready.lookInput (unshut forwarding) cancelled).lookOutput _ _
          · rw [Look.followedBy_of_ne_pending pending] at sound
            rcases inputFailed_of_ne_pending pending with ⟨failure, -, told⟩
            exact absurd told (sound failure)
      | false =>
          rcases ready.lookOutput choices.stderrFirst cancelled with ⟨output, finished⟩
          simp only [Bool.false_eq_true, if_false]
          have stopped :
              (session.lookOutput now choices.stderrFirst cancelled).progress ≠ .pending := by
            rw [finished]
            simp
          rw [Look.followedBy_of_ne_pending stopped, Look.followedBy_of_ne_pending stopped]
          exact ⟨output, finished⟩

end Streaming
end PodCommand
