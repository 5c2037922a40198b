import PodCommand.Proofs.Session.Script
import PodCommand.Session.Tape

namespace PodCommand

/-!
The octets of a source, and what reading leaves of them.

`Script.stream` is all that can be read from a script, and `Script.Yields` says that some of it has
been read and what is left.  Nothing is lost between the two: what has been read, followed by what
the rest yields, is what the whole yields, whatever may be added to both at their ends.  That is why
the account goes on when a tape is looked at again: `Tape.Gives` says what comes first of what a
source ever gives, `Tape.Delivers` what it gives before it ends, and `Tape.Yields` keeps the books
from look to look.
-/

namespace Script

/-- What can be read from a script: its data up to where a read fails or waits for ever. -/
def stream : Script → Bytes
  | [] => []
  | .data bytes :: rest => bytes ++ stream rest
  | .fail _ :: _ | .hang :: _ => []
  | _ :: rest => stream rest

theorem stream_of_pause {step : Step} (pause : step.isPause = true) (rest : Script) :
    stream (step :: rest) = stream rest := by
  cases step <;> first | rfl | cases pause

theorem stream_of_held {step as : Step} {around : Surroundings}
    (held : step.meet around = .held as) (rest : Script) :
    stream (step :: rest) = stream (as :: rest) := by
  cases step with
  | wait | sleep | awaitInput | awaitInputEnd =>
      simp only [Step.meet] at held
      split at held
      · cases held
      · cases held
        rfl
  | hang =>
      cases held
      rfl
  | _ => cases held

theorem Delivers.stream_eq {script : Script} {read : Bytes} (delivers : script.Delivers read) :
    script.stream = read := by
  induction delivers with
  | ended => rfl
  | pause pause later ih => rw [stream_of_pause pause, ih]
  | accept later ih => exact ih
  | data later ih => rw [stream, ih]

/-- What is added to a script comes after what can be read from it. -/
theorem stream_prefix_append (script more : Script) :
    script.stream <+: (script ++ more).stream := by
  induction script with
  | nil => exact List.nil_prefix
  | cons step rest ih =>
      cases step with
      | data bytes => exact (List.prefix_append_right_inj bytes).mpr ih
      | fail | hang => exact List.nil_prefix
      | _ => exact ih

/-! ## Reading a part -/

/-- Octets have been read from a script, and the rest is what is left of it. -/
structure Yields (whole : Script) (read : Bytes) (rest : Script) : Prop where
  stream : ∀ more, Script.stream (whole ++ more) = read ++ Script.stream (rest ++ more)
  delivers : ∀ more bytes, Script.Delivers (rest ++ more) bytes →
    Script.Delivers (whole ++ more) (read ++ bytes)

namespace Yields

theorem refl (script : Script) : script.Yields [] script := ⟨fun _ => rfl, fun _ _ => id⟩

theorem trans {whole middle rest : Script} {first second : Bytes}
    (one : whole.Yields first middle) (two : middle.Yields second rest) :
    whole.Yields (first ++ second) rest where
  stream := by
    intro more
    rw [one.stream, two.stream, List.append_assoc]
  delivers := by
    intro more bytes delivers
    rw [List.append_assoc]
    exact one.delivers _ _ (two.delivers _ _ delivers)

/-- What is added to both the whole and the rest is left. -/
theorem append {whole rest : Script} {read : Bytes} (yields : whole.Yields read rest)
    (added : Script) : Yields (whole ++ added) read (rest ++ added) where
  stream := by
    intro more
    rw [List.append_assoc, List.append_assoc]
    exact yields.stream (added ++ more)
  delivers := by
    intro more bytes delivers
    rw [List.append_assoc] at delivers ⊢
    exact yields.delivers _ _ delivers

theorem prefix_stream {whole rest : Script} {read : Bytes} (yields : whole.Yields read rest) :
    read <+: whole.stream := by
  have split := yields.stream []
  rw [List.append_nil, List.append_nil] at split
  exact ⟨rest.stream, split.symm⟩

section

variable {step : Step} (rest : Script)

theorem pause (pause : step.isPause = true) : Script.Yields (step :: rest) [] rest :=
  ⟨fun more => stream_of_pause pause (rest ++ more), fun _ _ => .pause pause⟩

theorem accept (count : Nat) : Script.Yields (.accept count :: rest) [] rest :=
  ⟨fun _ => rfl, fun _ _ => .accept⟩

theorem held {as : Step} {around : Surroundings} (held : step.meet around = .held as) :
    Script.Yields (step :: rest) [] (as :: rest) := by
  have met := step.met around
  rw [held] at met
  cases met with
  | held pause stays =>
      exact ⟨fun more => stream_of_held held (rest ++ more), fun _ _ => .of_held pause stays⟩

theorem data (bytes : Bytes) : Script.Yields (.data bytes :: rest) bytes rest :=
  ⟨fun _ => rfl, fun _ _ => .data⟩

/-- Octets may be read in two parts. -/
theorem data_part (front back : Bytes) :
    Script.Yields (.data (front ++ back) :: rest) front (.data back :: rest) where
  stream := fun more => List.append_assoc front back (Script.stream (rest ++ more))
  delivers := by
    intro more bytes delivers
    cases delivers with
    | pause impossible => cases impossible
    | @data _ _ later delivers =>
        rw [← List.append_assoc]
        exact .data delivers

end

end Yields
end Script

namespace Tape

/-- A tape after so many looks at it, of which nothing has been read. -/
def after (tape : Tape) : Nat → Tape
  | 0 => tape
  | looks + 1 => (tape.after looks).turn

/-- These octets come first in what the source gives. -/
def Gives (tape : Tape) (bytes : Bytes) : Prop :=
  ∃ looks, bytes <+: (tape.after looks).script.stream

/-- The source gives these octets, and then it comes to its end without a failure. -/
def Delivers (tape : Tape) (bytes : Bytes) : Prop :=
  ∃ looks, (tape.after looks).isWhole = true ∧ (tape.after looks).script.Delivers bytes

theorem stream_turn (tape : Tape) : tape.script.stream <+: tape.turn.script.stream := by
  unfold turn
  split
  · exact List.prefix_rfl
  · exact Script.stream_prefix_append _ _

theorem stream_after {tape : Tape} {earlier later : Nat} (order : earlier ≤ later) :
    (tape.after earlier).script.stream <+: (tape.after later).script.stream := by
  induction order with
  | refl => exact List.prefix_rfl
  | step _ ih => exact ih.trans (stream_turn _)

/-- A source does not take back what it has given. -/
theorem Gives.total {tape : Tape} {first second : Bytes} (one : tape.Gives first)
    (two : tape.Gives second) : first <+: second ∨ second <+: first := by
  rcases one with ⟨earlier, one⟩
  rcases two with ⟨later, two⟩
  have onward : ∀ {looks}, looks ≤ max earlier later →
      (tape.after looks).script.stream <+: (tape.after (max earlier later)).script.stream :=
    stream_after
  exact List.prefix_or_prefix_of_prefix (one.trans (onward (Nat.le_max_left ..)))
    (two.trans (onward (Nat.le_max_right ..)))

theorem Delivers.gives {tape : Tape} {bytes : Bytes} (delivers : tape.Delivers bytes) :
    tape.Gives bytes := by
  rcases delivers with ⟨looks, _, delivers⟩
  exact ⟨looks, delivers.stream_eq ▸ List.prefix_rfl⟩

theorem after_of_isWhole {tape : Tape} (whole : tape.isWhole = true) (looks : Nat) :
    tape.after looks = tape := by
  induction looks with
  | zero => rfl
  | succ looks ih => rw [after, ih, turn_of_isWhole whole]

theorem isWhole_ofScript (script : Script) : (ofScript script).isWhole = true := rfl

@[simp] theorem gives_ofScript {script : Script} {bytes : Bytes} :
    (ofScript script).Gives bytes ↔ bytes <+: script.stream := by
  simp only [Gives, after_of_isWhole (isWhole_ofScript script), exists_const]
  rfl

@[simp] theorem delivers_ofScript {script : Script} {bytes : Bytes} :
    (ofScript script).Delivers bytes ↔ script.Delivers bytes := by
  have whole := isWhole_ofScript script
  simp only [Delivers, after_of_isWhole whole, whole, true_and, exists_const]
  rfl

/-! ## Reading a part -/

/-- Octets have been read from a source, and the rest is what is left of it. -/
def Yields (whole : Tape) (read : Bytes) (rest : Tape) : Prop :=
  ∃ looks, rest.later = (whole.after looks).later ∧
    (whole.after looks).script.Yields read rest.script

namespace Yields

variable {whole rest : Tape} {read : Bytes}

theorem refl (tape : Tape) : tape.Yields [] tape := ⟨0, rfl, .refl _⟩

theorem goTo (yields : whole.Yields read rest) {more : Bytes} {left : Script}
    (later : rest.script.Yields more left) : whole.Yields (read ++ more) (rest.goTo left) := by
  rcases yields with ⟨looks, same, yields⟩
  exact ⟨looks, same, yields.trans later⟩

/-- The account goes on at the next look. -/
theorem turn (yields : whole.Yields read rest) : whole.Yields read rest.turn := by
  rcases yields with ⟨looks, same, yields⟩
  have next : (whole.after (looks + 1)) = (whole.after looks).turn := rfl
  unfold Tape.turn
  split <;> rename_i added
  · exact ⟨looks, same, yields⟩
  · refine ⟨looks + 1, ?_, ?_⟩
    · rw [next, Tape.turn, ← same, added]
    · rw [next, Tape.turn, ← same, added]
      exact yields.append _

theorem gives (yields : whole.Yields read rest) : whole.Gives read := by
  rcases yields with ⟨looks, _, yields⟩
  exact ⟨looks, yields.prefix_stream⟩

/-- What has been read by the end of the source is what it delivers. -/
theorem delivers (yields : whole.Yields read rest) (nothing : rest.script = [])
    (ended : rest.isWhole = true) : whole.Delivers read := by
  rcases yields with ⟨looks, same, yields⟩
  refine ⟨looks, ?_, ?_⟩
  · rwa [isWhole, ← same]
  · have read := yields.delivers [] [] (by rw [nothing]; exact .ended)
    rwa [List.append_nil, List.append_nil] at read

end Yields
end Tape
end PodCommand
