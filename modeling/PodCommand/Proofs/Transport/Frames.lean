import PodCommand.Proofs.Session.Pace
import PodCommand.Proofs.Session.Soundness
import PodCommand.Transport.Frame

namespace PodCommand
namespace Frame

/-!
What the frames of one connection come to, channel by channel.

However the frames of the channels are interleaved, the script of a channel holds what they carry on
it, in order, up to the frame that ends the session.  Nothing in it fails; and where the server only
sends and pauses, it is timed, with one and the same end for all channels.
-/

/-- What frames carry on a channel. -/
def content (channel : UInt8) (frames : List Frame) : Bytes :=
  frames.flatMap fun frame => (frame.payload? channel).getD []

/-- The frames before the one that ends the session. -/
def live (frames : List Frame) : List Frame :=
  frames.takeWhile fun frame => !frame.isLast

/-- Whether the server only sends with a frame, or lets some time pass. -/
def isTraffic : Frame → Bool
  | message _ | other | close | wait _ => true
  | _ => false

/-- How long the server lets pass with a frame. -/
def pause : Frame → Nat
  | wait span => span.nanos
  | _ => 0

/-- How long the pauses are in all. -/
def pauses : List Frame → Nat
  | [] => 0
  | frame :: rest => frame.pause + pauses rest

/-! ## Where a session ends -/

section Ends

variable {before after : List Frame} {last : Frame}

theorem live_of_ends (unended : ∀ frame ∈ before, frame.isLast = false)
    (ends : last.isLast = true) : live (before ++ last :: after) = before := by
  have passed : ∀ frame ∈ before, (!frame.isLast) = true := fun frame member => by
    rw [unended frame member, Bool.not_false]
  rw [live, List.takeWhile_append_of_pos passed, List.takeWhile_cons_of_neg (by simp [ends]),
    List.append_nil]

theorem find?_of_ends (unended : ∀ frame ∈ before, frame.isLast = false)
    (ends : last.isLast = true) : (before ++ last :: after).find? isLast = some last := by
  have missing : before.find? isLast = none :=
    List.find?_eq_none.mpr fun frame member => by simp [unended frame member]
  rw [List.find?_append, missing, Option.none_or, List.find?_cons_of_pos ends]

end Ends

/-! ## The script of a channel -/

theorem bytes_steps (channel : UInt8) (frame : Frame) :
    Script.bytes (steps channel frame) = (frame.payload? channel).getD [] := by
  have plain : ∀ content : Option Bytes,
      Script.bytes (content.map Step.data).toList = content.getD [] := by
    intro content
    cases content with
    | none => rfl
    | some bytes => exact List.append_nil bytes
  cases frame with
  | message bytes => exact plain _
  | cancel =>
      by_cases output : channel = outputChannel
      · rw [steps, if_pos output]
        rfl
      · rw [steps, if_neg output]
        rfl
  | _ => rfl

theorem bytes_script (channel : UInt8) (frames : List Frame) :
    (script channel frames).bytes = content channel (live frames) := by
  have flat : ∀ listed : List Frame,
      Script.bytes (listed.flatMap (steps channel)) = content channel listed := by
    intro listed
    rw [Script.bytes, List.flatMap_assoc]
    exact congrArg (listed.flatMap ·) (funext (bytes_steps channel))
  exact flat (live frames)

/-- A step of a script is a step of one of the frames. -/
theorem mem_script {channel : UInt8} {frames : List Frame} {step : Step}
    (member : step ∈ script channel frames) :
    ∃ frame ∈ live frames, step ∈ steps channel frame :=
  List.mem_flatMap.mp member

theorem sound_script (channel : UInt8) (frames : List Frame) : (script channel frames).Sound := by
  intro step member failure same
  subst same
  rcases mem_script member with ⟨frame, _, own⟩
  unfold steps at own
  split at own
  all_goals first | (split at own <;> simp at own) | simp at own

/-! ## Traffic on the clock -/

theorem timed_script (channel : UInt8) {frames : List Frame}
    (traffic : ∀ frame ∈ live frames, frame.isTraffic = true) :
    (script channel frames).Timed := by
  intro step member
  rcases mem_script member with ⟨frame, listed, own⟩
  have sends := traffic frame listed
  cases frame with
  | message bytes =>
      rcases Option.map_eq_some_iff.mp (Option.mem_toList.mp own) with ⟨content, _, rfl⟩
      rfl
  | wait span =>
      rw [List.mem_singleton.mp own]
      rfl
  | other | close => cases own
  | _ => cases sends

theorem finish_steps {frame : Frame} (sends : frame.isTraffic = true) (channel : UInt8)
    (now : Instant) (rest : Script) :
    Script.finish now (steps channel frame ++ rest) = rest.finish (now + frame.pause) := by
  cases frame with
  | message bytes =>
      have passed : ∀ content : Option Bytes,
          Script.finish now ((content.map Step.data).toList ++ rest) = rest.finish now := by
        intro content
        cases content <;> rfl
      exact passed _
  | wait span => rfl
  | other | close => rfl
  | _ => cases sends

/-- The scripts of all channels come to their ends when the pauses are over. -/
theorem finish_script (channel : UInt8) {frames : List Frame}
    (traffic : ∀ frame ∈ live frames, frame.isTraffic = true) (now : Instant) :
    (script channel frames).finish now = now + pauses (live frames) := by
  have flat : ∀ (listed : List Frame) (now : Instant),
      (∀ frame ∈ listed, frame.isTraffic = true) →
      Script.finish now (listed.flatMap (steps channel)) = now + pauses listed := by
    intro listed
    induction listed with
    | nil => exact fun _ _ => rfl
    | cons frame rest ih =>
        intro now traffic
        have later := ih (now + frame.pause)
          fun next member => traffic next (List.mem_cons_of_mem _ member)
        rw [List.flatMap_cons, finish_steps (traffic frame List.mem_cons_self), later,
          Nat.add_assoc]
        rfl
  exact flat (live frames) now traffic

end Frame
end PodCommand
