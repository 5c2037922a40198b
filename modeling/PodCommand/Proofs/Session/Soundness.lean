import PodCommand.Proofs.Session.History
import PodCommand.Proofs.Session.Tracking

namespace PodCommand

/-!
Open streams whose remote side fails no read.

Where no step of the two scripts fails, reading them does not fail either, so there are two things
left that can break off the streams: forwarding the local input, and the connection's ending without
a status.
-/

/-- No read of the script fails. -/
def Script.Sound (script : Script) : Prop := ∀ step ∈ script, ∀ failure, step ≠ .fail failure

theorem Script.Sound.tail {step : Step} {rest : Script} (sound : Script.Sound (step :: rest)) :
    rest.Sound :=
  fun other member => sound other (List.mem_cons_of_mem _ member)

namespace Channel

/-- A sound script is read without a failure, and what is left of it is sound. -/
theorem collect_sound {script : Script} (sound : script.Sound) (outlet : Outlet)
    (around : Surroundings) (captured : Bytes) (cancelled : Bool) :
    (collect outlet around captured cancelled script).failure = none ∧
      ((collect outlet around captured cancelled script).channel.script.getD []).Sound := by
  induction script generalizing captured cancelled with
  | nil => exact ⟨rfl, sound⟩
  | cons step rest ih =>
      have later := fun captured cancelled => ih sound.tail captured cancelled
      have met := step.met around
      rw [collect]
      cases meeting : step.meet around <;> rw [meeting] at met <;> cases met
      case passed => exact later _ _
      case gaveUp => exact later _ _
      case data => exact later _ _
      case accepts => exact later _ _
      case held as _ stays =>
        refine ⟨rfl, fun other member failure same => ?_⟩
        rcases List.mem_cons.mp member with here | there
        · rw [← here, same] at stays
          simp [Step.isPause] at stays
        · exact sound.tail other there failure same
      case failed failure same => exact absurd same (sound step List.mem_cons_self failure)

theorem look_sound {channel : Channel} (sound : (channel.script.getD []).Sound)
    (outlet : Outlet) (around : Surroundings) (cancelled : Bool) :
    (channel.look outlet around cancelled).failure = none ∧
      ((channel.look outlet around cancelled).channel.script.getD []).Sound := by
  cases present : channel.script with
  | none =>
      simp only [look, present]
      exact ⟨trivial, fun _ member => absurd member List.not_mem_nil⟩
  | some script =>
      rw [present] at sound
      simp only [look, present]
      exact collect_sound sound outlet around channel.captured cancelled

end Channel

namespace Streaming

/-- Nothing fails in what is left of the channels, and the status is the remote side's. -/
structure Sound (remote : Remote) (session : Streaming) : Prop where
  channel : ∀ outlet, ((session.channel outlet).script.getD []).Sound
  status : session.status = remote.status

/-- Sound streams are broken off by the local input or for want of a status, and by nothing else. -/
def sound (remote : Remote) : Promise where
  pending := fun _ session => Sound remote session
  finished := fun _ _ => True
  failed := fun events failure =>
    .inputFailed failure ∈ events ∨ failure = .missingStatus ∧ remote.status = none

variable {remote : Remote} {before : List Event} {session : Streaming}

theorem Sound.lookChannel (kept : Sound remote session) (outlet : Outlet) (now : Instant)
    (cancelled : Bool) :
    (session.lookChannel now outlet cancelled).Keeps (sound remote) before := by
  have read := Channel.look_sound (kept.channel outlet) outlet (session.input.surroundings now)
    cancelled
  unfold Streaming.lookChannel
  simp only [read.1]
  refine ⟨fun other => ?_, (withChannel_status session outlet _).trans kept.status⟩
  by_cases same : outlet = other
  · subst same
    rw [channel_withChannel]
    exact read.2
  · rw [channel_withChannel_of_ne session same]
    exact kept.channel other

theorem Sound.askStatus (kept : Sound remote session) (now : Instant) (cancelled : Bool) :
    (session.askStatus now cancelled).Keeps (sound remote) before := by
  unfold Streaming.askStatus
  dsimp only
  split
  · exact ⟨kept.channel, kept.status⟩
  · unfold conclusion
    cases present : session.status with
    | some status => trivial
    | none => exact .inr ⟨rfl, kept.status.symm.trans present⟩

theorem Sound.lookInput (kept : Sound remote session) (now : Instant) (cancelled : Bool) :
    (session.lookInput now cancelled).Keeps (sound remote) before := by
  unfold Streaming.lookInput
  dsimp only
  split
  · rename_i failure failed
    exact .inl (List.mem_append_right before (Input.look_failed failed))
  · exact ⟨kept.channel, kept.status⟩

/-- Sound streams stay sound, whatever is looked at. -/
theorem sound_sustained (source : Option Tape)
    (reads : ∀ outlet, ((remote.script outlet).getD []).Sound) :
    (sound remote).Sustained source remote where
  start := by
    refine ⟨fun outlet => ?_, rfl⟩
    cases outlet with
    | output => exact reads .output
    | errors => exact reads .errors
  look := by
    intro choices now cancelled before session kept
    apply look_keeps
    case reads => exact fun outlet now cancelled _ _ kept => kept.lookChannel outlet now cancelled
    case asks => exact fun now cancelled _ _ kept _ _ => kept.askStatus now cancelled
    case feeds => exact fun now cancelled _ _ kept _ => kept.lookInput now cancelled
    case kept => exact kept

end Streaming

/-- What breaks off sound streams in a call: the local input tells so, or a status is missing. -/
theorem History.sound_broken {order : Order} {remote : Remote} {state : SessionState}
    {events : List Event} {failure : StreamFailure}
    (history : History order remote (Streaming.sound remote) state
      (.ended (.returned (.error (.stream failure)))) events) :
    .inputFailed failure ∈ events ∨ failure = .missingStatus ∧ remote.status = none := by
  cases history with
  | underWay valid fits => cases fits
  | broken valid agreed kept =>
      exact kept.imp_left fun told =>
        List.mem_append_left _ (List.mem_append_right _ told)

end PodCommand
