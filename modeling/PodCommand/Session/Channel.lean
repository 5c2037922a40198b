import PodCommand.Session.Event
import PodCommand.Session.Script

namespace PodCommand

/-- An output channel that is being read to its end. -/
structure Channel where
  /-- What the far side will do; none once the channel has ended, or if there is no channel. -/
  script : Option Script
  /-- What has been read. -/
  captured : Bytes
  deriving DecidableEq, Repr

namespace Channel

/-!
Reading an output channel.  Each time it is looked at, everything that is there is read; the first
failure, whatever its kind, ends the session.  A channel that goes on for ever needs no script of
its own: a run looks at it finitely often, and so takes it for one that hangs after what the run
has seen of it.
-/

/-- A channel of which nothing has been read. -/
def ofScript (script : Option Script) : Channel := ⟨script, []⟩

/-- Whether the channel has ended. -/
def hasEnded (channel : Channel) : Bool := channel.script.isNone

/-- What a look at a channel comes to. -/
structure Look where
  channel : Channel
  failure : Option StreamFailure
  /-- Whether the caller has given up. -/
  cancelled : Bool
  events : List Event
  deriving DecidableEq, Repr

/-- Reads from a script what is there, after what has been captured already. -/
def collect (outlet : Outlet) (around : Surroundings) (captured : Bytes) (cancelled : Bool) :
    Script → Look
  | [] => ⟨⟨none, captured⟩, none, cancelled, [.drained outlet]⟩
  | step :: rest =>
    match step.meet around with
    | .passed | .accepts _ => collect outlet around captured cancelled rest
    | .gaveUp => collect outlet around captured true rest
    | .held step => ⟨⟨some (step :: rest), captured⟩, none, cancelled, []⟩
    | .data bytes =>
      let look := collect outlet around (captured ++ bytes) cancelled rest
      { look with events := .read outlet bytes :: look.events }
    | .failed failure =>
      ⟨⟨some rest, captured⟩, some failure, cancelled, [.broken outlet failure]⟩

/-- Looks at a channel. -/
def look (outlet : Outlet) (around : Surroundings) (cancelled : Bool) (channel : Channel) : Look :=
  match channel.script with
  | none => ⟨channel, none, cancelled, []⟩
  | some script => collect outlet around channel.captured cancelled script

end Channel
end PodCommand
