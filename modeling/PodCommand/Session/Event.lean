import PodCommand.ExitStatus
import PodCommand.Log
import PodCommand.Session.Error
import PodCommand.Text.Utf8

namespace PodCommand

/-!
What happens in the course of one call, in order.  The log of a call is a view of its events.
-/

/-- The two output channels of a session. -/
inductive Outlet
  | output
  | errors
  deriving DecidableEq, Repr

/-- Something that happens in a call. -/
inductive Event
  /-- The session goes from one state to another. -/
  | advanced (source next : SessionState)
  /-- The request is refused. -/
  | rejected (error : ExecError)
  /-- The request is ready to be sent. -/
  | requestReady (url : String)
  /-- The server is asked for a session. -/
  | upgradeStarted (url : String)
  | upgradeFailed (url : String) (cause : String)
  /-- The server has handed over a session. -/
  | opened
  /-- The channels of the session are taken. -/
  | inputTaken
  | outputTaken
  | errorsTaken
  /-- The session's input takes octets. -/
  | wrote (bytes : Bytes)
  /-- The session's input is shut down after the last octet. -/
  | inputShut
  /-- All local input, so many octets, has been forwarded. -/
  | forwarded (count : Nat)
  /-- The remote command has stopped reading. -/
  | inputRefused
  /-- Local input cannot be forwarded, for any other reason. -/
  | inputFailed (failure : StreamFailure)
  /-- An output channel delivers octets. -/
  | read (outlet : Outlet) (bytes : Bytes)
  /-- An output channel has come to its end. -/
  | drained (outlet : Outlet)
  /-- An output channel cannot be read any further. -/
  | broken (outlet : Outlet) (failure : StreamFailure)
  /-- The session is asked how the command ended. -/
  | statusAsked
  /-- The session answers; with nothing if the connection has ended without a report. -/
  | statusReported (status : Option ExitStatus)
  | finished (stdout stderr : Nat) (code : Option Int)
  | failed (error : ExecError)
  /-- The session is cancelled while its streams are open. -/
  | cancelled (reason : CancelReason)
  /-- The connection is torn down. -/
  | aborted
  /-- The session has been released. -/
  | released
  deriving DecidableEq, Repr

namespace Event

/-- Whether an event tells that the server is asked for a session. -/
def isUpgradeStart : Event → Bool
  | upgradeStarted _ => true
  | _ => false

/-- An exit code as the log shows it. -/
def codeText : Option Int → String
  | none => "None"
  | some code => "Some(" ++ toString code ++ ")"

/-- The event as the log of a call in a target tells it; most events are not told. -/
def log? (target : Target) : Event → Option LogLine
  | advanced source next =>
    some ⟨.debug, "Exec session " ++ target.display ++ ": " ++ source.name ++ " -> " ++ next.name⟩
  | rejected error =>
    some ⟨.debug, "Rejected exec request for " ++ target.display ++ ": " ++ error.message⟩
  | requestReady url => some ⟨.debug, "Dumping request " ++ Request.method ++ " " ++ url⟩
  | upgradeFailed url cause => some ⟨.warn, "Upgrade failed for " ++ url ++ ": " ++ cause⟩
  | forwarded count => some ⟨.trace, "Forwarded " ++ toString count ++ " stdin bytes"⟩
  | inputRefused => some ⟨.debug, "Remote side closed stdin early"⟩
  | finished stdout stderr code =>
    some ⟨.info, "Exec in " ++ target.display ++ " finished: " ++ toString stdout ++
      " stdout bytes, " ++ toString stderr ++ " stderr bytes, exit code " ++ codeText code⟩
  | failed error => some ⟨.warn, "Exec in " ++ target.display ++ " failed: " ++ error.message⟩
  | cancelled reason =>
    some ⟨.info, "Exec in " ++ target.display ++ " cancelled by " ++ reason.text⟩
  | released => some ⟨.trace, "Exec session released"⟩
  | _ => none

end Event
end PodCommand
