import PodCommand.Request
import PodCommand.Session.Failure
import PodCommand.Session.State
import PodCommand.Time.Duration

namespace PodCommand

/-- What can put an end to a session that is under way. -/
inductive CancelReason
  /-- The caller gave the session up. -/
  | caller
  /-- The time allowed for the call ran out. -/
  | deadline (timeout : Duration)
  deriving DecidableEq, Repr

namespace CancelReason

/-- The reason in words. -/
def text : CancelReason → String
  | caller => "caller"
  | deadline timeout => "deadline after " ++ timeout.text

end CancelReason

/-- Why a command was not run to its end. -/
inductive ExecError
  /-- The request was refused before anything was sent. -/
  | rejected (error : RequestError)
  /-- The server did not open a session for the request. -/
  | transport (url : String) (cause : String)
  /-- The session broke while its streams were open. -/
  | stream (failure : StreamFailure)
  /-- The session was cancelled in the given state. -/
  | cancelled (reason : CancelReason) (state : SessionState)
  deriving DecidableEq, Repr

namespace ExecError

/-!
The ways in which running a command fails, each with the one text that messages and logs use for
it.
-/

/-- A short, stable name for the way of failing. -/
def kind : ExecError → String
  | rejected error => if error.isSchema then "schema" else "invalid_argument"
  | transport _ _ => "transport"
  | stream _ => "stream"
  | cancelled _ _ => "cancelled"

/-- Whether the call was cancelled. -/
def isCancelled : ExecError → Bool
  | cancelled _ _ => true
  | _ => false

/-- The failure in words. -/
def message : ExecError → String
  | rejected error =>
    (if error.isSchema then "Schema error: " else "Invalid argument: ") ++ error.message
  | transport url cause => "Transport error for " ++ url ++ ": " ++ cause
  | stream failure => "Stream error: " ++ failure.message
  | cancelled reason state => "Exec cancelled by " ++ reason.text ++ " while " ++ state.name

/-- The text of the failure that lies beneath, if there is one. -/
def cause? : ExecError → Option String
  | rejected error => error.cause?
  | transport _ cause => some cause
  | stream failure => some failure.message
  | cancelled _ _ => none

end ExecError
end PodCommand
