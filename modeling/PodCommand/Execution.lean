import PodCommand.Connection.Client
import PodCommand.Credentials
import PodCommand.Session.Call

namespace PodCommand

/-- Why a command was not run: no credentials, no client for them, or a call that failed. -/
inductive ExecutionError
  | credentials (error : ResolutionError)
  | client (error : ClientError)
  | exec (error : ExecError)
  deriving DecidableEq, Repr

namespace ExecutionError

/-- A short, stable name for the way of failing. -/
def kind : ExecutionError → String
  | credentials _ => "credential_resolution"
  | client _ => "client_construction"
  | exec error => error.kind

/-- The error in words. -/
def message : ExecutionError → String
  | credentials error => error.message
  | client error => error.message
  | exec error => error.message

end ExecutionError

namespace Execution

/-!
Running a command from first to last: a search for credentials, a client for what it finds, and one
call.  Each step is taken only if the one before it succeeds, and what goes wrong in it is the
result.
-/

/-- The client for the credentials that a search finds. -/
def connect {m : Type → Type} [Monad m] (builder : Client.Builder) (resolver : Resolver m) :
    m (Except ExecutionError Client) := do
  let resolution ← resolver.resolve
  match resolution.result with
  | .error error => return .error (.credentials error)
  | .ok connection =>
    match Client.build builder connection with
    | .error error => return .error (.client error)
    | .ok client => return .ok client

/-- Runs a command with the credentials that a search finds. -/
def run {m : Type → Type} [Monad m] (builder : Client.Builder) (resolver : Resolver m)
    (call : Client → m (Ending ExecError Output)) : m (Ending ExecutionError Output) := do
  match ← connect builder resolver with
  | .error error => return .returned (.error error)
  | .ok client => return (← call client).map .exec id

/-- Runs a command and gives the texts of its two outputs. -/
def texts {m : Type → Type} [Monad m] (builder : Client.Builder) (resolver : Resolver m)
    (call : Client → m (Ending ExecError Output)) :
    m (Ending ExecutionError (String × String)) := do
  return (← run builder resolver call).map id Output.texts

end Execution
end PodCommand
