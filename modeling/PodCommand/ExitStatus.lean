import PodCommand.Text.Blank
import PodCommand.Text.Digits

namespace PodCommand

/-!
How a remote command ended.  The server reports it as a status object at the end of a session; the
exit code stands in the message of one of that object's causes.
-/

/-- One cause in the details of a status report. -/
structure StatusCause where
  field : Option String
  message : Option String
  reason : Option String
  deriving DecidableEq, Repr, Inhabited

/-- The details of a status report, as far as an exit status depends on them. -/
structure StatusDetails where
  causes : Option (List StatusCause)
  deriving DecidableEq, Repr, Inhabited

/-- The server's report on how a command ended. -/
structure StatusReport where
  status : Option String
  reason : Option String
  message : Option String
  details : Option StatusDetails
  deriving DecidableEq, Repr, Inhabited

/-- How a remote command ended: its exit code if one is known, and the server's explanation. -/
structure ExitStatus where
  code : Option Int
  message : Option String
  deriving DecidableEq, Repr, Inhabited

namespace ExitStatus

/-- A command that ended with an exit code. -/
def exited (code : Int) : ExitStatus := ⟨some code, none⟩

/-- Whether the command is known to have ended with exit code zero. -/
def isSuccess (status : ExitStatus) : Bool := status.code == some 0

/-- Whether a number is an exit code: it fits a signed word of 32 bits. -/
def isCode (n : Int) : Bool := -2147483648 ≤ n && n < 2147483648

/-- Reads an exit code, with white space around it. -/
def code? (text : String) : Option Int :=
  (Text.integer? (Text.trim text.toList)).filter isCode

/-- The first cause that carries an exit code. -/
def exitCause? (report : StatusReport) : Option StatusCause := do
  let details ← report.details
  let causes ← details.causes
  causes.find? (·.reason == some "ExitCode")

/-- The exit status that a report tells of. -/
def ofReport (report : StatusReport) : ExitStatus :=
  if report.status == some "Success" then exited 0
  else
    { code :=
        if report.reason == some "NonZeroExitCode" then
          (exitCause? report).bind (·.message) |>.bind code?
        else none
      message := report.message }

end ExitStatus
end PodCommand
