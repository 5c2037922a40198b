import PodCommand.ExitStatus
import PodCommand.Text.Utf8

namespace PodCommand

/-- What a finished command left: its two outputs, kept apart, and how it ended. -/
structure Output where
  stdout : Bytes
  stderr : Bytes
  /-- A code other than zero is no failure of the call. -/
  exitStatus : ExitStatus
  deriving DecidableEq, Repr, Inhabited

namespace Output

/-- The text of the output; U+FFFD stands for what is no well-formed UTF-8. -/
def stdoutText (output : Output) : String := String.ofList (Text.Utf8.decodeLossy output.stdout)

/-- The text of the error output; U+FFFD stands for what is no well-formed UTF-8. -/
def stderrText (output : Output) : String := String.ofList (Text.Utf8.decodeLossy output.stderr)

/-- The exit code, where it is known. -/
def exitCode (output : Output) : Option Int := output.exitStatus.code

/-- The texts of the output and of the error output. -/
def texts (output : Output) : String × String := (output.stdoutText, output.stderrText)

end Output
end PodCommand
