import PodCommand.CommandLine
import PodCommand.Credentials.Sources
import PodCommand.Execution
import PodCommand.Settings.Storage
import PodCommand.Transport

namespace PodCommand

/-- What becomes of a program that crashes: it ends with an exit code, or is aborted without one. -/
inductive Profile
  | unwinding
  | aborting
  deriving DecidableEq, Repr

/-- What the program leaves behind. -/
inductive Exit
  /-- The command line is not used as it should be. -/
  | usage
  /-- The command has run, or help has been given: what is to be read on the two outputs. -/
  | printed (stdout stderr : String)
  | failed (error : ExecutionError)
  /-- The clock cannot count to the deadline. -/
  | crashed
  /-- The program runs for ever. -/
  | endless

namespace Exit

/-- The exit code; it does not depend on the one of the command. -/
def code? (exit : Exit) (profile : Profile := .unwinding) : Option Nat :=
  match exit, profile with
  | usage, _ => some 2
  | printed _ _, _ => some 0
  | failed _, _ => some 1
  | crashed, .unwinding => some 101
  | crashed, .aborting => none
  | endless, _ => none

/-- What is written to standard output. -/
def stdout : Exit → String
  | printed text _ => text
  | _ => ""

/-- What is written to standard error, apart from how the program is used and how it crashed. -/
def stderr : Exit → String
  | printed _ text => text
  | failed error => "podexec: " ++ error.message ++ "\n"
  | _ => ""

/-- What becomes of the program when a command has been run. -/
def ofEnding : Ending ExecutionError (String × String) → Exit
  | .returned (.ok (stdout, stderr)) => printed stdout stderr
  | .returned (.error error) => failed error
  | .clockOverflow => crashed
  | .endless => endless

end Exit

namespace CommandLine

/-!
The program as a whole: the settings of a file, with what the command line says put in their place,
decide what is run, where, and with which credentials.
-/

/-- The settings in the file that the command line names, or else in the user's own; those of a user
who has chosen none where the file cannot be read. -/
def stored (line : CommandLine) (host : Host) : Settings :=
  let loaded :=
    match line.config with
    | some path => Settings.loadFrom host.files path
    | none => Settings.load host
  match loaded with
  | .ok (settings, _) => settings
  | .error _ => .default

/-- The settings that hold for a run. -/
def settings (line : CommandLine) (host : Host) : Settings := line.apply (line.stored host)

/-- The call that is to be made; what is to be forwarded if the command line says so. -/
def order (line : CommandLine) (settings : Settings) (stdin : Script) : Order :=
  { target := line.target settings
    command := settings.command
    timeout := settings.timeout
    stdin := if line.stdin then some stdin else none }

/-- Runs the command that a command line asks for. -/
def run (line : CommandLine) (host : Host) (stdin : Script) :
    StateM Network (Ending ExecutionError (String × String)) :=
  let settings := line.settings host
  Execution.texts host.files (Resolver.ofSettings host settings)
    (Transport.call (line.order settings stdin))

/-- The paths at which a run looks, as far as what is known of the host tells. -/
def paths (line : CommandLine) (host : Host) : List String :=
  let settings := line.settings host
  let source : KubeconfigSource := ⟨settings.kubeconfig, settings.context⟩
  let account := ["namespace", "ca.crt", "token"].map (Path.join InCluster.directory)
  let kubeconfig :=
    match source.file host with
    | .ok path =>
      match Kubeconfig.readFile host.files path with
      | .ok kubeconfig => path :: kubeconfig.files
      | .error _ => [path]
    | .error _ => []
  (line.config <|> Settings.path? host).toList ++ account ++ kubeconfig

/-- Runs the program on the words of its command line. -/
def perform (words : List String) (host : Host) (stdin : Script) : StateM Network Exit :=
  match demand? words with
  | none => return .usage
  | some .help => return .printed help ""
  | some (.run line) => return .ofEnding (← line.run host stdin)

end CommandLine
end PodCommand
