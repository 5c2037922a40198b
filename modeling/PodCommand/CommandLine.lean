import PodCommand.Settings
import PodCommand.Target
import PodCommand.Text.Pieces

namespace PodCommand

/-- What the words of a command line ask for. -/
structure CommandLine where
  pod : String
  /-- The words after the double dash. -/
  command : List String
  ns : Option String
  container : Option String
  context : Option String
  kubeconfig : Option String
  timeoutSecs : Option UInt64
  /-- Whether standard input is to be forwarded. -/
  stdin : Bool
  /-- The file with the settings, if not the user's own. -/
  config : Option String
  deriving DecidableEq, Repr

namespace CommandLine

/-- What words ask of the program. -/
inductive Demand
  /-- To be told how the program is used. -/
  | help
  | run (line : CommandLine)
  deriving DecidableEq, Repr

/-!
The command line: flags and the name of a pod in any order, then, after a double dash, the command
to run.  A flag may be given once.  A value follows its flag in the same word or in the next one,
which must not look like a flag itself.  Where help is asked for, what follows is not read any more;
what has been read before it has to be proper.
-/

/-- The flags. -/
inductive Flag
  | ns
  | container
  | context
  | kubeconfig
  | timeout
  | stdin
  | config
  deriving DecidableEq, Repr

namespace Flag

/-- All flags. -/
def all : List Flag := [ns, container, context, kubeconfig, timeout, stdin, config]

/-- The flag's long name. -/
def long : Flag → String
  | ns => "namespace"
  | container => "container"
  | context => "context"
  | kubeconfig => "kubeconfig"
  | timeout => "timeout"
  | stdin => "stdin"
  | config => "config"

/-- The flag's short name. -/
def short? : Flag → Option Char
  | ns => some 'n'
  | container => some 'c'
  | stdin => some 'i'
  | _ => none

/-- The names of the flag that asks for help. -/
def helpLong : String := "help"
def helpShort : Char := 'h'

/-- Whether a value goes with the flag. -/
def takesValue : Flag → Bool
  | stdin => false
  | _ => true

/-- The flag with a long name. -/
def ofLong? (name : List Char) : Option Flag := all.find? (·.long.toList == name)

/-- The flag with a short name. -/
def ofShort? (name : Char) : Option Flag := all.find? (·.short? == some name)

/-- What a flag sets. -/
def about : Flag → String
  | ns => "Namespace of the pod"
  | container => "Container within the pod"
  | context => "Kubeconfig context to use outside a cluster"
  | kubeconfig => "Kubeconfig file to use outside a cluster"
  | timeout => "Abort the command after this many seconds"
  | stdin => "Forward standard input to the command"
  | config => "Application config file"

/-- How a flag is written, with a name for its value. -/
def spelled (flag : Flag) : String :=
  let short := (flag.short?.map fun c => String.ofList ['-', c, ',', ' ']).getD "    "
  let value := if flag.takesValue then " <" ++ flag.long.map Char.toUpper ++ ">" else ""
  short ++ "--" ++ flag.long ++ value

/-- Reads a number of seconds, which a plus sign may precede; it has to fit a word of 64 bits. -/
def seconds? (text : String) : Option UInt64 :=
  let digits :=
    match text.toList with
    | '+' :: rest => rest
    | rest => rest
  ((Text.natural? 10 digits).filter (· < UInt64.size)).map Nat.toUInt64

/-- Whether a flag admits a value: a path is not empty, and a time is a number of seconds. -/
def admits (flag : Flag) (value : String) : Bool :=
  match flag with
  | kubeconfig | config => !value.isEmpty
  | timeout => (seconds? value).isSome
  | _ => true

end Flag

/-- What has been read of a command line. -/
structure Scan where
  pod : Option String
  /-- The flags that have been given, with their values. -/
  given : List (Flag × String)
  /-- The flag whose value is to follow. -/
  pending : Option Flag
  /-- Whether help has been asked for. -/
  help : Bool
  deriving DecidableEq, Repr

namespace Scan

/-- Nothing has been read. -/
def start : Scan := ⟨none, [], none, false⟩

/-- Takes a flag and its value. -/
def give (scan : Scan) (flag : Flag) (value : String) : Option Scan :=
  if scan.given.any (·.1 == flag) || !flag.admits value then none
  else some { scan with given := (flag, value) :: scan.given, pending := none }

/-- Asks for help. -/
def askHelp (scan : Scan) : Scan := { scan with help := true }

/-- Whether a word looks like a flag. -/
def looksLikeFlag (word : String) : Bool :=
  match word.toList with
  | '-' :: _ :: _ => true
  | _ => false

/-- Takes a long flag, perhaps with a value after an equals sign. -/
def takeLong (scan : Scan) (text : List Char) : Option Scan := do
  let (name, value) := Text.cut '=' text
  if name = Flag.helpLong.toList && value.isNone then return scan.askHelp
  let flag ← Flag.ofLong? name
  match flag.takesValue, value with
  | true, some value => scan.give flag (String.ofList value)
  | true, none => return { scan with pending := some flag }
  | false, none => scan.give flag ""
  | false, some _ => none

/-- Takes short flags; what follows one with a value is its value. -/
def takeShort (scan : Scan) : List Char → Option Scan
  | [] => some scan
  | c :: rest => do
    if c = Flag.helpShort then return scan.askHelp
    let flag ← Flag.ofShort? c
    match flag.takesValue, rest with
    | true, [] => return { scan with pending := some flag }
    | true, '=' :: value => scan.give flag (String.ofList value)
    | true, value => scan.give flag (String.ofList value)
    | false, more => takeShort (← scan.give flag "") more

/-- Takes a word that is neither a flag nor the value of one. -/
def takePod (scan : Scan) (word : String) : Option Scan :=
  if scan.pod.isSome then none else some { scan with pod := some word }

/-- Takes a word before the double dash. -/
def take (scan : Scan) (word : String) : Option Scan :=
  match scan.pending with
  | some flag => if looksLikeFlag word then none else scan.give flag word
  | none =>
    match word.toList with
    | '-' :: '-' :: text => scan.takeLong text
    | '-' :: c :: text => scan.takeShort (c :: text)
    | _ => scan.takePod word

/-- The value that has been given to a flag. -/
def value? (scan : Scan) (flag : Flag) : Option String :=
  (scan.given.find? (·.1 == flag)).map (·.2)

/-- What has been asked for, once all words have been read. -/
def finish (scan : Scan) (command : List String) : Option CommandLine := do
  if scan.pending.isSome then none
  let pod ← scan.pod
  return {
    pod, command
    ns := scan.value? .ns
    container := scan.value? .container
    context := scan.value? .context
    kubeconfig := scan.value? .kubeconfig
    timeoutSecs := (scan.value? .timeout).bind Flag.seconds?
    stdin := (scan.value? .stdin).isSome
    config := scan.value? .config }

/-- Reads words. -/
def words (scan : Scan) : List String → Option Demand
  | [] => (scan.finish []).map .run
  | word :: rest =>
    if word = "--" then (scan.finish rest).map .run
    else
      match scan.take word with
      | some scan => if scan.help then some .help else words scan rest
      | none => none

end Scan

/-- What the words of a command line ask for; nothing if it is not used as it should be. -/
def demand? (words : List String) : Option Demand := Scan.start.words words

/-- Reads a command line that asks for a command to be run. -/
def parse? (words : List String) : Option CommandLine := do
  let .run line ← demand? words | none
  return line

/-- How the program is used. -/
def usage : String := "Usage: podexec [OPTIONS] <POD> [-- <COMMAND>...]\n"

/-- Terms and what is to be said about them, in two columns. -/
def columns (rows : List (String × String)) : String :=
  let width := (rows.map (·.1.length)).foldl max 0
  String.join (rows.map fun row =>
    "  " ++ row.1 ++ String.ofList (List.replicate (width + 2 - row.1.length) ' ') ++ row.2 ++ "\n")

/-- The answer to who asks for help. -/
def help : String :=
  "Run a command in a Kubernetes pod and capture its output\n\n" ++ usage ++
    "\nArguments:\n" ++
    columns
      [("<POD>", "Pod to run the command in"),
        ("[COMMAND]...",
          "Command and arguments, after `--`; defaults to the config file's command")] ++
    "\nOptions:\n" ++
    columns (Flag.all.map (fun flag => (flag.spelled, flag.about)) ++
      [("-h, --" ++ Flag.helpLong, "Print help")])

/-- Settings with what the command line says put in their place. -/
def apply (line : CommandLine) (settings : Settings) : Settings :=
  { kubeconfig := line.kubeconfig <|> settings.kubeconfig
    context := line.context <|> settings.context
    ns := line.ns.getD settings.ns
    container := line.container <|> settings.container
    command := if line.command.isEmpty then settings.command else line.command
    timeoutSecs := line.timeoutSecs <|> settings.timeoutSecs }

/-- The target that settings and a pod's name make up. -/
def target (line : CommandLine) (settings : Settings) : Target :=
  { Target.pod settings.ns line.pod with container := settings.container }

end CommandLine
end PodCommand
