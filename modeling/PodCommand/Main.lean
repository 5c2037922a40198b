import PodCommand.CommandLine.Run

namespace PodCommand
namespace Main

/-!
The program on a real machine.  The environment and the files that a run looks at are read first;
everything else is decided by `CommandLine.perform`.  This layer opens no connections, so a run that
asks for a session finds its server out of reach.
-/

/-- The variables of the environment that matter. -/
def variableNames : List String :=
  ["HOME", "XDG_CONFIG_HOME", "KUBERNETES_SERVICE_HOST", "KUBERNETES_SERVICE_PORT", "HTTPS_PROXY",
    "https_proxy"]

/-- The environment. -/
def readVariables : IO (List (String × String)) :=
  variableNames.filterMapM fun name => do
    return (← IO.getEnv name).map fun value => (name, value)

/-- What stands at a path on the machine. -/
def readEntry (path : String) : IO (Option FileEntry) := do
  try
    return some (.file (← IO.FS.readBinFile path).toList)
  catch error =>
    match error with
    | .inappropriateType .. => return some .directory
    | _ => return none

/-- The files with what stands at a path put into them. -/
def readPath (files : Files) (path : String) : IO Files := do
  match ← readEntry path with
  | none => return files
  | some .directory => return (files.makeDirectories path path.length).toOption.getD files
  | some (.file content) =>
    let files := (Settings.makeRoom files path).toOption.getD files
    return (files.write path content).toOption.getD files

/-- Reads what a run looks at.  A file can name others, so this is done as often as files name files
in a chain: the settings name a kubeconfig, and a kubeconfig names certificates. -/
def readHost (line : CommandLine) : IO Host := do
  let start : Host := ⟨.empty, ← readVariables, none⟩
  [(), (), ()].foldlM (fun host _ => do
    return { host with files := ← (line.paths host).foldlM readPath host.files }) start

/-- Reads a stream to its end. -/
partial def readAll (stream : IO.FS.Stream) (seen : ByteArray) : IO ByteArray := do
  let piece ← stream.read 8192
  if piece.isEmpty then return seen else readAll stream (seen ++ piece)

end Main
end PodCommand

open PodCommand in
/-- Runs the program. -/
def main (words : List String) : IO UInt32 := do
  match CommandLine.demand? words with
  | none =>
    (← IO.getStderr).putStr CommandLine.usage
    return 2
  | some .help =>
    (← IO.getStdout).putStr CommandLine.help
    return 0
  | some (.run line) =>
    let host ← Main.readHost line
    let input ← if line.stdin then Main.readAll (← IO.getStdin) .empty else pure .empty
    let (exit, _) := (CommandLine.perform words host [.data input.toList]).run ⟨false, [], []⟩
    (← IO.getStdout).putStr exit.stdout
    (← IO.getStderr).putStr exit.stderr
    return (exit.code?.getD 1).toUInt32
