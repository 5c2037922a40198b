import PodCommand.Host
import PodCommand.Log
import PodCommand.Settings

namespace PodCommand

/-- Why settings cannot be loaded or saved. -/
inductive SettingsError
  /-- The file cannot be read or written. -/
  | file (error : FileError)
  /-- The file does not hold settings. -/
  | content (problem : Json.Problem)
  /-- There is no directory for settings. -/
  | noDirectory
  deriving DecidableEq, Repr

namespace SettingsError

/-- The error in words; what exactly is wrong with a file's content is left open. -/
def message : SettingsError → String
  | file error => "Failed to read config file: " ++ error.message
  | content _ => "Failed to parse config file: <detail>"
  | noDirectory => "Config directory not found"

end SettingsError

/-- What happened to the file that holds settings. -/
inductive SettingsEvent
  | missing
  | loaded (path : String)
  | saved (path : String)
  deriving DecidableEq, Repr

/-- The event as the log tells it. -/
def SettingsEvent.log : SettingsEvent → LogLine
  | missing => ⟨.info, "Config file not found, using defaults"⟩
  | loaded path => ⟨.info, "Loaded configuration from " ++ Path.quoted path⟩
  | saved path => ⟨.info, "Saved configuration to " ++ Path.quoted path⟩

namespace Settings

/-!
Settings in files.  A missing file stands for the default settings; saving makes the directories
that are missing above the file.
-/

/-- The directory of the user's settings. -/
def directory? (host : Host) : Option String :=
  host.configDirectory?.map (Path.join · "podexec")

/-- The file of the user's settings. -/
def path? (host : Host) : Option String :=
  (directory? host).map (Path.join · "config.json")

/-- Loads the settings in a file. -/
def loadFrom (files : Files) (path : String) : Except SettingsError (Settings × SettingsEvent) :=
  if !files.pathExists path then .ok (default, .missing)
  else
    match files.readText path with
    | .error error => .error (.file error)
    | .ok text =>
      match parse text with
      | .error problem => .error (.content problem)
      | .ok settings => .ok (settings, .loaded path)

/-- Loads the user's settings. -/
def load (host : Host) : Except SettingsError (Settings × SettingsEvent) :=
  match path? host with
  | none => .error .noDirectory
  | some path => loadFrom host.files path

/-- The files after the directory of a file has been made, if it is missing. -/
def makeRoom (files : Files) (path : String) : Except FileError Files :=
  match Path.parent? path with
  | none => .ok files
  | some parent =>
    if files.pathExists parent then .ok files else files.makeDirectories parent parent.length

/-- Saves settings in a file. -/
def saveTo (settings : Settings) (files : Files) (path : String) :
    Except SettingsError (Files × SettingsEvent) :=
  match makeRoom files path with
  | .error error => .error (.file error)
  | .ok files =>
    match files.write path (Text.Utf8.encode settings.write) with
    | .error error => .error (.file error)
    | .ok files => .ok (files, .saved path)

/-- Saves the user's settings. -/
def save (settings : Settings) (host : Host) : Except SettingsError (Files × SettingsEvent) :=
  match path? host with
  | none => .error .noDirectory
  | some path => settings.saveTo host.files path

end Settings
end PodCommand
