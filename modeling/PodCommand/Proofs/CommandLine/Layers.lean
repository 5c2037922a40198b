import PodCommand.Proofs.CommandLine.Calls

namespace PodCommand

/-!
Which settings hold for a run, field by field.

Three layers can say something of a field: the command line, the file of settings, and what holds
where nothing has been chosen.  The first to say something decides, and none of them has a part in
any other field.  A file that cannot be read as settings, for whatever reason, says nothing of any
field; the command line is heard all the same.
-/

namespace Settings

/-! ## Fields and their values -/

/-- What settings can have in a field. -/
abbrev Field.Value : Field → Type
  | .kubeconfig | .context | .container => Option String
  | .ns => String
  | .command => List String
  | .timeoutSecs => Option UInt64

/-- What settings have in a field. -/
def get (settings : Settings) : (field : Field) → field.Value
  | .kubeconfig => settings.kubeconfig
  | .context => settings.context
  | .ns => settings.ns
  | .container => settings.container
  | .command => settings.command
  | .timeoutSecs => settings.timeoutSecs

theorem eq_of_get {settings other : Settings}
    (same : ∀ field, settings.get field = other.get field) : settings = other := by
  rcases settings with ⟨kubeconfig, context, ns, container, command, timeoutSecs⟩
  rcases other with ⟨kubeconfig', context', ns', container', command', timeoutSecs'⟩
  cases same .kubeconfig
  cases same .context
  cases same .ns
  cases same .container
  cases same .command
  cases same .timeoutSecs
  rfl

/-! ## Files -/

/-- What a file says of settings: nothing, unless it can be read as settings. -/
inductive Says (files : Files) : Option String → Option Settings → Prop
  /-- There is no directory for the user's settings. -/
  | nowhere : Says files none none
  | absent {path : String} (missing : files.pathExists path = false) : Says files (some path) none
  | unreadable {path : String} {error : FileError} (present : files.pathExists path = true)
      (failed : files.readText path = .error error) : Says files (some path) none
  | invalid {path : String} {text : List Char} {problem : Json.Problem}
      (present : files.pathExists path = true) (read : files.readText path = .ok text)
      (refused : parse text = .error problem) : Says files (some path) none
  | valid {path : String} {text : List Char} {settings : Settings}
      (present : files.pathExists path = true) (read : files.readText path = .ok text)
      (parsed : parse text = .ok settings) : Says files (some path) (some settings)

theorem exists_said (files : Files) (path? : Option String) :
    ∃ said, Says files path? said := by
  cases path? with
  | none => exact ⟨none, .nowhere⟩
  | some path =>
      cases found : files.pathExists path with
      | false => exact ⟨none, .absent found⟩
      | true =>
          cases read : files.readText path with
          | error error => exact ⟨none, .unreadable found read⟩
          | ok text =>
              cases parsed : parse text with
              | error problem => exact ⟨none, .invalid found read parsed⟩
              | ok settings => exact ⟨some settings, .valid found read parsed⟩

/-- The settings that are loaded, or the defaults where loading fails. -/
def loadedOr (loaded : Except SettingsError (Settings × SettingsEvent)) : Settings :=
  match loaded with
  | .ok (settings, _) => settings
  | .error _ => .default

theorem loadedOr_of_said {files : Files} {path : String} {said : Option Settings}
    (told : Says files (some path) said) : loadedOr (loadFrom files path) = said.getD .default := by
  cases told with
  | absent missing => simp only [loadFrom, missing, loadedOr, Option.getD_none]; rfl
  | unreadable present failed => simp only [loadFrom, present, failed]; rfl
  | invalid present read refused => simp only [loadFrom, present, read, refused]; rfl
  | valid present read parsed => simp only [loadFrom, present, read, parsed]; rfl

end Settings

namespace CommandLine

variable {line : CommandLine} {host : Host} {said : Option Settings}

/-- The file of settings for a run. -/
def file? (line : CommandLine) (host : Host) : Option String :=
  line.config <|> Settings.path? host

/-- A run starts from what the file says, or else from the defaults. -/
theorem stored_of_said (told : Settings.Says host.files (line.file? host) said) :
    line.stored host = said.getD .default := by
  unfold file? at told
  cases named : line.config with
  | some path =>
      rw [named] at told
      have loaded : line.stored host = Settings.loadedOr (Settings.loadFrom host.files path) := by
        rw [stored, named]
        rfl
      rw [loaded]
      exact Settings.loadedOr_of_said told
  | none =>
      rw [named] at told
      have loaded : line.stored host = Settings.loadedOr (Settings.load host) := by
        rw [stored, named]
        rfl
      rw [loaded, Settings.load]
      cases own : Settings.path? host with
      | none =>
          rw [own] at told
          cases told
          rfl
      | some path =>
          rw [own] at told
          exact Settings.loadedOr_of_said told

/-! ## The layers -/

/-- What a command line says of a field. -/
def said? (line : CommandLine) : (field : Settings.Field) → Option field.Value
  | .kubeconfig => line.kubeconfig.map some
  | .context => line.context.map some
  | .ns => line.ns
  | .container => line.container.map some
  | .command => if line.command = [] then none else some line.command
  | .timeoutSecs => line.timeoutSecs.map some

/-- The value that holds in a field: what the command line says of it, or else the file, or else the
default. -/
def effective (line : CommandLine) (file : Option Settings) (field : Settings.Field) :
    field.Value :=
  (line.said? field).getD ((file.map (·.get field)).getD (Settings.default.get field))

/-- Applying a command line changes the fields that it says something of. -/
theorem get_apply (line : CommandLine) (settings : Settings) (field : Settings.Field) :
    (line.apply settings).get field = (line.said? field).getD (settings.get field) := by
  cases field with
  | kubeconfig => cases given : line.kubeconfig <;> simp [apply, said?, Settings.get, given]
  | context => cases given : line.context <;> simp [apply, said?, Settings.get, given]
  | container => cases given : line.container <;> simp [apply, said?, Settings.get, given]
  | timeoutSecs => cases given : line.timeoutSecs <;> simp [apply, said?, Settings.get, given]
  | ns => rfl
  | command => cases given : line.command <;> simp [apply, said?, Settings.get, given]

theorem apply_apply (line : CommandLine) (settings : Settings) :
    line.apply (line.apply settings) = line.apply settings := by
  refine Settings.eq_of_get fun field => ?_
  rw [get_apply, get_apply]
  cases line.said? field <;> rfl

theorem get_settings (told : Settings.Says host.files (line.file? host) said)
    (field : Settings.Field) : (line.settings host).get field = line.effective said field := by
  rw [settings, get_apply, stored_of_said told, effective]
  cases said <;> rfl

/-- What a run with the values of the fields is: where they go, and that nothing else goes there. -/
def runWith (line : CommandLine) (value : (field : Settings.Field) → field.Value) (host : Host)
    (stdin : Script) : StateM Network (Ending ExecutionError (String × String)) :=
  Execution.texts host.files (Resolver.onHost host ⟨value .kubeconfig, value .context⟩)
    (Transport.call
      { target := ⟨value .ns, "pods", some line.pod, value .container⟩
        command := value .command
        timeout := (value .timeoutSecs).map fun seconds => .ofSeconds seconds.toNat
        stdin := if line.stdin then some stdin else none })

theorem run_eq_runWith (line : CommandLine) (host : Host) (stdin : Script) :
    line.run host stdin = line.runWith (line.settings host).get host stdin := rfl

/-- The settings of a run are decided field by field. -/
structure Layered (line : CommandLine) (host : Host) : Prop where
  /-- Whatever stands in its place, the file says something or nothing. -/
  told : ∃ file, Settings.Says host.files (line.file? host) file
  decided : ∀ file, Settings.Says host.files (line.file? host) file → ∀ field,
    (line.settings host).get field = line.effective file field
  /-- The command line is heard whether or not the file can be loaded. -/
  heard : ∀ field value, line.said? field = some value → (line.settings host).get field = value
  kept : ∀ settings field, line.said? field = none →
    (line.apply settings).get field = settings.get field
  again : ∀ settings, line.apply (line.apply settings) = line.apply settings
  /-- The values of the fields are all that a run takes from the layers. -/
  reaches : ∀ file, Settings.Says host.files (line.file? host) file → ∀ words stdin,
    parse? words = some line →
      perform words host stdin =
        do return .ofEnding (← line.runWith (line.effective file) host stdin)

theorem settings_layered (line : CommandLine) (host : Host) : line.Layered host where
  told := Settings.exists_said host.files (line.file? host)
  decided _ told field := get_settings told field
  heard field value given := by
    rw [settings, get_apply, given, Option.getD_some]
  kept settings field silent := by
    rw [get_apply, silent, Option.getD_none]
  again := line.apply_apply
  reaches file told words stdin parsed := by
    have values : (line.settings host).get = line.effective file :=
      funext fun field => get_settings told field
    simp only [perform, parse?_eq_some_iff.mp parsed, run_eq_runWith, values]

/-- A namespace from the command line, a container from a file, and no context from either. -/
example :
    let file := "\x7b\"namespace\": \"dev\", \"container\": \"app\"\x7d"
    let host : Host := ⟨⟨[(["s"], .file (Text.Utf8.encode file.toList))]⟩, [], none⟩
    (parse? ["-n", "ops", "--config", "s", "web-0"]).map (·.settings host) =
      some ⟨none, none, "ops", some "app", [], none⟩ := by
  decide +kernel

end CommandLine
end PodCommand
