import PodCommand.Proofs.Files
import PodCommand.Proofs.Settings.Written
import PodCommand.Proofs.Text.Utf8
import PodCommand.Settings.Storage

namespace PodCommand
namespace Settings

/-!
Settings that have been saved.

A file that has been written holds the written form of the settings, whatever stood there before,
and is read as them.  Because the directories above it are there by then, saving once more makes
nothing and writes the same octets.
-/

/-- There is room for a file where its directory is there, or where it has none of its own. -/
theorem makeRoom_of_room {files : Files} {path : String}
    (room : ∀ parent, Path.parent? path = some parent →
      parent.isEmpty = true ∨ files.pathExists parent = true) :
    makeRoom files path = .ok files := by
  rw [makeRoom]
  cases above : Path.parent? path with
  | none => rfl
  | some parent =>
      simp only
      by_cases there : files.pathExists parent = true
      · rw [if_pos there]
      · have unnamed : parent.isEmpty = true := (room parent above).resolve_right there
        rw [if_neg there]
        cases parent.length with
        | zero => rw [Files.makeDirectories, Files.makeBelow, if_pos unnamed]
        | succ fuel => rw [Files.makeDirectories, Files.makeBelow, if_pos unnamed]

theorem room_of_makeRoom {files roomy : Files} {path : String}
    (makes : makeRoom files path = .ok roomy) {parent : String}
    (above : Path.parent? path = some parent) :
    parent.isEmpty = true ∨ roomy.pathExists parent = true := by
  rw [makeRoom, above] at makes
  simp only at makes
  by_cases there : files.pathExists parent = true
  · rw [if_pos there] at makes
    rw [← Except.ok.inj makes]
    exact .inr there
  · rw [if_neg there] at makes
    cases named : parent.isEmpty with
    | true => exact .inl rfl
    | false =>
        exact .inr (Files.pathExists_of_isDirectory
          (Files.isDirectory_makeDirectories (Files.isTrimmed_parent above) named makes))

/-- Settings are saved by writing their written form, once there is room for it. -/
theorem saveTo_eq_ok {settings : Settings} {files saved : Files} {path : String}
    {told : SettingsEvent} (saves : settings.saveTo files path = .ok (saved, told)) :
    ∃ roomy, makeRoom files path = .ok roomy ∧
      roomy.write path (Text.Utf8.encode settings.write) = .ok saved ∧ told = .saved path := by
  rw [saveTo] at saves
  cases makes : makeRoom files path with
  | error error =>
      simp only [makes] at saves
      cases saves
  | ok roomy =>
      simp only [makes] at saves
      cases writes : roomy.write path (Text.Utf8.encode settings.write) with
      | error error =>
          simp only [writes] at saves
          cases saves
      | ok written =>
          simp only [writes, Except.ok.injEq, Prod.mk.injEq] at saves
          exact ⟨roomy, rfl, by rw [← saves.1, writes], saves.2.symm⟩

/-- A file that holds the written form of settings is loaded as them. -/
theorem loadFrom_written {settings : Settings} {files : Files} {path : String}
    (held : files.read path = .ok (Text.Utf8.encode settings.write)) :
    loadFrom files path = .ok (settings, .loaded path) := by
  have text : files.readText path = .ok settings.write := by
    simp only [Files.readText, held, bind, Except.bind, Text.Utf8.decode?_encode]
    rfl
  simp only [loadFrom, Files.pathExists_of_read held, text, parse_write, Bool.not_true,
    Bool.false_eq_true, if_false]

/-- Saving settings where they have just been saved changes nothing at all. -/
theorem saveTo_saved {settings : Settings} {files saved : Files} {path : String}
    {told : SettingsEvent} (saves : settings.saveTo files path = .ok (saved, told)) :
    settings.saveTo saved path = .ok (saved, .saved path) := by
  obtain ⟨roomy, makes, writes, -⟩ := saveTo_eq_ok saves
  have room : makeRoom saved path = .ok saved := by
    refine makeRoom_of_room fun parent above => ?_
    exact (room_of_makeRoom makes above).imp_right (Files.pathExists_write writes)
  simp only [saveTo, room, Files.write_write writes]

/-- What a file is once settings have been saved in it. -/
structure Stored (settings : Settings) (files : Files) (path : String) : Prop where
  held : files.read path = .ok (Text.Utf8.encode settings.write)
  /-- Loading gives back the settings, every field of them. -/
  loads : loadFrom files path = .ok (settings, .loaded path)
  /-- Saving what is loaded leaves the file and all others as they are. -/
  settled : ∀ {loaded told}, loadFrom files path = .ok (loaded, told) →
    loaded.saveTo files path = .ok (files, .saved path)

/-- Settings that have been saved are loaded as they were, and saving them again is no change. -/
theorem saveTo_stored {settings : Settings} {files saved : Files} {path : String}
    {told : SettingsEvent} (saves : settings.saveTo files path = .ok (saved, told)) :
    Stored settings saved path := by
  obtain ⟨roomy, makes, writes, -⟩ := saveTo_eq_ok saves
  have held := Files.read_write writes
  have loads := loadFrom_written held
  refine ⟨held, loads, fun {loaded told} loads' => ?_⟩
  rw [loads, Except.ok.injEq, Prod.mk.injEq] at loads'
  rw [← loads'.1]
  exact saveTo_saved saves

/-- Settings full of what has to be escaped. -/
def hostile : Settings :=
  ⟨some "/k\"\\", some "\x00\n", "", none, ["sh", "-c", "echo 𝄞 > \t"],
    some 18446744073709551615⟩

/-- They are kept in directories that are made for them. -/
theorem hostile_stored :
    ∃ saved, hostile.saveTo .empty "home/podexec/config.json" =
        .ok (saved, .saved "home/podexec/config.json") ∧
      Stored hostile saved "home/podexec/config.json" := by
  have possible :
      (hostile.saveTo .empty "home/podexec/config.json").toOption.isSome = true := by
    decide +kernel
  cases saves : hostile.saveTo .empty "home/podexec/config.json" with
  | error refused =>
      rw [saves] at possible
      cases possible
  | ok result =>
      obtain ⟨saved, told⟩ := result
      obtain ⟨-, -, -, rfl⟩ := saveTo_eq_ok saves
      exact ⟨saved, rfl, saveTo_stored saves⟩

end Settings
end PodCommand
