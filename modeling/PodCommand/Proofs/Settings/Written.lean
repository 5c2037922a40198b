import PodCommand.Proofs.Json.Printing
import PodCommand.Proofs.Settings.Fields

namespace PodCommand
namespace Settings

/-!
Settings are read as they were written.

The written form is JSON for an object of all six fields, and the only settings that adopt an object
of all fields are those whose values it holds.
-/

/-- The value of a field as it is written. -/
def value (settings : Settings) : Field → Json.Value
  | .kubeconfig => Json.textValue settings.kubeconfig
  | .context => Json.textValue settings.context
  | .ns => .string settings.ns.toList
  | .container => Json.textValue settings.container
  | .command => .array (settings.command.map fun word => .string word.toList)
  | .timeoutSecs =>
    (settings.timeoutSecs.map fun seconds => .number (.ofNat seconds.toNat)).getD .null

/-- The members of the written form. -/
def members (settings : Settings) : List (List Char × Json.Value) :=
  Field.all.map fun field => (field.key.toList, settings.value field)

theorem shows_value (settings : Settings) (field : Field) :
    settings.Shows field (settings.value field) := by
  cases field with
  | timeoutSecs =>
      unfold Shows value
      cases settings.timeoutSecs with
      | none => rfl
      | some seconds => exact ⟨_, rfl, Json.Numeral.isNatural_ofNat seconds.toNat⟩
  | _ => rfl

theorem isJson_writeText (text : Option String) :
    Json.IsJson (Json.writeOptional (fun text => Json.writeString text.toList) text)
      (Json.textValue text) := by
  cases text with
  | none => exact .null
  | some text => exact Json.isJson_writeString text.toList

theorem isJson_writeField (settings : Settings) (field : Field) :
    Json.IsJson (settings.writeField field) (settings.value field) := by
  cases field with
  | kubeconfig => exact isJson_writeText _
  | context => exact isJson_writeText _
  | ns => exact Json.isJson_writeString _
  | container => exact isJson_writeText _
  | command =>
      have strings := Json.isJson_writeStrings 1 (settings.command.map String.toList)
      rwa [List.map_map] at strings
  | timeoutSecs => exact Json.isJson_writeOptional (fun seconds => Json.isJson_toDigits _) _

theorem isJson_write (settings : Settings) :
    Json.IsJson settings.write (.object settings.members) := by
  have values : ∀ member ∈ Field.all.map fun field =>
      (field.key, settings.writeField field, settings.value field),
      Json.IsJson member.2.1 member.2.2 := by
    intro member listed
    rcases List.mem_map.mp listed with ⟨field, _, rfl⟩
    exact isJson_writeField settings field
  have object := Json.isJson_writeObject 0 values
  rw [List.map_map, List.map_map] at object
  exact object

theorem mem_all (field : Field) : field ∈ Field.all := by
  cases field <;> decide

/-- Only the settings themselves adopt their written form. -/
theorem adopts_members {settings other later : Settings} :
    other.Adopts settings.members later ↔ later = settings := by
  constructor
  · intro adopts
    refine eq_of_agrees fun field => ?_
    have told := adopts.told field _ (List.mem_map_of_mem (mem_all field))
    exact told.agrees (shows_value settings field)
  · rintro rfl
    refine ⟨fun field value member => ?_, fun field absent => absurd ?_ absent⟩
    · rcases List.mem_map.mp member with ⟨listed, _, same⟩
      cases key_injective (Prod.mk.inj same).1
      rw [← (Prod.mk.inj same).2]
      exact shows_value later field
    · exact List.mem_map_of_mem (List.mem_map_of_mem (mem_all field))

/-- Settings are read as they were written. -/
theorem parse_write (settings : Settings) : parse settings.write = .ok settings := by
  have distinct : (settings.members.map Prod.fst).Nodup := by
    have keys : (Field.all.map fun field => field.key.toList).Nodup := by decide
    rw [members, List.map_map]
    exact keys
  have parses := parse_object (isJson_write settings) distinct
  generalize parse settings.write = result at parses
  cases parses with
  | ok adopts => rw [adopts_members.mp adopts]
  | error none => exact absurd (adopts_members.mpr rfl) (none settings)

end Settings
end PodCommand
