import PodCommand.Yaml.Value

namespace PodCommand
namespace Yaml

/-!
Reading typed data out of values.  A tag does not change what a value is read as, and a null is
read as an empty list or record where one of these is wanted.  A record is read field by field;
fields that nobody asks for are ignored, but every name has to be a text.
-/

/-- The fields of a record, in the order in which they were written. -/
abbrev Record := List (String × Value)

namespace Value

/-- The value without its tags. -/
def untagged : Value → Value
  | tagged _ value => value.untagged
  | value => value

/-- Reads a text. -/
def readText (value : Value) : Option String :=
  match value.untagged with
  | text value => some value
  | _ => none

/-- Reads a truth value. -/
def readBool (value : Value) : Option Bool :=
  match value.untagged with
  | bool value => some value
  | _ => none

/-- Reads a value that may be null. -/
def readOptional {α : Type} (read : Value → Option α) : Value → Option (Option α)
  | null => some none
  | value => (read value).map some

/-- Reads a list. -/
def readList {α : Type} (read : Value → Option α) (value : Value) : Option (List α) :=
  match value.untagged with
  | null => some []
  | sequence items => items.mapM read
  | _ => none

/-- Reads a record. -/
def readRecord (value : Value) : Option Record :=
  match value.untagged with
  | null => some []
  | mapping entries => entries.mapM fun entry => entry.1.readText.map fun name => (name, entry.2)
  | _ => none

/-- Reads a record all of whose fields have values of one kind. -/
def readTable {α : Type} (read : Value → Option α) (value : Value) : Option (List (String × α)) :=
  value.readRecord.bind fun record =>
    record.mapM fun field => (read field.2).map fun value => (field.1, value)

end Value

namespace Record

/-- The value of a field. -/
def value? (record : Record) (name : String) : Option Value :=
  (record.find? (·.1 == name)).map (·.2)

/-- Reads a field that has to be there. -/
def required {α : Type} (record : Record) (name : String) (read : Value → Option α) : Option α :=
  (record.value? name).bind read

/-- Reads a field that may be missing or null. -/
def allowed {α : Type} (record : Record) (name : String) (read : Value → Option α) :
    Option (Option α) :=
  match record.value? name with
  | none => some none
  | some value => value.readOptional read

/-- Reads a field that has a value of its own where it is missing. -/
def orElse {α : Type} (record : Record) (name : String) (missing : α) (read : Value → Option α) :
    Option α :=
  match record.value? name with
  | none => some missing
  | some value => read value

end Record
end Yaml
end PodCommand
