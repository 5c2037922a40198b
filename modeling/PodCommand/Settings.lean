import PodCommand.Files.Path
import PodCommand.Json.Printing
import PodCommand.Json.Reading
import PodCommand.Time.Duration

namespace PodCommand

/-- The user's settings: where and what to run when the command line does not say. -/
structure Settings where
  /-- The kubeconfig to use outside a cluster. -/
  kubeconfig : Option String
  /-- The context of the kubeconfig; its current one where this is absent. -/
  context : Option String
  /-- The namespace of the pod. -/
  ns : String
  /-- The container of the pod; its default one where this is absent. -/
  container : Option String
  /-- The command to run where the command line names none. -/
  command : List String
  /-- How many seconds a command may take. -/
  timeoutSecs : Option UInt64
  deriving DecidableEq, Repr

namespace Settings

/-!
The user's settings and their written form.  Written settings are a JSON object with the six fields
in their order; what is read may leave fields out, hold others, or be an array of the first fields.
-/

/-- The settings of a user who has chosen none. -/
def default : Settings := ⟨none, none, "default", none, [], none⟩

instance : Inhabited Settings := ⟨default⟩

/-- How long a command may take. -/
def timeout (settings : Settings) : Option Duration :=
  settings.timeoutSecs.map fun seconds => .ofSeconds seconds.toNat

/-- Whether two settings mean the same: paths are compared by their components. -/
def same (left right : Settings) : Bool :=
  { left with kubeconfig := none } == { right with kubeconfig := none } &&
    left.kubeconfig.map Path.components == right.kubeconfig.map Path.components

/-- The fields, in the order in which they are written. -/
inductive Field
  | kubeconfig
  | context
  | ns
  | container
  | command
  | timeoutSecs
  deriving DecidableEq, Repr

namespace Field

/-- All fields, in the order in which they are written. -/
def all : List Field := [kubeconfig, context, ns, container, command, timeoutSecs]

/-- The field's name in the written form. -/
def key : Field → String
  | kubeconfig => "kubeconfig"
  | context => "context"
  | ns => "namespace"
  | container => "container"
  | command => "command"
  | timeoutSecs => "timeout_secs"

/-- The field that a key names. -/
def ofKey? (key : List Char) : Option Field :=
  all.find? fun field => field.key.toList == key

end Field

/-- The value of a field as it is written. -/
def writeField (settings : Settings) : Field → List Char
  | .kubeconfig => Json.writeOptional (fun text => Json.writeString text.toList) settings.kubeconfig
  | .context => Json.writeOptional (fun text => Json.writeString text.toList) settings.context
  | .ns => Json.writeString settings.ns.toList
  | .container => Json.writeOptional (fun text => Json.writeString text.toList) settings.container
  | .command => Json.writeStrings 1 (settings.command.map String.toList)
  | .timeoutSecs =>
    Json.writeOptional (fun seconds => Nat.toDigits 10 seconds.toNat) settings.timeoutSecs

/-- The written form of settings. -/
def write (settings : Settings) : List Char :=
  Json.writeObject 0 (Field.all.map fun field =>
    Json.writeMember field.key (settings.writeField field))

open Json (Transcript Problem)

/-- Reads the value of a field into settings. -/
def readField (settings : Settings) (field : Field) (transcript : Transcript) :
    Except Problem (Settings × Transcript) :=
  match field with
  | .kubeconfig => do
    let (text, rest) ← Json.readText? transcript
    return ({ settings with kubeconfig := text }, rest)
  | .context => do
    let (text, rest) ← Json.readText? transcript
    return ({ settings with context := text }, rest)
  | .ns => do
    let (text, rest) ← Json.readString transcript
    return ({ settings with ns := String.ofList text }, rest)
  | .container => do
    let (text, rest) ← Json.readText? transcript
    return ({ settings with container := text }, rest)
  | .command => do
    let (words, rest) ← Json.readArray Json.readString transcript
    return ({ settings with command := words.map String.ofList }, rest)
  | .timeoutSecs => do
    let (seconds, rest) ← Json.readOptional (Json.readNatural UInt64.size) transcript
    return ({ settings with timeoutSecs := seconds.map (·.toUInt64) }, rest)

/-- Reads a member of an object: a field that has not been read before, or a value to skip. -/
def readMember (state : Settings × List Field) (key : List Char) (transcript : Transcript) :
    Except Problem ((Settings × List Field) × Transcript) :=
  match Field.ofKey? key with
  | none => do
    let rest ← Json.skipValue transcript
    return (state, rest)
  | some field =>
    if state.2.contains field then .error .mismatched
    else do
      let (settings, rest) ← readField state.1 field transcript
      return ((settings, field :: state.2), rest)

/-- Reads the elements of an array as the fields in their order; fields may be missing at the end,
but nothing may follow the last. -/
def readPositions : List Field → Settings → Transcript → Except Problem (Settings × Transcript)
  | [], settings, transcript => do
    match ← transcript.next with
    | (.endArray, rest) => return (settings, rest)
    | _ => throw .malformed
  | field :: fields, settings, transcript => do
    match ← transcript.next with
    | (.endArray, rest) => return (settings, rest)
    | (.comma, rest) =>
      let (settings, rest) ← readField settings field rest
      readPositions fields settings rest
    | _ =>
      let (settings, rest) ← readField settings field transcript
      readPositions fields settings rest

/-- Reads settings from the events of a text. -/
def ofTranscript (transcript : Transcript) : Except Problem Settings := do
  match ← transcript.next with
  | (.beginObject, _) =>
    let (state, rest) ← Json.readObject (default, []) readMember transcript
    Json.finish (state.1, rest)
  | (.beginArray, rest) => Json.finish (← readPositions Field.all default rest)
  | (event, _) => throw event.misfit

/-- Reads settings from their written form. -/
def parse (text : List Char) : Except Problem Settings :=
  ofTranscript (Json.scan text)

end Settings
end PodCommand
