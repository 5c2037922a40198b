import PodCommand.ExitStatus
import PodCommand.Json.Reading
import PodCommand.Text.Utf8

namespace PodCommand
namespace StatusReport

/-!
Reading the report that a server sends at the end of a session: a JSON object of which the kind and
the version are fixed where they are given.  Of two members with one key the later counts.
-/

open Json (Transcript Problem)

/-- Checks a string or `null`. -/
def skipText (transcript : Transcript) : Except Problem Transcript := do
  return (← Json.readText? transcript).2

/-- Checks an integer of so many bits or `null`. -/
def skipInteger (bits : Nat) (transcript : Transcript) : Except Problem Transcript := do
  let half : Int := Nat.pow 2 (bits - 1)
  return (← Json.readOptional (Json.readInteger (-half) half) transcript).2

/-- Checks a string that has to be a given one. -/
def expect (wanted : String) (transcript : Transcript) : Except Problem Transcript := do
  let (text, rest) ← Json.readString transcript
  if text = wanted.toList then return rest else throw .mismatched

/-- Reads a cause. -/
def readCause : Transcript → Except Problem (StatusCause × Transcript) :=
  Json.readObject ⟨none, none, none⟩ fun cause key transcript => do
    match String.ofList key with
    | "field" =>
      let (text, rest) ← Json.readText? transcript
      return ({ cause with field := text }, rest)
    | "message" =>
      let (text, rest) ← Json.readText? transcript
      return ({ cause with message := text }, rest)
    | "reason" =>
      let (text, rest) ← Json.readText? transcript
      return ({ cause with reason := text }, rest)
    | _ => return (cause, ← Json.skipValue transcript)

/-- Reads the details. -/
def readDetails : Transcript → Except Problem (StatusDetails × Transcript) :=
  Json.readObject ⟨none⟩ fun details key transcript => do
    match String.ofList key with
    | "causes" =>
      let (causes, rest) ← Json.readOptional (Json.readArray readCause) transcript
      return (⟨causes⟩, rest)
    | "group" | "kind" | "name" | "uid" => return (details, ← skipText transcript)
    | "retryAfterSeconds" => return (details, ← skipInteger 32 transcript)
    | _ => return (details, ← Json.skipValue transcript)

/-- Checks the metadata. -/
def readMetadata : Transcript → Except Problem (Unit × Transcript) :=
  Json.readObject () fun _ key transcript => do
    match String.ofList key with
    | "continue" | "resourceVersion" | "selfLink" => return ((), ← skipText transcript)
    | "remainingItemCount" => return ((), ← skipInteger 64 transcript)
    | _ => return ((), ← Json.skipValue transcript)

/-- Reads a report. -/
def read : Transcript → Except Problem (StatusReport × Transcript) :=
  Json.readObject ⟨none, none, none, none⟩ fun report key transcript => do
    match String.ofList key with
    | "apiVersion" => return (report, ← expect "v1" transcript)
    | "kind" => return (report, ← expect "Status" transcript)
    | "code" => return (report, ← skipInteger 32 transcript)
    | "metadata" => return (report, (← Json.readOptional readMetadata transcript).2)
    | "details" =>
      let (details, rest) ← Json.readOptional readDetails transcript
      return ({ report with details := details }, rest)
    | "message" =>
      let (text, rest) ← Json.readText? transcript
      return ({ report with message := text }, rest)
    | "reason" =>
      let (text, rest) ← Json.readText? transcript
      return ({ report with reason := text }, rest)
    | "status" =>
      let (text, rest) ← Json.readText? transcript
      return ({ report with status := text }, rest)
    | _ => return (report, ← Json.skipValue transcript)

/-- The text of octets.  What is no text is written as half of a surrogate pair, which may stand in
a string that is skipped but not in one that is read. -/
def textOf (bytes : Bytes) : List Char :=
  (Text.Utf8.segments bytes).flatMap fun segment =>
    match segment with
    | some c => [c]
    | none => ['\\', 'u', 'd', '8', '0', '0']

/-- Reads the report that octets are. -/
def parse? (bytes : Bytes) : Option StatusReport :=
  ((read (Json.scan (textOf bytes))).bind Json.finish).toOption

end StatusReport
end PodCommand
