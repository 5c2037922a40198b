import PodCommand.Json.Event

namespace PodCommand
namespace Json

/-!
Reading values of a known form from the events of a text.  Each reader takes the events that its
value consists of and leaves the rest; where an event does not fit, the problem is the one that
stands there, and a value that nobody asked for is skipped whatever its form.
-/

namespace Transcript

/-- The next event; at the end, the problem that ended the text. -/
def next (transcript : Transcript) : Except Problem (Event × Transcript) :=
  match transcript.events with
  | event :: rest => .ok (event, { transcript with events := rest })
  | [] => .error (transcript.problem.getD .malformed)

end Transcript

/-- The problem of an event that is not of the wanted form.  A number or a string is read to its
end first, so what is wrong within it goes before its being of the wrong form. -/
def Event.misfit : Event → Problem
  | .cutNumber => .ended
  | .number written => if written.decimal.isFinite then .mismatched else .malformed
  | .string none => .malformed
  | _ => .mismatched

/-- Reads a string. -/
def readString (transcript : Transcript) : Except Problem (List Char × Transcript) := do
  match ← transcript.next with
  | (.string (some text), rest) => return (text, rest)
  | (event, _) => throw event.misfit

/-- Reads a natural number below a bound. -/
def readNatural (bound : Nat) (transcript : Transcript) : Except Problem (Nat × Transcript) := do
  match ← transcript.next with
  | (.number number, rest) =>
    match number.natural? with
    | some n => if n < bound then return (n, rest) else throw (Event.misfit (.number number))
    | none => throw (Event.misfit (.number number))
  | (event, _) => throw event.misfit

/-- Reads an integer that lies in a range: at least the first number and below the second. -/
def readInteger (least bound : Int) (transcript : Transcript) :
    Except Problem (Int × Transcript) := do
  match ← transcript.next with
  | (.number number, rest) =>
    match number.integer? with
    | some n =>
      if least ≤ n && n < bound then return (n, rest) else throw (Event.misfit (.number number))
    | none => throw (Event.misfit (.number number))
  | (event, _) => throw event.misfit

/-- Reads a value that may be `null` instead. -/
def readOptional {α : Type} (read : Transcript → Except Problem (α × Transcript))
    (transcript : Transcript) : Except Problem (Option α × Transcript) := do
  match ← transcript.next with
  | (.null, rest) => return (none, rest)
  | _ =>
    let (value, rest) ← read transcript
    return (some value, rest)

/-- Reads a string or `null`. -/
def readText? (transcript : Transcript) : Except Problem (Option String × Transcript) := do
  let (text, rest) ← readOptional readString transcript
  return (text.map String.ofList, rest)

/-- Skips events until so many open containers are closed again. -/
def skipOpen (problem : Option Problem) : Nat → List Event → Except Problem Transcript
  | 0, events => .ok ⟨events, problem⟩
  | _ + 1, [] => .error (problem.getD .malformed)
  | depth + 1, .beginArray :: rest => skipOpen problem (depth + 2) rest
  | depth + 1, .beginObject :: rest => skipOpen problem (depth + 2) rest
  | depth + 1, .endArray :: rest => skipOpen problem depth rest
  | depth + 1, .endObject :: rest => skipOpen problem depth rest
  | depth + 1, _ :: rest => skipOpen problem (depth + 1) rest

/-- Skips a value of any form. -/
def skipValue (transcript : Transcript) : Except Problem Transcript := do
  match ← transcript.next with
  | (.beginArray, rest) => skipOpen rest.problem 1 rest.events
  | (.beginObject, rest) => skipOpen rest.problem 1 rest.events
  | (.cutNumber, _) => throw .malformed
  | (_, rest) => return rest

/-- Reads the elements of an array whose beginning has been read, in reverse. -/
def readElements {α : Type} (read : Transcript → Except Problem (α × Transcript)) :
    Nat → List α → Transcript → Except Problem (List α × Transcript)
  | 0, _, _ => .error .malformed
  | fuel + 1, seen, transcript => do
    match ← transcript.next with
    | (.endArray, rest) => return (seen, rest)
    | (.comma, rest) => readElements read fuel seen rest
    | _ =>
      let (value, rest) ← read transcript
      readElements read fuel (value :: seen) rest

/-- Reads an array of values of one form. -/
def readArray {α : Type} (read : Transcript → Except Problem (α × Transcript))
    (transcript : Transcript) : Except Problem (List α × Transcript) := do
  match ← transcript.next with
  | (.beginArray, rest) =>
    let (seen, rest) ← readElements read (rest.events.length + 1) [] rest
    return (seen.reverse, rest)
  | (event, _) => throw event.misfit

/-- Reads the members of an object whose beginning has been read: `member` takes what has been read
so far, a key and the events from the key's value on. -/
def readMembers {α : Type}
    (member : α → List Char → Transcript → Except Problem (α × Transcript)) :
    Nat → α → Transcript → Except Problem (α × Transcript)
  | 0, _, _ => .error .malformed
  | fuel + 1, value, transcript => do
    match ← transcript.next with
    | (.endObject, rest) => return (value, rest)
    | (.comma, rest) => readMembers member fuel value rest
    | (.key (some key), rest) =>
      let (value, rest) ← member value key rest
      readMembers member fuel value rest
    | _ => throw .malformed

/-- Reads an object, starting from the value of an empty one. -/
def readObject {α : Type} (empty : α)
    (member : α → List Char → Transcript → Except Problem (α × Transcript))
    (transcript : Transcript) : Except Problem (α × Transcript) := do
  match ← transcript.next with
  | (.beginObject, rest) => readMembers member (rest.events.length + 1) empty rest
  | (event, _) => throw event.misfit

/-- Checks that nothing follows a value. -/
def finish {α : Type} (read : α × Transcript) : Except Problem α :=
  match read.2 with
  | ⟨[], none⟩ => .ok read.1
  | ⟨_, problem⟩ => .error (problem.getD .malformed)

end Json
end PodCommand
