import PodCommand.Text.Utf8

namespace PodCommand
namespace Der

/-!
Elements of the distinguished encoding (DER): a tag, a length in its shortest form, and so many
octets.  Tags of more than one octet do not occur in what is read here.
-/

/-- An element. -/
structure Element where
  tag : UInt8
  content : Bytes
  deriving DecidableEq, Repr

/-- The tags that certificates and keys are made of. -/
def booleanTag : UInt8 := 0x01
def integerTag : UInt8 := 0x02
def bitStringTag : UInt8 := 0x03
def octetStringTag : UInt8 := 0x04
def identifierTag : UInt8 := 0x06
def sequenceTag : UInt8 := 0x30

/-- The tag of a constructed element that only its context gives a meaning. -/
def contextTag (number : UInt8) : UInt8 := 0xA0 + number

/-- The first length that is not admitted. -/
def lengthLimit : Nat := 0xFFFF

/-- The number that octets denote, the most significant first. -/
def number (bytes : Bytes) : Nat :=
  bytes.foldl (fun value b => value * 256 + b.toNat) 0

/-- Reads a length. -/
def length? : Bytes → Option (Nat × Bytes)
  | [] => none
  | first :: rest =>
    if first < 0x80 then some (first.toNat, rest)
    else
      let count := first.toNat - 0x80
      let octets := rest.take count
      let value := number octets
      if count = 0 || 4 < count || octets.length < count then none
      else if value < 0x80 || (1 < count && value < Nat.pow 256 (count - 1)) then none
      else some (value, rest.drop count)

/-- Reads an element at the front of octets. -/
def element? : Bytes → Option (Element × Bytes)
  | [] => none
  | tag :: rest =>
    if tag % 0x20 = 0x1F then none
    else
      match length? rest with
      | none => none
      | some (length, rest) =>
        if lengthLimit ≤ length || rest.length < length then none
        else some (⟨tag, rest.take length⟩, rest.drop length)

/-- Reads an element with a tag. -/
def expect? (tag : UInt8) (bytes : Bytes) : Option (Bytes × Bytes) := do
  let (element, rest) ← element? bytes
  if element.tag = tag then return (element.content, rest) else none

/-- Reads the one element that octets consist of. -/
def only? (tag : UInt8) (bytes : Bytes) : Option Bytes := do
  let (content, rest) ← expect? tag bytes
  if rest.isEmpty then return content else none

/-- Reads the elements that octets consist of; the fuel bounds their number. -/
def elements? (fuel : Nat) (bytes : Bytes) : Option (List Element) :=
  match fuel, bytes with
  | _, [] => some []
  | 0, _ :: _ => none
  | fuel + 1, bytes =>
    match element? bytes with
    | none => none
    | some (element, rest) => (elements? fuel rest).map (element :: ·)

end Der
end PodCommand
