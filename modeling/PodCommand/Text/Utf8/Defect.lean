import PodCommand.Text.Utf8

namespace PodCommand
namespace Text
namespace Utf8

/-- Where octets stop being a well-formed text. -/
inductive Defect
  /-- So many octets from an offset are ill formed. -/
  | illFormed (offset length : Nat)
  /-- The last character, from an offset, is not complete. -/
  | incomplete (offset : Nat)
  deriving DecidableEq, Repr

namespace Defect

/-- The defect in words. -/
def message : Defect → String
  | illFormed offset length =>
    "invalid utf-8 sequence of " ++ toString length ++ " bytes from index " ++ toString offset
  | incomplete offset => "incomplete utf-8 byte sequence from index " ++ toString offset

/-- Whether more than one octet can follow from an octet on. -/
def isLead (octet : UInt8) : Bool := 0xC2 ≤ octet && octet ≤ 0xF4

/-- The first defect of octets, of which those before an offset have been looked at. -/
def find (offset : Nat) (bytes : Bytes) : Option Defect :=
  match bytes with
  | [] => none
  | lead :: rest =>
    have := length_front_le lead rest
    let after := (front lead rest).2
    let length := bytes.length - after.length
    match (front lead rest).1 with
    | some _ => find (offset + length) after
    | none =>
      some (if after.isEmpty && isLead lead then incomplete offset else illFormed offset length)
  termination_by bytes.length
  decreasing_by simp; omega

end Defect

/-- The text of a well-formed octet sequence, or where it stops being one. -/
def read (bytes : Bytes) : Except Defect (List Char) :=
  match decode? bytes with
  | some text => .ok text
  | none => .error ((Defect.find 0 bytes).getD (.incomplete 0))

end Utf8
end Text
end PodCommand
