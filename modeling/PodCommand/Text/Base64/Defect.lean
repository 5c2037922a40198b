import PodCommand.Text.Base64

namespace PodCommand
namespace Text
namespace Base64

/-- What is wrong with a text that is no written form of octets.  Places and lengths are counted in
the text's own octets. -/
inductive Defect
  | badSymbol (offset : Nat) (octet : UInt8)
  | badLength (length : Nat)
  /-- The last digit has bits that belong to no octet. -/
  | badLastSymbol (offset : Nat) (octet : UInt8)
  | badPadding
  deriving DecidableEq, Repr

namespace Defect

/-- The defect in words. -/
def message : Defect → String
  | badSymbol offset octet =>
    "Invalid symbol " ++ toString octet.toNat ++ ", offset " ++ toString offset ++ "."
  | badLength length => "Invalid input length: " ++ toString length
  | badLastSymbol offset octet =>
    "Invalid last symbol " ++ toString octet.toNat ++ ", offset " ++ toString offset ++ "."
  | badPadding => "Invalid padding"

/-- Whether an octet is a digit. -/
def isDigit (octet : UInt8) : Bool := (value? (Char.ofNat octet.toNat)).isSome

/-- The octet of the padding. -/
def padding : UInt8 := 0x3D

/-- The defect of the last group, which begins at an offset.  So many of its octets have been seen,
the last digit among them; padding began at a place in the group, if it has begun. -/
def ofLastGroup (offset seen : Nat) (padded : Option Nat) (last : UInt8) : Bytes → Defect
  | [] =>
    let digits := padded.getD seen
    if digits < 2 then badLength (offset + digits)
    else if seen % 4 ≠ 0 then badPadding
    else badLastSymbol (offset + digits - 1) last
  | octet :: rest =>
    if octet = padding then
      if seen < 2 then badSymbol (offset + seen) octet
      else ofLastGroup offset (seen + 1) (padded <|> some seen) last rest
    else
      match padded with
      | some place => badSymbol (offset + place) padding
      | none =>
        if isDigit octet then ofLastGroup offset (seen + 1) none octet rest
        else badSymbol (offset + seen) octet

/-- The length of the groups before the last. -/
def lengthBeforeLast (length : Nat) : Nat := (length - 1) / 4 * 4

/-- The defect of a text that is no written form.  An octet too many at its end is blamed first if
it is no digit, then what comes first. -/
def ofText (text : List Char) : Defect :=
  let octets := Utf8.encode text
  let before := lengthBeforeLast octets.length
  let surplus := octets.getLast?.filter fun octet =>
    octets.length % 4 = 1 && octet ≠ padding && !isDigit octet
  match surplus, (octets.take before).findIdx? (fun octet => !isDigit octet) with
  | some octet, _ => badSymbol (octets.length - 1) octet
  | none, some offset => badSymbol offset (octets.getD offset 0)
  | none, none => ofLastGroup before 0 none 0 (octets.drop before)

end Defect
end Base64
end Text
end PodCommand
