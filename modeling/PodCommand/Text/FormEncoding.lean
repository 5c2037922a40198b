import PodCommand.Text.Utf8

namespace PodCommand
namespace Text
namespace FormEncoding

/-!
The form encoding of query strings (`application/x-www-form-urlencoded`).  Letters, digits and
`*-._` stand for themselves, a space is written `+`, and every other octet of the UTF-8 of a value
is written `%XX` in upper case; so a written value holds none of the separators of a query.
-/

/-- Whether an octet stands for itself. -/
def isKept (b : UInt8) : Bool :=
  (0x41 ≤ b && b ≤ 0x5A) || (0x61 ≤ b && b ≤ 0x7A) || (0x30 ≤ b && b ≤ 0x39) ||
    b == 0x2A || b == 0x2D || b == 0x2E || b == 0x5F

/-- An upper-case hexadecimal digit. -/
def hexDigit (n : Nat) : Char :=
  if n < 10 then Char.ofNat ('0'.toNat + n) else Char.ofNat ('A'.toNat + (n - 10))

/-- One octet as it is written. -/
def encodeOctet (b : UInt8) : List Char :=
  if isKept b then [Char.ofNat b.toNat]
  else if b = 0x20 then ['+']
  else ['%', hexDigit (b.toNat / 16), hexDigit (b.toNat % 16)]

/-- A value as it is written. -/
def encode (value : List Char) : List Char :=
  (Utf8.encode value).flatMap encodeOctet

/-- A name and its value as they are written. -/
def encodePair (pair : String × String) : List Char :=
  encode pair.1.toList ++ '=' :: encode pair.2.toList

end FormEncoding
end Text
end PodCommand
