import PodCommand.Text.Utf8

namespace PodCommand
namespace Text

/-!
Text whose encoding is told by a byte order mark at its front.  Without a mark it is UTF-8.
-/

/-- An encoding that a mark can tell. -/
inductive Encoding
  | utf8
  | utf8Marked
  | utf16Little
  | utf16Big
  deriving DecidableEq, Repr

namespace Encoding

/-- What is said of octets that are no text in the encoding. -/
def complaint : Encoding → String
  | utf8 => "Invalid UTF-8"
  | utf8Marked => "Invalid UTF-8 BOM"
  | utf16Little => "Invalid UTF-16 LE"
  | utf16Big => "Invalid UTF-16 BE"

/-- The encoding of octets, and the octets after the mark. -/
def detect : Bytes → Encoding × Bytes
  | 0xEF :: 0xBB :: 0xBF :: rest => (utf8Marked, rest)
  | 0xFF :: 0xFE :: rest => (utf16Little, rest)
  | 0xFE :: 0xFF :: rest => (utf16Big, rest)
  | bytes => (utf8, bytes)

/-- The units of 16 bits that octets make up; they are collected in reverse. -/
def units? (littleEndian : Bool) (seen : List Nat) : Bytes → Option (List Nat)
  | [] => some seen.reverse
  | [_] => none
  | a :: b :: rest =>
    let unit := if littleEndian then b.toNat * 256 + a.toNat else a.toNat * 256 + b.toNat
    units? littleEndian (unit :: seen) rest

/-- The characters that units of 16 bits stand for; they are collected in reverse. -/
def ofUnits? (seen : List Char) : List Nat → Option (List Char)
  | [] => some seen.reverse
  | unit :: rest =>
    if unit < 0xD800 || 0xE000 ≤ unit then ofUnits? (Char.ofNat unit :: seen) rest
    else if unit < 0xDC00 then
      match rest with
      | second :: after =>
        if 0xDC00 ≤ second && second < 0xE000 then
          let code := 0x10000 + (unit - 0xD800) * 0x400 + (second - 0xDC00)
          ofUnits? (Char.ofNat code :: seen) after
        else none
      | [] => none
    else none

end Encoding

/-- The text of octets, or the encoding in which they are none. -/
def decodeMarked (bytes : Bytes) : Except Encoding (List Char) :=
  let (encoding, rest) := Encoding.detect bytes
  let text :=
    match encoding with
    | .utf8 | .utf8Marked => Utf8.decode? rest
    | .utf16Little => (Encoding.units? true [] rest).bind (Encoding.ofUnits? [])
    | .utf16Big => (Encoding.units? false [] rest).bind (Encoding.ofUnits? [])
  match text with
  | some text => .ok text
  | none => .error encoding

end Text
end PodCommand
