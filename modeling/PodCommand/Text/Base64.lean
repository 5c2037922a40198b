import PodCommand.Text.Utf8

namespace PodCommand
namespace Text
namespace Base64

/-!
The base-64 encoding with the standard alphabet.  Padding is required, and so is that the bits which
a last group leaves over are zero: every octet sequence has exactly one written form.
-/

/-- The digit for six bits. -/
def digit (n : Nat) : Char :=
  if n < 26 then Char.ofNat ('A'.toNat + n)
  else if n < 52 then Char.ofNat ('a'.toNat + (n - 26))
  else if n < 62 then Char.ofNat ('0'.toNat + (n - 52))
  else if n = 62 then '+'
  else '/'

/-- The six bits that a digit stands for. -/
def value? (c : Char) : Option Nat :=
  if 'A' ≤ c && c ≤ 'Z' then some (c.toNat - 'A'.toNat)
  else if 'a' ≤ c && c ≤ 'z' then some (c.toNat - 'a'.toNat + 26)
  else if '0' ≤ c && c ≤ '9' then some (c.toNat - '0'.toNat + 52)
  else if c = '+' then some 62
  else if c = '/' then some 63
  else none

/-- The written form of octets. -/
def encode : Bytes → List Char
  | [] => []
  | [a] => [digit (a.toNat / 4), digit (a.toNat % 4 * 16), '=', '=']
  | [a, b] =>
    [digit (a.toNat / 4), digit (a.toNat % 4 * 16 + b.toNat / 16), digit (b.toNat % 16 * 4), '=']
  | a :: b :: c :: rest =>
    digit (a.toNat / 4) :: digit (a.toNat % 4 * 16 + b.toNat / 16) ::
      digit (b.toNat % 16 * 4 + c.toNat / 64) :: digit (c.toNat % 64) :: encode rest

/-- The octets of a last group of four characters. -/
def lastGroup? (a b c d : Char) : Option Bytes := do
  let first ← value? a
  let second ← value? b
  if c = '=' && d = '=' then
    if second % 16 = 0 then return [(first * 4 + second / 16).toUInt8] else none
  else
    let third ← value? c
    if d = '=' then
      if third % 4 = 0 then
        return [(first * 4 + second / 16).toUInt8, (second % 16 * 16 + third / 4).toUInt8]
      else none
    else
      let fourth ← value? d
      return [(first * 4 + second / 16).toUInt8, (second % 16 * 16 + third / 4).toUInt8,
        (third % 4 * 64 + fourth).toUInt8]

/-- Reads octets from their written form; they are collected in reverse. -/
def decodeFrom (seen : Bytes) : List Char → Option Bytes
  | [] => some seen.reverse
  | [a, b, c, d] => (lastGroup? a b c d).map fun last => seen.reverse ++ last
  | a :: b :: c :: d :: rest =>
    match value? a, value? b, value? c, value? d with
    | some first, some second, some third, some fourth =>
      decodeFrom
        ((third % 4 * 64 + fourth).toUInt8 :: (second % 16 * 16 + third / 4).toUInt8 ::
          (first * 4 + second / 16).toUInt8 :: seen) rest
    | _, _, _, _ => none
  | _ => none

/-- Reads octets from their written form. -/
def decode? (text : List Char) : Option Bytes :=
  decodeFrom [] text

end Base64
end Text
end PodCommand
