namespace PodCommand

/-- A sequence of octets: what crosses a connection, a pipe or a file. -/
abbrev Bytes := List UInt8

namespace Text
namespace Utf8

/-!
UTF-8 over lists of octets.

`front` looks at the front of an octet sequence and tells a well-formed character from a maximal
ill-formed subpart: the longest start of some well-formed sequence, or one octet if there is none.
Strict decoding stops at the first ill-formed subpart; lossy decoding puts U+FFFD in the place of
each of them and keeps every character.
-/

/-- The octets of one character. -/
def encodeChar (c : Char) : Bytes :=
  let n := c.toNat
  if n < 0x80 then [n.toUInt8]
  else if n < 0x800 then [(0xC0 + n / 0x40).toUInt8, (0x80 + n % 0x40).toUInt8]
  else if n < 0x10000 then
    [(0xE0 + n / 0x1000).toUInt8, (0x80 + n / 0x40 % 0x40).toUInt8, (0x80 + n % 0x40).toUInt8]
  else
    [(0xF0 + n / 0x40000).toUInt8, (0x80 + n / 0x1000 % 0x40).toUInt8,
      (0x80 + n / 0x40 % 0x40).toUInt8, (0x80 + n % 0x40).toUInt8]

/-- The octets of a text. -/
def encode (text : List Char) : Bytes :=
  text.flatMap encodeChar

/-- Whether an octet continues a sequence. -/
def isContinuation (b : UInt8) : Bool :=
  0x80 ≤ b && b ≤ 0xBF

/-- The six bits that a continuing octet carries. -/
def payload (b : UInt8) : Nat :=
  b.toNat % 0x40

/-- Whether the second octet of a sequence of three keeps it well formed: neither overlong nor a
surrogate. -/
def isSecondOfThree (lead second : UInt8) : Bool :=
  if lead = 0xE0 then 0xA0 ≤ second && second ≤ 0xBF
  else if lead = 0xED then 0x80 ≤ second && second ≤ 0x9F
  else isContinuation second

/-- Whether the second octet of a sequence of four keeps it well formed: neither overlong nor
above U+10FFFF. -/
def isSecondOfFour (lead second : UInt8) : Bool :=
  if lead = 0xF0 then 0x90 ≤ second && second ≤ 0xBF
  else if lead = 0xF4 then 0x80 ≤ second && second ≤ 0x8F
  else isContinuation second

/-- What stands at the front of octets that begin with `lead`: a character, or nothing for a
maximal ill-formed subpart; and the octets after it. -/
def front (lead : UInt8) (rest : Bytes) : Option Char × Bytes :=
  if lead < 0x80 then (some (Char.ofNat lead.toNat), rest)
  else if 0xC2 ≤ lead && lead ≤ 0xDF then
    match rest with
    | b :: after =>
      if isContinuation b then
        (some (Char.ofNat ((lead.toNat - 0xC0) * 0x40 + payload b)), after)
      else (none, rest)
    | [] => (none, [])
  else if 0xE0 ≤ lead && lead ≤ 0xEF then
    match rest with
    | b :: more =>
      if isSecondOfThree lead b then
        match more with
        | c :: after =>
          if isContinuation c then
            (some (Char.ofNat ((lead.toNat - 0xE0) * 0x1000 + payload b * 0x40 + payload c)), after)
          else (none, more)
        | [] => (none, [])
      else (none, rest)
    | [] => (none, [])
  else if 0xF0 ≤ lead && lead ≤ 0xF4 then
    match rest with
    | b :: more =>
      if isSecondOfFour lead b then
        match more with
        | c :: last =>
          if isContinuation c then
            match last with
            | d :: after =>
              if isContinuation d then
                (some (Char.ofNat ((lead.toNat - 0xF0) * 0x40000 + payload b * 0x1000 +
                  payload c * 0x40 + payload d)), after)
              else (none, last)
            | [] => (none, [])
          else (none, more)
        | [] => (none, [])
      else (none, rest)
    | [] => (none, [])
  else (none, rest)

theorem length_front_le (lead : UInt8) (rest : Bytes) :
    (front lead rest).2.length ≤ rest.length := by
  fun_cases front lead rest <;> simp_all <;> omega

/-- The characters of an octet sequence, with nothing in the place of each maximal ill-formed
subpart. -/
def segments (bytes : Bytes) : List (Option Char) :=
  go bytes []
where
  /-- Collects the segments in reverse. -/
  go (bytes : Bytes) (seen : List (Option Char)) : List (Option Char) :=
    match bytes with
    | [] => seen.reverse
    | lead :: rest =>
      have := length_front_le lead rest
      go (front lead rest).2 ((front lead rest).1 :: seen)
  termination_by bytes.length
  decreasing_by simp; omega

/-- The text of an octet sequence, U+FFFD standing for each maximal ill-formed subpart. -/
def decodeLossy (bytes : Bytes) : List Char :=
  (segments bytes).map fun segment => segment.getD '\uFFFD'

/-- The text of a well-formed octet sequence. -/
def decode? (bytes : Bytes) : Option (List Char) :=
  (segments bytes).mapM id

end Utf8
end Text
end PodCommand
