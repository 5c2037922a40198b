import PodCommand.Decimal

namespace PodCommand
namespace Json

/-!
Numbers as JSON writes them.  A number is kept as it is written, so a reader can tell an integer
from a number with a fraction or an exponent, whatever its size.
-/

/-- A written number. -/
structure Number where
  /-- The number that is meant. -/
  decimal : Decimal
  /-- Whether it is written without a fraction and without an exponent. -/
  integral : Bool
  deriving DecidableEq, Repr, Inhabited

namespace Number

/-- The natural number that is written without sign, fraction or exponent. -/
def natural? (number : Number) : Option Nat :=
  if number.integral && !number.decimal.negative then some number.decimal.significand else none

/-- The integer that is written without fraction or exponent; a negative zero is none. -/
def integer? (number : Number) : Option Int :=
  let magnitude := number.decimal.significand
  if !number.integral then none
  else if number.decimal.negative then
    if magnitude = 0 then none else some (-(magnitude : Int))
  else some magnitude

/-- What the front of a text is, read as a number. -/
inductive Scan
  | number (number : Number) (rest : List Char)
  /-- The text ends before the number does. -/
  | cut
  | malformed

/-- The digits at the front of a text and the text after them. -/
def digits (text : List Char) : List Nat × List Char :=
  ((text.takeWhile Char.isDigit).map (fun c => c.toNat - '0'.toNat), text.dropWhile Char.isDigit)

/-- Reads the digits that must stand at the front of a text. -/
def someDigits (text : List Char) (next : List Nat → List Char → Scan) : Scan :=
  match digits text with
  | ([], []) => .cut
  | ([], _ :: _) => .malformed
  | (found, rest) => next found rest

/-- Reads the exponent, if there is one, and ends the number. -/
def scanExponent (negative : Bool) (whole fraction : List Nat) (pointed : Bool)
    (text : List Char) : Scan :=
  let significand := Text.ofDigits 10 (whole ++ fraction)
  let finish (exponent : Int) (integral : Bool) (rest : List Char) : Scan :=
    .number ⟨⟨negative, significand, exponent - fraction.length⟩, integral⟩ rest
  match text with
  | c :: rest =>
    if c = 'e' || c = 'E' then
      match rest with
      | '-' :: rest =>
        someDigits rest fun found rest => finish (-(Text.ofDigits 10 found : Int)) false rest
      | '+' :: rest => someDigits rest fun found rest => finish (Text.ofDigits 10 found) false rest
      | rest => someDigits rest fun found rest => finish (Text.ofDigits 10 found) false rest
    else finish 0 (!pointed) text
  | [] => finish 0 (!pointed) []

/-- Reads a number without its sign. -/
def scanUnsigned (negative : Bool) (text : List Char) : Scan :=
  someDigits text fun whole rest =>
    if whole.head? == some 0 && 1 < whole.length then .malformed
    else
      match rest with
      | '.' :: rest =>
        someDigits rest fun fraction rest => scanExponent negative whole fraction true rest
      | rest => scanExponent negative whole [] false rest

/-- Reads a number at the front of a text. -/
def scan : List Char → Scan
  | '-' :: rest => scanUnsigned true rest
  | text => scanUnsigned false text

end Number
end Json
end PodCommand
