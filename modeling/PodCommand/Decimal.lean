import PodCommand.Text.Digits

namespace PodCommand

/-- A decimal number: `significand * 10 ^ exponent`, negated if it has a sign. -/
structure Decimal where
  negative : Bool
  significand : Nat
  exponent : Int
  deriving DecidableEq, Repr, Inhabited

namespace Decimal

/-!
Decimal numbers of any size, and the question whether double precision has a finite number for
them.
-/

/-- The least magnitude that rounds to no finite number of double precision. -/
def doubleOverflow : Nat := Nat.pow 2 1024 - Nat.pow 2 970

/-- Whether a number rounds to a finite number of double precision.  Far from the limit the place of
the first digit decides, so no large power is computed. -/
def isFinite (number : Decimal) : Bool :=
  let places : Int := (Nat.toDigits 10 number.significand).length + number.exponent
  if number.significand = 0 || places ≤ 300 then true
  else if 310 < places then false
  else if 0 ≤ number.exponent then
    number.significand * Nat.pow 10 number.exponent.toNat < doubleOverflow
  else number.significand < doubleOverflow * Nat.pow 10 (-number.exponent).toNat

/-- The same number without zeros at the end of its significand; the fuel bounds their number. -/
def trim (fuel : Nat) (number : Decimal) : Decimal :=
  match fuel with
  | 0 => number
  | fuel + 1 =>
    if number.significand = 0 then { number with exponent := 0 }
    else if number.significand % 10 = 0 then
      trim fuel
        { number with
          significand := number.significand / 10, exponent := number.exponent + 1 }
    else number

end Decimal
end PodCommand
