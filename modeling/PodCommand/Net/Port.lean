import PodCommand.Text.Digits

namespace PodCommand
namespace Net

/-- Why a text is not the number of a port. -/
inductive PortDefect
  | empty
  | badDigit
  | tooLarge
  deriving DecidableEq, Repr

/-- The defect in words. -/
def PortDefect.message : PortDefect → String
  | empty => "cannot parse integer from empty string"
  | badDigit => "invalid digit found in string"
  | tooLarge => "number too large to fit in target type"

/-- The first number that is no port. -/
def portLimit : Nat := 65536

/-- Reads digits after those that make up a number so far; what comes first is blamed. -/
def portDigits (number : Nat) : List Char → Except PortDefect Nat
  | [] => .ok number
  | c :: rest =>
    match Text.decimalValue? c with
    | none => .error .badDigit
    | some digit =>
      if number * 10 + digit < portLimit then portDigits (number * 10 + digit) rest
      else .error .tooLarge

/-- Reads the number of a port in decimal; a plus sign may stand before it. -/
def readPort (text : String) : Except PortDefect Nat :=
  match text.toList with
  | [] => .error .empty
  | ['+'] => .error .badDigit
  | '+' :: digits => portDigits 0 digits
  | digits => portDigits 0 digits

end Net
end PodCommand
