import PodCommand.Proofs.Json.Grammar
import PodCommand.Proofs.Text.Numeral

namespace PodCommand
namespace Json

/-!
Strings and numbers are read as the grammar has them.

A string ends at its quote, whatever stands behind it.  A number ends only where the text goes on
with something that cannot belong to it, so what is known of it depends on that.
-/

/-! ## Strings -/

theorem digitValue?_of_isHexDigit {c : Char} {value : Nat} (digit : IsHexDigit c value) :
    Text.digitValue? 16 c = some value := by
  have all : ∀ value < 16, Text.digitValue? 16 value.digitChar = some value ∧
      Text.digitValue? 16 value.digitChar.toUpper = some value := by
    decide
  rcases digit with ⟨small, rfl | rfl⟩
  · exact (all value small).1
  · exact (all value small).2

theorem natural?_of_isUnit {a b c d : Char} {unit : Nat} (digits : IsUnit a b c d unit) :
    Text.natural? 16 [a, b, c, d] = some unit := by
  have value : Text.ofDigits 16 [unit / 0x1000, unit / 0x100 % 16, unit / 0x10 % 16, unit % 16] =
      unit := by
    simp only [Text.ofDigits, List.foldl_cons, List.foldl_nil]
    omega
  simp only [Text.natural?, List.mapM_cons, List.mapM_nil,
    digitValue?_of_isHexDigit digits.first, digitValue?_of_isHexDigit digits.second,
    digitValue?_of_isHexDigit digits.third, digitValue?_of_isHexDigit digits.fourth]
  exact congrArg some value

/-- An escaped unit is read as the part of a string that it is. -/
theorem scanString_unit {a b c d : Char} {unit : Nat} (digits : IsUnit a b c d unit)
    (seen : List StringPart) (rest : List Char) :
    scanString seen ('\\' :: 'u' :: a :: b :: c :: d :: rest) =
      scanString ((if isLeading unit || isTrailing unit then .surrogate unit
        else .character (Char.ofNat unit)) :: seen) rest := by
  have read : escapedUnit? a b c d = some (if isLeading unit || isTrailing unit then
      .surrogate unit else .character (Char.ofNat unit)) := by
    rw [escapedUnit?, natural?_of_isUnit digits, Option.map_some]
  rw [scanString, read]

section Surrogates

variable {char : Char}

theorem char_range (char : Char) :
    char.toNat < 0xD800 ∨ 0xDFFF < char.toNat ∧ char.toNat < 0x110000 :=
  char.valid

theorem isLeading_leadingUnit : isLeading (leadingUnit char) = true := by
  have range := char_range char
  simp only [isLeading, Bool.and_eq_true, decide_eq_true_eq]
  rw [leadingUnit]
  omega

theorem isTrailing_trailingUnit : isTrailing (trailingUnit char) = true := by
  simp only [isTrailing, Bool.and_eq_true, decide_eq_true_eq]
  rw [trailingUnit]
  omega

theorem pairedChar_units (beyond : 0x10000 ≤ char.toNat) :
    pairedChar (leadingUnit char) (trailingUnit char) = char := by
  have same : 0x10000 + (leadingUnit char - 0xD800) * 0x400 + (trailingUnit char - 0xDC00) =
      char.toNat := by
    rw [leadingUnit, trailingUnit]
    omega
  rw [pairedChar, same, Char.ofNat_toNat]

/-- No character is a surrogate. -/
theorem not_surrogate (char : Char) :
    (isLeading char.toNat || isTrailing char.toNat) = false := by
  have range := char_range char
  simp only [isLeading, isTrailing, Bool.or_eq_false_iff, Bool.and_eq_false_iff,
    decide_eq_false_iff_not]
  omega

end Surrogates

/-- The parts of a string join to a text, whatever has been joined before. -/
def Joins (parts : List StringPart) (text : List Char) : Prop :=
  ∀ seen, joinParts.go parts seen = some (seen.reverse ++ text)

namespace Joins

variable {parts : List StringPart} {text : List Char}

theorem joined (joins : Joins parts text) : joinParts parts = some text := joins []

theorem nil : Joins [] [] := by
  intro seen
  rw [joinParts.go, List.append_nil]

theorem character (c : Char) (joins : Joins parts text) :
    Joins (.character c :: parts) (c :: text) := by
  intro seen
  rw [joinParts.go, joins, List.reverse_cons, List.append_assoc, List.singleton_append]

theorem pair {c : Char} (beyond : 0x10000 ≤ c.toNat) (joins : Joins parts text) :
    Joins (.surrogate (leadingUnit c) :: .surrogate (trailingUnit c) :: parts) (c :: text) := by
  intro seen
  rw [joinParts.go, isLeading_leadingUnit, isTrailing_trailingUnit, pairedChar_units beyond]
  exact (joins (c :: seen)).trans (by rw [List.reverse_cons, List.append_assoc]; rfl)

end Joins

/-- What stands between quotes is read up to the closing one, as the parts of the text. -/
theorem IsQuoted.scanned {body text : List Char} (quoted : IsQuoted body text) :
    ∃ parts, Joins parts text ∧ ∀ seen rest,
      scanString seen (body ++ '"' :: rest) = .closed (seen.reverse ++ parts) rest := by
  have behind : ∀ (seen parts : List StringPart) (part : StringPart),
      (part :: seen).reverse ++ parts = seen.reverse ++ part :: parts := by
    intro seen parts part
    rw [List.reverse_cons, List.append_assoc, List.singleton_append]
  induction quoted with
  | nil =>
      refine ⟨[], .nil, fun seen rest => ?_⟩
      rw [List.append_nil]
      rfl
  | @plain c body text visible noQuote noEscape _ ih =>
      rcases ih with ⟨parts, joins, scans⟩
      refine ⟨_, joins.character c, fun seen rest => ?_⟩
      have next : scanString seen (c :: (body ++ '"' :: rest)) =
          scanString (.character c :: seen) (body ++ '"' :: rest) := by
        simp [scanString, noEscape, Nat.not_lt.mpr visible]
      rw [List.cons_append, next, scans, behind]
  | @letter escape c body text known _ ih =>
      rcases ih with ⟨parts, joins, scans⟩
      refine ⟨_, joins.character c, fun seen rest => ?_⟩
      have next : scanString seen ('\\' :: escape :: (body ++ '"' :: rest)) =
          scanString (.character c :: seen) (body ++ '"' :: rest) := by
        simp only [letterEscapes, List.mem_cons, Prod.mk.injEq, List.not_mem_nil, or_false] at known
        rcases known with ⟨rfl, rfl⟩ | ⟨rfl, rfl⟩ | ⟨rfl, rfl⟩ | ⟨rfl, rfl⟩ | ⟨rfl, rfl⟩ |
          ⟨rfl, rfl⟩ | ⟨rfl, rfl⟩ | ⟨rfl, rfl⟩ <;> rfl
      rw [List.cons_append, List.cons_append, next, scans, behind]
  | @unit a b c d char body text digits _ ih =>
      rcases ih with ⟨parts, joins, scans⟩
      refine ⟨_, joins.character char, fun seen rest => ?_⟩
      simp only [List.cons_append]
      rw [scanString_unit digits, not_surrogate, scans, behind, Char.ofNat_toNat]
      rfl
  | @pair a b c d a' b' c' d' char body text beyond leading trailing _ ih =>
      rcases ih with ⟨parts, joins, scans⟩
      refine ⟨_, joins.pair beyond, fun seen rest => ?_⟩
      simp only [List.cons_append]
      rw [scanString_unit leading, scanString_unit trailing, isLeading_leadingUnit,
        isTrailing_trailingUnit, scans, Bool.true_or, Bool.or_true, if_pos rfl, if_pos rfl, behind,
        behind]

/-! ## Numbers -/

/-- Whether a number that stands before a text ends there. -/
def EndsNumber (rest : List Char) : Prop :=
  ∀ c ∈ rest.head?, c.isDigit = false ∧ c ≠ '.' ∧ c ≠ 'e' ∧ c ≠ 'E'

/-- Whether digits that stand before a text end there. -/
def EndsDigits (rest : List Char) : Prop := ∀ c ∈ rest.head?, c.isDigit = false

theorem EndsNumber.endsDigits {rest : List Char} (ends : EndsNumber rest) : EndsDigits rest :=
  fun c first => (ends c first).1

namespace Digits

theorem exists_cons (digits : Digits) :
    ∃ c more, digits.chars = c :: more ∧ c.isDigit = true := by
  rcases List.exists_cons_of_ne_nil digits.filled with ⟨c, more, written⟩
  exact ⟨c, more, written, digits.decimal c (written ▸ List.mem_cons_self)⟩

/-- Digits are read up to where they end. -/
theorem someDigits (digits : Digits) {rest : List Char} (ends : EndsDigits rest)
    (next : List Nat → List Char → Number.Scan) :
    Number.someDigits (digits.chars ++ rest) next = next digits.values rest := by
  have stops : rest.takeWhile Char.isDigit = [] ∧ rest.dropWhile Char.isDigit = rest := by
    cases rest with
    | nil => exact ⟨rfl, rfl⟩
    | cons c rest =>
        have other : ¬ c.isDigit = true := Bool.eq_false_iff.mp (ends c rfl)
        exact ⟨List.takeWhile_cons_of_neg other, List.dropWhile_cons_of_neg other⟩
  have read : Number.digits (digits.chars ++ rest) = (digits.values, rest) := by
    rw [Number.digits, List.takeWhile_append_of_pos digits.decimal,
      List.dropWhile_append_of_pos digits.decimal, stops.1, stops.2, List.append_nil]
    rfl
  have filled : digits.values ≠ [] := mt List.map_eq_nil_iff.mp digits.filled
  rw [Number.someDigits, read]
  split <;> simp_all

end Digits

/-- An exponent is read after the rest of a number, or nothing is where there is none. -/
theorem scanExponent_text (exponent : Option Exponent) {rest : List Char} (ends : EndsNumber rest)
    (negative : Bool) (whole fraction : List Nat) (pointed : Bool) :
    Number.scanExponent negative whole fraction pointed
        ((exponent.map Exponent.text).getD [] ++ rest) =
      .number ⟨⟨negative, Text.ofDigits 10 (whole ++ fraction),
        (exponent.map Exponent.value).getD 0 - fraction.length⟩,
        !pointed && exponent.isNone⟩ rest := by
  cases exponent with
  | none =>
      cases rest with
      | nil => simp [Number.scanExponent]
      | cons c rest =>
          rcases ends c rfl with ⟨_, _, small, large⟩
          simp [Number.scanExponent, small, large]
  | some exponent =>
      rcases exponent with ⟨mark, sign, digits, marked, signed⟩
      have found := digits.someDigits ends.endsDigits
      rcases digits.exists_cons with ⟨c, more, written, digit⟩
      have noMinus : c ≠ '-' := by
        rintro rfl
        cases digit
      have noPlus : c ≠ '+' := by
        rintro rfl
        cases digit
      rw [written, List.cons_append] at found
      rcases marked with rfl | rfl <;> rcases signed with rfl | rfl | rfl <;>
        simp [Number.scanExponent, Exponent.text, Exponent.value, Digits.value, written, noMinus,
          noPlus] <;>
        exact found _

namespace Numeral

/-- What stands behind the whole part of a number ends its digits. -/
theorem endsDigits_textBehind (fraction : Option Digits) (exponent : Option Exponent)
    {rest : List Char} (ends : EndsNumber rest) :
    EndsDigits (textBehind fraction exponent ++ rest) := by
  cases fraction with
  | some digits =>
      rintro c ⟨⟩
      rfl
  | none =>
      cases exponent with
      | none => exact ends.endsDigits
      | some exponent =>
          rintro c ⟨⟩
          rcases exponent.marked with mark | mark <;> rw [mark] <;> rfl

theorem scanUnsigned_text (numeral : Numeral) {rest : List Char} (ends : EndsNumber rest) :
    Number.scanUnsigned numeral.negative
        (numeral.whole.chars ++ (textBehind numeral.fraction numeral.exponent ++ rest)) =
      .number numeral.number rest := by
  rcases numeral with ⟨negative, whole, fraction, exponent, proper⟩
  have noZero : (whole.values.head? == some 0 && decide (1 < whole.values.length)) = false := by
    have size : whole.values.length = whole.chars.length := List.length_map ..
    rcases whole.exists_cons with ⟨c, more, written, digit⟩
    by_cases zero : c = '0'
    · have single : whole.chars.length = 1 := proper (by rw [written, zero]; rfl)
      rw [size, single]
      exact Bool.and_false _
    · have value : c.toNat - 48 ≠ 0 := by
        have code : 48 ≤ c.toNat := (Char.isDigit_iff_toNat.mp digit).1
        have other : c.toNat ≠ 48 := fun same => zero (Char.toNat_inj.mp same)
        omega
      simp [Digits.values, written, value]
  have exponentLast := scanExponent_text exponent ends negative whole.values
  rw [Number.scanUnsigned, whole.someDigits (endsDigits_textBehind fraction exponent ends), noZero]
  cases fraction with
  | some digits =>
      have read := digits.someDigits (endsDigits_textBehind none exponent ends)
      change Number.someDigits ((digits.chars ++ _) ++ rest) _ = _
      rw [List.append_assoc]
      exact (read _).trans (exponentLast digits.values true)
  | none =>
      have last := exponentLast [] false
      have noPoint : ∀ more, textBehind none exponent ++ rest ≠ '.' :: more := by
        intro more same
        cases exponent with
        | none =>
            have first := ends '.' (by rw [show rest = '.' :: more from same]; rfl)
            exact first.2.1 rfl
        | some exponent =>
            have mark := (List.cons.inj same).1
            rcases exponent.marked with marked | marked <;> rw [marked] at mark <;> cases mark
      rw [if_neg Bool.false_ne_true]
      split
      · rename_i same
        exact absurd same (noPoint _)
      · exact last

/-- A number begins with its sign or a digit. -/
theorem exists_cons (numeral : Numeral) :
    ∃ c more, numeral.text = c :: more ∧ (c = '-' ∨ c.isDigit = true) := by
  rw [text]
  cases numeral.negative with
  | true => exact ⟨'-', _, rfl, Or.inl rfl⟩
  | false =>
      rcases numeral.whole.exists_cons with ⟨c, more, written, digit⟩
      rw [written]
      exact ⟨c, _, rfl, Or.inr digit⟩

/-- A number is read as it is written. -/
theorem scan_text (numeral : Numeral) {rest : List Char} (ends : EndsNumber rest) :
    Number.scan (numeral.text ++ rest) = .number numeral.number rest := by
  have unsigned := numeral.scanUnsigned_text ends
  rw [text, List.append_assoc, List.append_assoc]
  cases negative : numeral.negative with
  | true =>
      rw [negative] at unsigned
      exact unsigned
  | false =>
      rw [negative] at unsigned
      rcases numeral.whole.exists_cons with ⟨c, more, written, digit⟩
      have noSign : c ≠ '-' := by
        rintro rfl
        cases digit
      rw [written] at unsigned ⊢
      simpa [Number.scan, noSign] using unsigned

end Numeral

end Json
end PodCommand
