import Mathlib.Data.List.TakeWhile
import PodCommand.Text.Blank
import PodCommand.Text.Digits

namespace PodCommand
namespace Text

/-!
Signed decimal numerals with white space around them.

What can be read as an integer is told by the grammar of numerals, and the number that is read by
the digits.  No numeral begins or ends with white space, so trimming a text leaves exactly the
numeral in it, if it holds one.
-/

/-! ## White space -/

/-- The characters that Unicode counts as white space. -/
def whiteSpace : List Char :=
  ['\t', '\n', '\x0b', '\x0c', '\r', ' ', '\u0085', '\u00a0', '\u1680', '\u2000', '\u2001',
    '\u2002', '\u2003', '\u2004', '\u2005', '\u2006', '\u2007', '\u2008', '\u2009', '\u200a',
    '\u2028', '\u2029', '\u202f', '\u205f', '\u3000']

theorem isBlank_iff {c : Char} : isBlank c = true ↔ c ∈ whiteSpace := by
  simp only [isBlank, whiteSpace, Bool.or_eq_true, Bool.and_eq_true, decide_eq_true_eq, beq_iff_eq,
    List.mem_cons, List.not_mem_nil, or_false, ← Char.toNat_inj, Char.reduceToNat]
  omega

theorem trimEnd_append {text blanks : List Char} (blank : ∀ c ∈ blanks, isBlank c = true)
    (last : ∀ c ∈ text.getLast?, isBlank c = false) : trimEnd (text ++ blanks) = text := by
  have passed : ∀ c ∈ blanks.reverse, isBlank c = true := fun c member =>
    blank c (List.mem_reverse.mp member)
  rw [trimEnd, List.reverse_append, List.dropWhile_append_of_pos passed]
  rw [← List.head?_reverse] at last
  cases reversed : text.reverse with
  | nil => rw [List.reverse_eq_nil_iff.mp reversed]; rfl
  | cons c before =>
      rw [reversed] at last
      rw [List.dropWhile_cons_of_neg (Bool.eq_false_iff.mp (last c rfl)), ← reversed,
        List.reverse_reverse]

/-- Trimming takes the white space from around a text that neither begins nor ends with any. -/
theorem trim_padded {left text right : List Char} (filled : text ≠ [])
    (before : ∀ c ∈ left, isBlank c = true) (after : ∀ c ∈ right, isBlank c = true)
    (first : ∀ c ∈ text.head?, isBlank c = false)
    (last : ∀ c ∈ text.getLast?, isBlank c = false) : trim (left ++ text ++ right) = text := by
  rw [trim, List.append_assoc, List.dropWhile_append_of_pos before]
  cases text with
  | nil => exact absurd rfl filled
  | cons c text =>
      rw [List.cons_append, List.dropWhile_cons_of_neg (Bool.eq_false_iff.mp (first c rfl)),
        ← List.cons_append]
      exact trimEnd_append after last

/-- What trimming takes away is white space. -/
theorem exists_padding (text : List Char) :
    ∃ left right, text = left ++ trim text ++ right ∧ (∀ c ∈ left, isBlank c = true) ∧
      ∀ c ∈ right, isBlank c = true := by
  have rest : ∀ text : List Char, ∃ right, text = trimEnd text ++ right ∧
      ∀ c ∈ right, isBlank c = true := by
    intro text
    refine ⟨(text.reverse.takeWhile isBlank).reverse, ?_, fun c member => ?_⟩
    · rw [trimEnd, ← List.reverse_append, List.takeWhile_append_dropWhile, List.reverse_reverse]
    · exact List.mem_takeWhile_imp (List.mem_reverse.mp member)
  rcases rest (text.dropWhile isBlank) with ⟨right, whole, after⟩
  refine ⟨text.takeWhile isBlank, right, ?_, fun c => List.mem_takeWhile_imp, after⟩
  rw [trim, List.append_assoc, ← whole, List.takeWhile_append_dropWhile]

/-! ## Numerals -/

/-- The number that decimal digits denote. -/
theorem ofDigits_digits (digits : List Char) :
    ofDigits 10 (digits.map fun c => c.toNat - '0'.toNat) = Nat.ofDigitChars 10 digits 0 := by
  simp only [ofDigits, List.foldl_map, Nat.ofDigitChars_eq_foldl, Nat.mul_comm 10]

theorem digitValue?_ten (c : Char) :
    digitValue? 10 c = if c.isDigit then some (c.toNat - '0'.toNat) else none := by
  have decimal : c.isDigit = ('0' ≤ c && c ≤ '9') := rfl
  unfold digitValue? hexValue?
  rw [decimal]
  split
  · rename_i digit
    have below := (Bool.and_eq_true_iff.mp digit).2
    have small : c.toNat ≤ 57 := UInt32.le_iff_toNat_le.mp (of_decide_eq_true below)
    have value : c.toNat - '0'.toNat < 10 := by
      rw [show '0'.toNat = 48 from rfl]
      omega
    simp only [Option.filter_some, value, decide_true, if_true]
  · split
    · simp
    · split <;> simp

theorem natural?_ten {text : List Char} {n : Nat} :
    natural? 10 text = some n ↔
      text ≠ [] ∧ (∀ c ∈ text, c.isDigit = true) ∧ n = Nat.ofDigitChars 10 text 0 := by
  have values : text.mapM (digitValue? 10) =
      if text.all Char.isDigit then some (text.map fun c => c.toNat - '0'.toNat) else none := by
    induction text with
    | nil => rfl
    | cons c text ih =>
        rw [List.mapM_cons, ih, digitValue?_ten, List.all_cons]
        cases c.isDigit <;> cases text.all Char.isDigit <;> rfl
  rw [natural?, values, ← ofDigits_digits, ← List.all_eq_true]
  cases text with
  | nil => simp
  | cons c text =>
      cases (c :: text).all Char.isDigit <;> simp [eq_comm]

theorem head?_toDigits {n : Nat} (positive : 0 < n) : (Nat.toDigits 10 n).head? ≠ some '0' := by
  induction n using Nat.strongRecOn with
  | _ n ih =>
      rw [Nat.toDigits_eq_if (by decide)]
      split
      · rename_i small
        have all : ∀ n < 10, 0 < n → [n.digitChar].head? ≠ some '0' := by decide
        exact all n small positive
      · rename_i large
        have fewer := ih (n / 10) (by omega) (by omega)
        rcases List.exists_cons_of_ne_nil (Nat.toDigits_ne_nil (n := n / 10) (b := 10)) with
          ⟨first, others, written⟩
        rw [written] at fewer ⊢
        exact fewer

/-- A numeral has no zero in front of other digits. -/
theorem length_toDigits_of_zero {n : Nat} (zero : (Nat.toDigits 10 n).head? = some '0') :
    (Nat.toDigits 10 n).length = 1 := by
  rcases Nat.eq_zero_or_pos n with rfl | positive
  · rfl
  · exact absurd zero (head?_toDigits positive)

/-- A text that denotes an integer: decimal digits, at least one, perhaps behind a sign. -/
inductive IsInteger : List Char → Int → Prop
  | unsigned {digits : List Char} (some : digits ≠ []) (decimal : ∀ c ∈ digits, c.isDigit = true) :
      IsInteger digits (Nat.ofDigitChars 10 digits 0)
  | positive {digits : List Char} (some : digits ≠ []) (decimal : ∀ c ∈ digits, c.isDigit = true) :
      IsInteger ('+' :: digits) (Nat.ofDigitChars 10 digits 0)
  | negative {digits : List Char} (some : digits ≠ []) (decimal : ∀ c ∈ digits, c.isDigit = true) :
      IsInteger ('-' :: digits) (-(Nat.ofDigitChars 10 digits 0 : Nat))

theorem isBlank_of_isDigit {c : Char} (digit : c.isDigit = true) : isBlank c = false := by
  have decimal : 48 ≤ c.toNat ∧ c.toNat ≤ 57 := Char.isDigit_iff_toNat.mp digit
  simp only [isBlank, Bool.or_eq_false_iff, Bool.and_eq_false_iff, decide_eq_false_iff_not,
    beq_eq_false_iff_ne]
  omega

/-- What is read of the digits of an integer. -/
theorem natural?_cast {digits : List Char} {n : Int} :
    (natural? 10 digits >>= fun value => pure (value : Int)) = some n ↔
      digits ≠ [] ∧ (∀ c ∈ digits, c.isDigit = true) ∧
        n = (Nat.ofDigitChars 10 digits 0 : Nat) := by
  constructor
  · intro read
    rcases Option.bind_eq_some_iff.mp read with ⟨value, digits, same⟩
    rcases natural?_ten.mp digits with ⟨some, decimal, rfl⟩
    exact ⟨some, decimal, (Option.some.inj same).symm⟩
  · rintro ⟨some, decimal, rfl⟩
    exact Option.bind_eq_some_iff.mpr ⟨_, natural?_ten.mpr ⟨some, decimal, rfl⟩, rfl⟩

theorem integer?_eq_some_iff {text : List Char} {n : Int} :
    integer? text = some n ↔ IsInteger text n := by
  have sign : ∀ {c : Char} {digits : List Char}, c.isDigit = false →
      ¬ ∀ d ∈ c :: digits, d.isDigit = true := by
    intro c digits none all
    rw [all c List.mem_cons_self] at none
    cases none
  constructor
  · intro read
    unfold integer? at read
    split at read <;> rcases Option.map_eq_some_iff.mp read with ⟨value, digits, rfl⟩ <;>
      rcases natural?_cast.mp digits with ⟨some, decimal, rfl⟩
    · exact .negative some decimal
    · exact .positive some decimal
    · exact .unsigned some decimal
  · intro denotes
    cases denotes with
    | positive some decimal =>
        exact Option.map_eq_some_iff.mpr ⟨_, natural?_cast.mpr ⟨some, decimal, rfl⟩, rfl⟩
    | negative some decimal =>
        exact Option.map_eq_some_iff.mpr ⟨_, natural?_cast.mpr ⟨some, decimal, rfl⟩, rfl⟩
    | unsigned some decimal =>
        unfold integer?
        split
        · exact absurd decimal (sign rfl)
        · exact absurd decimal (sign rfl)
        · exact Option.map_eq_some_iff.mpr ⟨_, natural?_cast.mpr ⟨some, decimal, rfl⟩, rfl⟩

/-- A numeral neither begins nor ends with white space. -/
theorem IsInteger.visible {text : List Char} {n : Int} (denotes : IsInteger text n) :
    text ≠ [] ∧ (∀ c ∈ text.head?, isBlank c = false) ∧
      ∀ c ∈ text.getLast?, isBlank c = false := by
  have last : ∀ (c : Char) {digits : List Char}, digits ≠ [] →
      (∀ c ∈ digits, c.isDigit = true) → ∀ d ∈ (c :: digits).getLast?, isBlank d = false := by
    intro c digits some decimal d final
    rw [List.getLast?_cons_of_ne_nil some] at final
    exact isBlank_of_isDigit (decimal d (List.mem_of_getLast? final))
  cases denotes with
  | unsigned some decimal =>
      refine ⟨some, fun c first => ?_, fun c final => ?_⟩
      · exact isBlank_of_isDigit (decimal c (List.mem_of_head? first))
      · exact isBlank_of_isDigit (decimal c (List.mem_of_getLast? final))
  | positive some decimal =>
      refine ⟨List.cons_ne_nil _ _, ?_, last '+' some decimal⟩
      rintro c ⟨⟩
      decide
  | negative some decimal =>
      refine ⟨List.cons_ne_nil _ _, ?_, last '-' some decimal⟩
      rintro c ⟨⟩
      decide

/-- A text is read as an integer, white space aside, exactly if it is a numeral of it between white
space. -/
theorem integer?_trim {text : List Char} {n : Int} :
    integer? (trim text) = some n ↔
      ∃ left numeral right, text = left ++ numeral ++ right ∧ (∀ c ∈ left, c ∈ whiteSpace) ∧
        (∀ c ∈ right, c ∈ whiteSpace) ∧ IsInteger numeral n := by
  rw [integer?_eq_some_iff]
  constructor
  · intro denotes
    rcases exists_padding text with ⟨left, right, whole, before, after⟩
    exact ⟨left, trim text, right, whole, fun c member => isBlank_iff.mp (before c member),
      fun c member => isBlank_iff.mp (after c member), denotes⟩
  · rintro ⟨left, numeral, right, rfl, before, after, denotes⟩
    rcases denotes.visible with ⟨filled, first, last⟩
    rwa [trim_padded filled (fun c member => isBlank_iff.mpr (before c member))
      (fun c member => isBlank_iff.mpr (after c member)) first last]

/-- Digits denote zero exactly if they are all zeros. -/
theorem ofDigitChars_eq_zero_iff {digits : List Char} (decimal : ∀ c ∈ digits, c.isDigit = true)
    {above : Nat} :
    Nat.ofDigitChars 10 digits above = 0 ↔ above = 0 ∧ ∀ c ∈ digits, c = '0' := by
  induction digits generalizing above with
  | nil => simp
  | cons c digits ih =>
      have digit : 48 ≤ c.toNat ∧ c.toNat ≤ 57 :=
        Char.isDigit_iff_toNat.mp (decimal c List.mem_cons_self)
      have zero : 10 * above + (c.toNat - '0'.toNat) = 0 ↔ above = 0 ∧ c = '0' := by
        rw [← Char.toNat_inj, show '0'.toNat = 48 from rfl]
        omega
      rw [Nat.ofDigitChars_cons, ih fun d member => decimal d (List.mem_cons_of_mem _ member), zero,
        List.forall_mem_cons, and_assoc]

/-- A numeral of zero consists of zeros, perhaps behind a sign. -/
theorem isInteger_zero_iff {text : List Char} :
    IsInteger text 0 ↔ ∃ sign more, (sign = [] ∨ sign = ['+'] ∨ sign = ['-']) ∧
      text = sign ++ List.replicate (more + 1) '0' := by
  have zeros : ∀ {digits : List Char}, digits ≠ [] → (∀ c ∈ digits, c.isDigit = true) →
      Nat.ofDigitChars 10 digits 0 = 0 → ∃ more, digits = List.replicate (more + 1) '0' := by
    intro digits some decimal zero
    rcases Nat.exists_eq_add_one_of_ne_zero (mt List.length_eq_zero_iff.mp some) with ⟨more, length⟩
    have all := ((ofDigitChars_eq_zero_iff decimal).mp zero).2
    exact ⟨more, List.eq_replicate_iff.mpr ⟨length, all⟩⟩
  constructor
  · intro denotes
    generalize value : (0 : Int) = n at denotes
    cases denotes with
    | unsigned some decimal =>
        rcases zeros some decimal (by omega) with ⟨more, rfl⟩
        exact ⟨[], more, Or.inl rfl, rfl⟩
    | positive some decimal =>
        rcases zeros some decimal (by omega) with ⟨more, rfl⟩
        exact ⟨['+'], more, Or.inr (Or.inl rfl), rfl⟩
    | negative some decimal =>
        rcases zeros some decimal (by omega) with ⟨more, rfl⟩
        exact ⟨['-'], more, Or.inr (Or.inr rfl), rfl⟩
  · rintro ⟨sign, more, signed, rfl⟩
    have some : List.replicate (more + 1) '0' ≠ [] := List.cons_ne_nil _ _
    have decimal : ∀ c ∈ List.replicate (more + 1) '0', c.isDigit = true := by
      intro c member
      rw [List.eq_of_mem_replicate member]
      rfl
    have zero : Nat.ofDigitChars 10 (List.replicate (more + 1) '0') 0 = 0 :=
      (ofDigitChars_eq_zero_iff decimal).mpr ⟨rfl, fun c member => List.eq_of_mem_replicate member⟩
    have unsigned := IsInteger.unsigned some decimal
    have positive := IsInteger.positive some decimal
    have negative := IsInteger.negative some decimal
    rw [zero] at unsigned positive negative
    rcases signed with rfl | rfl | rfl
    · exact unsigned
    · exact positive
    · exact negative

/-- An integer as it is printed is a numeral of it. -/
theorem isInteger_toString (n : Int) : IsInteger (toString n).toList n := by
  have digits (m : Nat) : Nat.ofDigitChars 10 (Nat.toDigits 10 m) 0 = m :=
    Nat.ofDigitChars_toDigits (by decide) (by decide)
  have decimal (m : Nat) : ∀ c ∈ Nat.toDigits 10 m, c.isDigit = true := fun _ member =>
    Nat.isDigit_of_mem_toDigits (by decide) (by decide) member
  cases n with
  | ofNat m =>
      have written : (toString (Int.ofNat m)).toList = Nat.toDigits 10 m := Nat.toList_repr
      have denotes := IsInteger.unsigned Nat.toDigits_ne_nil (decimal m)
      rw [digits] at denotes
      rwa [written]
  | negSucc m =>
      have written : (toString (Int.negSucc m)).toList = '-' :: Nat.toDigits 10 (m + 1) := by
        change ("-" ++ Nat.repr (m + 1)).toList = _
        rw [String.toList_append, Nat.toList_repr]
        rfl
      have denotes := IsInteger.negative Nat.toDigits_ne_nil (decimal (m + 1))
      rw [digits] at denotes
      rwa [written]

end Text
end PodCommand
