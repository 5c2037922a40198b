import Mathlib.Algebra.Group.Nat.Defs
import Mathlib.Data.List.DropRight
import PodCommand.Proofs.Text.Numeral
import PodCommand.Proofs.Text.Pieces
import PodCommand.Session.Error

namespace PodCommand

theorem SessionState.name_injective {first second : SessionState}
    (same : first.name = second.name) : first = second := by
  cases first <;> cases second <;> first | rfl | exact absurd same (by decide)

namespace Duration

/-!
The text of a span of time tells the span to the nanosecond.

Whatever the unit, a nanosecond has a whole number of decimal places in it.  So a span is a count of
the last of these places, and a decimal number with at most so many places can be read back as that
count.  The fraction is filled up with zeros on the left before the zeros at its end are taken away;
reading puts the latter back, and this is where the number of places is needed.
-/

/-! ## Decimal numbers -/

/-- A decimal number as it is written: no zero stands in front of other digits or at the end of the
fraction. -/
structure Numeral where
  whole : List Char
  fraction : List Char
  filled : whole ≠ []
  decimal : ∀ c ∈ whole ++ fraction, c.isDigit = true
  proper : whole.head? = some '0' → whole.length = 1
  trimmed : fraction.getLast? ≠ some '0'

namespace Numeral

def text (numeral : Numeral) : List Char :=
  if numeral.fraction = [] then numeral.whole else numeral.whole ++ '.' :: numeral.fraction

/-- The whole part. -/
def wholePart (numeral : Numeral) : Nat := Nat.ofDigitChars 10 numeral.whole 0

/-- The number in the last of so many decimal places. -/
def count (numeral : Numeral) (places : Nat) : Nat :=
  numeral.wholePart * 10 ^ places +
    Nat.ofDigitChars 10 numeral.fraction 0 * 10 ^ (places - numeral.fraction.length)

end Numeral

/-! ## Reading -/

/-- The units in which spans are written, the largest first. -/
def units : List TimeUnit := [⟨"s", 9⟩, ⟨"ms", 6⟩, ⟨"µs", 3⟩, ⟨"ns", 0⟩]

/-- Whether a character belongs to a number. -/
def isNumberChar (c : Char) : Bool := c.isDigit || c == '.'

/-- Reads a number with at most so many decimal places as a count of the last of them. -/
def count? (places : Nat) (number : List Char) : Option Nat :=
  match Text.cut '.' number with
  | (whole, none) => (Text.natural? 10 whole).map (· * 10 ^ places)
  | (whole, some fraction) => do
    let above ← Text.natural? 10 whole
    let below ← Text.natural? 10 fraction
    if fraction.length ≤ places then
      some (above * 10 ^ places + below * 10 ^ (places - fraction.length))
    else none

/-- Reads a number and the unit behind it. -/
def ofText? (text : String) : Option Duration := do
  let number := text.toList.takeWhile isNumberChar
  let unit ← units.find? fun unit => unit.name.toList = text.toList.dropWhile isNumberChar
  (count? unit.places number).map Duration.mk

theorem Numeral.isNumberChar_of_mem_text (numeral : Numeral) :
    ∀ c ∈ numeral.text, isNumberChar c = true := by
  have digit : ∀ c ∈ numeral.whole ++ numeral.fraction, isNumberChar c = true := by
    intro c member
    rw [isNumberChar, numeral.decimal c member, Bool.true_or]
  unfold text
  intro c member
  split at member
  · exact digit c (List.mem_append_left _ member)
  · rcases List.mem_append.mp member with above | below
    · exact digit c (List.mem_append_left _ above)
    · rcases List.mem_cons.mp below with rfl | below
      · decide
      · exact digit c (List.mem_append_right _ below)

/-- A number that fits into the places is read as what it counts. -/
theorem Numeral.count?_text (numeral : Numeral) {places : Nat}
    (fits : numeral.fraction.length ≤ places) :
    count? places numeral.text = some (numeral.count places) := by
  have natural : ∀ digits, digits ≠ [] → (∀ c ∈ digits, c ∈ numeral.whole ++ numeral.fraction) →
      Text.natural? 10 digits = some (Nat.ofDigitChars 10 digits 0) := by
    intro digits some within
    exact Text.natural?_ten.mpr ⟨some, fun c member => numeral.decimal c (within c member), rfl⟩
  have above := natural numeral.whole numeral.filled fun c => List.mem_append_left _
  have noPoint : '.' ∉ numeral.whole := by
    intro member
    exact absurd (numeral.decimal '.' (List.mem_append_left _ member)) (by decide)
  unfold count? text
  by_cases integral : numeral.fraction = []
  · rw [if_pos integral, Text.cut_of_not_mem noPoint]
    simp only [above, Option.map_some, count, wholePart, integral, Nat.ofDigitChars_nil,
      Nat.zero_mul, Nat.add_zero]
  · have below := natural numeral.fraction integral fun c => List.mem_append_right _
    rw [if_neg integral, Text.cut_append_cons noPoint]
    simp only [above, below, Option.bind_eq_bind, Option.bind_some, if_pos fits, count, wholePart]

/-- A number in a unit is read as the span that it denotes. -/
theorem ofText?_numeral {numeral : Numeral} {unit : TimeUnit} (listed : unit ∈ units)
    (fits : numeral.fraction.length ≤ unit.places) {text : String}
    (written : text.toList = numeral.text ++ unit.name.toList) :
    ofText? text = some ⟨numeral.count unit.places⟩ := by
  have ends : ∀ unit ∈ units, unit.name.toList.takeWhile isNumberChar = [] ∧
      unit.name.toList.dropWhile isNumberChar = unit.name.toList := by decide
  have found : ∀ unit ∈ units,
      units.find? (fun other => other.name.toList = unit.name.toList) = some unit := by decide
  have number := numeral.isNumberChar_of_mem_text
  unfold ofText?
  rw [written, List.takeWhile_append_of_pos number, List.dropWhile_append_of_pos number,
    (ends unit listed).1, (ends unit listed).2, List.append_nil]
  simp only [found unit listed, Option.bind_eq_bind, Option.bind_some, numeral.count?_text fits,
    Option.map_some]

/-! ## Writing -/

/-- The decimal places of a number that is smaller than one, zeros at the end included. -/
def placesOf (places value : Nat) : List Char :=
  Text.padLeft places (Nat.toDigits 10 value)

theorem fraction_eq (places value : Nat) :
    fraction places value = (placesOf places value).rdropWhile (· == '0') := rfl

theorem ofDigitChars_placesOf (places value : Nat) :
    Nat.ofDigitChars 10 (placesOf places value) 0 = value := by
  rw [placesOf, Text.padLeft, Nat.ofDigitChars_append, Nat.ofDigitChars_replicate_zero,
    Nat.mul_zero, Nat.ofDigitChars_toDigits (by decide) (by decide)]

theorem length_placesOf {places value : Nat} (positive : 0 < value)
    (small : value < 10 ^ places) : (placesOf places value).length = places := by
  have some : 0 < places := by
    by_contra none
    rw [Nat.eq_zero_of_not_pos none, Nat.pow_zero] at small
    omega
  have fits : (Nat.toDigits 10 value).length ≤ places :=
    (Nat.length_toDigits_le_iff (by decide) some).mpr small
  rw [placesOf, Text.padLeft, List.length_append, List.length_replicate, Nat.sub_add_cancel fits]

theorem isDigit_of_mem_placesOf {places value : Nat} :
    ∀ c ∈ placesOf places value, c.isDigit = true := by
  intro c member
  rcases List.mem_append.mp member with zero | digit
  · rw [List.eq_of_mem_replicate zero]
    rfl
  · exact Nat.isDigit_of_mem_toDigits (by decide) (by decide) digit

/-- The fraction and the zeros that have been taken away are the decimal places. -/
theorem fraction_append_zeros (places value : Nat) :
    fraction places value ++ List.replicate
      ((placesOf places value).length - (fraction places value).length) '0' =
        placesOf places value := by
  have halves := List.rdropWhile_append_rtakeWhile (p := (· == '0')) (l := placesOf places value)
  have zeros : (placesOf places value).rtakeWhile (· == '0') =
      List.replicate ((placesOf places value).rtakeWhile (· == '0')).length '0' := by
    refine List.eq_replicate_iff.mpr ⟨rfl, fun c member => ?_⟩
    have zero := List.mem_rtakeWhile_imp member
    exact beq_iff_eq.mp zero
  have length := congrArg List.length halves
  rw [List.length_append] at length
  rw [fraction_eq, ← length, Nat.add_sub_cancel_left, ← zeros, halves]

theorem fraction_zero (places : Nat) : fraction places 0 = [] := by
  rw [fraction_eq, List.rdropWhile_eq_nil_iff]
  intro c member
  have zeros := (Text.ofDigitChars_eq_zero_iff isDigit_of_mem_placesOf).mp
    (ofDigitChars_placesOf places 0)
  exact beq_iff_eq.mpr (zeros.2 c member)

theorem length_fraction_le {places value : Nat} (small : value < 10 ^ places) :
    (fraction places value).length ≤ places := by
  rcases Nat.eq_zero_or_pos value with rfl | positive
  · rw [fraction_zero]
    exact Nat.zero_le places
  · have within := (List.rdropWhile_prefix (· == '0') (placesOf places value)).length_le
    rwa [length_placesOf positive small] at within

/-- The digits of the fraction, moved to their places, give the value. -/
theorem ofDigitChars_fraction {places value : Nat} (small : value < 10 ^ places) :
    Nat.ofDigitChars 10 (fraction places value) 0 *
      10 ^ (places - (fraction places value).length) = value := by
  rcases Nat.eq_zero_or_pos value with rfl | positive
  · rw [fraction_zero, Nat.ofDigitChars_nil, Nat.zero_mul]
  · have whole := ofDigitChars_placesOf places value
    rw [← fraction_append_zeros, Nat.ofDigitChars_append, Nat.ofDigitChars_replicate_zero,
      length_placesOf positive small] at whole
    rw [Nat.mul_comm, whole]

theorem fraction_eq_nil_iff {places value : Nat} (small : value < 10 ^ places) :
    fraction places value = [] ↔ value = 0 := by
  constructor
  · intro empty
    have value := ofDigitChars_fraction small
    rw [empty, Nat.ofDigitChars_nil, Nat.zero_mul] at value
    exact value.symm
  · rintro rfl
    exact fraction_zero places

/-- The number that is written for a count of the last of so many places. -/
def numeral (places count : Nat) : Numeral where
  whole := Nat.toDigits 10 (count / 10 ^ places)
  fraction := fraction places (count % 10 ^ places)
  filled := Nat.toDigits_ne_nil
  decimal := by
    intro c member
    rcases List.mem_append.mp member with above | below
    · exact Nat.isDigit_of_mem_toDigits (by decide) (by decide) above
    · exact isDigit_of_mem_placesOf c ((List.rdropWhile_prefix _ _).subset below)
  proper := Text.length_toDigits_of_zero
  trimmed := by
    intro last
    have some : fraction places (count % 10 ^ places) ≠ [] := by
      intro empty
      rw [empty] at last
      cases last
    rw [List.getLast?_eq_some_getLast some] at last
    exact List.rdropWhile_last_not _ _ some (beq_iff_eq.mpr (Option.some.inj last))

theorem mod_places_lt (places count : Nat) : count % 10 ^ places < 10 ^ places :=
  Nat.mod_lt count (Nat.pow_pos (by decide))

theorem numeral_fits (places count : Nat) : (numeral places count).fraction.length ≤ places :=
  length_fraction_le (mod_places_lt places count)

theorem wholePart_numeral (places count : Nat) :
    (numeral places count).wholePart = count / 10 ^ places :=
  Nat.ofDigitChars_toDigits (by decide) (by decide)

theorem decimal_eq_text (places count : Nat) :
    decimal places count = (numeral places count).text := by
  have integral := fraction_eq_nil_iff (mod_places_lt places count)
  change (if count % 10 ^ places = 0 then Nat.toDigits 10 (count / 10 ^ places)
    else Nat.toDigits 10 (count / 10 ^ places) ++ '.' :: fraction places (count % 10 ^ places)) = _
  simp only [Numeral.text, numeral, integral]

theorem count_numeral (places count : Nat) : (numeral places count).count places = count := by
  have below := ofDigitChars_fraction (mod_places_lt places count)
  change (numeral places count).wholePart * 10 ^ places +
    Nat.ofDigitChars 10 (fraction places (count % 10 ^ places)) 0 *
      10 ^ (places - (fraction places (count % 10 ^ places)).length) = count
  rw [wholePart_numeral, below, Nat.div_add_mod']

/-! ## Units -/

/-- The largest unit in which a span has a whole part, and nanoseconds for the empty span. -/
structure IsLargest (unit : TimeUnit) (duration : Duration) : Prop where
  listed : unit ∈ units
  whole : duration.nanos ≠ 0 → duration.nanos / 10 ^ unit.places ≠ 0
  larger : ∀ other ∈ units, unit.places < other.places →
    duration.nanos / 10 ^ other.places = 0
  empty : duration.nanos = 0 → unit = ⟨"ns", 0⟩

theorem isLargest_of {unit : TimeUnit} {duration : Duration} (listed : unit ∈ units)
    (reached : 10 ^ unit.places ≤ duration.nanos ∨ unit = ⟨"ns", 0⟩)
    (below : ∀ other ∈ units, unit.places < other.places → duration.nanos < 10 ^ other.places) :
    IsLargest unit duration where
  listed := listed
  whole some := by
    rcases reached with least | rfl
    · exact Nat.ne_of_gt (Nat.div_pos least (Nat.pow_pos (by decide)))
    · simpa using some
  larger other member above := Nat.div_eq_of_lt (below other member above)
  empty zero := by
    refine reached.resolve_left fun least => ?_
    have positive : 0 < 10 ^ unit.places := Nat.pow_pos (by decide)
    omega

theorem isLargest_unit (duration : Duration) : IsLargest duration.unit duration := by
  unfold unit
  split
  · rename_i least
    exact isLargest_of (by decide) (.inl least) (by simp [units])
  · split
    · rename_i small least
      exact isLargest_of (by decide) (.inl least) (by simp [units]; omega)
    · split
      · rename_i small least
        exact isLargest_of (by decide) (.inl least) (by simp [units]; omega)
      · exact isLargest_of (by decide) (.inr rfl) (by simp [units]; omega)

theorem toList_text (duration : Duration) : duration.text.toList =
    (numeral duration.unit.places duration.nanos).text ++ duration.unit.name.toList := by
  rw [text, String.toList_ofList, decimal_eq_text]

theorem ofText?_text (duration : Duration) : ofText? duration.text = some duration := by
  rw [ofText?_numeral (isLargest_unit duration).listed (numeral_fits _ _) (toList_text duration),
    count_numeral]

/-! ## Timeouts in messages -/

theorem text_injective {first second : Duration} (same : first.text = second.text) :
    first = second := by
  have read := ofText?_text first
  rw [same, ofText?_text] at read
  exact (Option.some.inj read).symm

theorem space_not_mem_text (duration : Duration) : ' ' ∉ duration.text.toList := by
  have noSpace : ∀ unit ∈ units, ' ' ∉ unit.name.toList := by decide
  rw [toList_text]
  intro member
  rcases List.mem_append.mp member with number | name
  · exact absurd (Numeral.isNumberChar_of_mem_text _ ' ' number) (by decide)
  · exact noSpace _ (isLargest_unit duration).listed name

theorem toList_message (timeout : Duration) (state : SessionState) :
    (ExecError.cancelled (.deadline timeout) state).message.toList =
      "Exec cancelled by ".toList ++ "deadline after ".toList ++
        (timeout.text.toList ++ ' ' :: ("while ".toList ++ state.name.toList)) := by
  have words : (ExecError.cancelled (.deadline timeout) state).message =
      "Exec cancelled by " ++ ("deadline after " ++ timeout.text) ++ " while " ++ state.name := rfl
  have between : " while ".toList = [' '] ++ "while ".toList := by decide +kernel
  rw [words, String.toList_append, String.toList_append, String.toList_append,
    String.toList_append, between]
  simp only [List.append_assoc, List.cons_append, List.nil_append]

/-- The message about a timeout tells the timeout, which ends at the first space behind it, and the
state of the session. -/
theorem of_message_eq {timeout other : Duration} {state otherState : SessionState}
    (same : (ExecError.cancelled (.deadline other) otherState).message =
      (ExecError.cancelled (.deadline timeout) state).message) :
    other = timeout ∧ otherState = state := by
  have lists := congrArg String.toList same
  rw [toList_message, toList_message] at lists
  have cut := congrArg (Text.cut ' ') (List.append_cancel_left lists)
  rw [Text.cut_append_cons (space_not_mem_text other),
    Text.cut_append_cons (space_not_mem_text timeout)] at cut
  rcases Prod.mk.inj cut with ⟨texts, rest⟩
  have names := List.append_cancel_left (Option.some.inj rest)
  exact ⟨text_injective (String.toList_inj.mp texts),
    SessionState.name_injective (String.toList_inj.mp names)⟩

/-- How a timeout is told. -/
structure Told (timeout : Duration) : Prop where
  shown : (CancelReason.deadline timeout).text = "deadline after " ++ timeout.text
  /-- A number in the largest unit in which there is a whole part, and this part before the point;
  no place of it is smaller than a nanosecond. -/
  form : ∃ unit, ∃ number : Numeral, IsLargest unit timeout ∧
    number.fraction.length ≤ unit.places ∧
      number.wholePart = timeout.nanos / 10 ^ unit.places ∧
        number.count unit.places = timeout.nanos ∧
          timeout.text.toList = number.text ++ unit.name.toList
  read : ofText? timeout.text = some timeout
  /-- No other timeout gives the same message, in whatever state the sessions are. -/
  own : ∀ other state otherState,
    (ExecError.cancelled (.deadline other) otherState).message =
        (ExecError.cancelled (.deadline timeout) state).message ↔
      other = timeout ∧ otherState = state

theorem timeout_told (timeout : Duration) : Told timeout where
  shown := rfl
  form := ⟨timeout.unit, numeral timeout.unit.places timeout.nanos, isLargest_unit timeout,
    numeral_fits _ _, wholePart_numeral _ _, count_numeral _ _, toList_text timeout⟩
  read := ofText?_text timeout
  own other state otherState := by
    constructor
    · exact of_message_eq
    · rintro ⟨rfl, rfl⟩
      rfl

/-- Just below a second the unit is a smaller one, and every place of it is written. -/
example : text ⟨999999999⟩ = "999.999999ms" ∧ text (ofSeconds 61) = "61s" ∧
    text ⟨61000001000⟩ = "61.000001s" ∧ text ⟨0⟩ = "0ns" := by
  decide +kernel

end Duration
end PodCommand
