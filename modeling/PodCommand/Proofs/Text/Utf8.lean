import PodCommand.Text.Utf8

namespace PodCommand
namespace Text
namespace Utf8

/-!
Decoding text that has been encoded.

`front` undoes the encoding of one character, whatever follows it.  So the segments of a text's
octets are its characters, strict and lossy decoding both give the text back, and no two texts have
the same octets.
-/

/-! ## The classes of octets as ranges of numbers -/

theorem toNat_toUInt8 {n : Nat} (small : n < 0x100) : n.toUInt8.toNat = n :=
  Nat.mod_eq_of_lt small

theorem isContinuation_iff {b : UInt8} :
    isContinuation b = true ↔ 0x80 ≤ b.toNat ∧ b.toNat ≤ 0xBF := by
  simp only [isContinuation, Bool.and_eq_true, decide_eq_true_eq, UInt8.le_iff_toNat_le]
  rfl

theorem isSecondOfThree_iff {lead second : UInt8} :
    isSecondOfThree lead second = true ↔
      0x80 ≤ second.toNat ∧ second.toNat ≤ 0xBF ∧ (lead.toNat = 0xE0 → 0xA0 ≤ second.toNat) ∧
        (lead.toNat = 0xED → second.toNat ≤ 0x9F) := by
  have first : lead = 0xE0 ↔ lead.toNat = 0xE0 := UInt8.toNat_inj.symm
  have surrogates : lead = 0xED ↔ lead.toNat = 0xED := UInt8.toNat_inj.symm
  simp only [isSecondOfThree, first, surrogates]
  split
  · simp [UInt8.le_iff_toNat_le]
    omega
  · split
    · simp [UInt8.le_iff_toNat_le]
      omega
    · rw [isContinuation_iff]
      omega

theorem isSecondOfFour_iff {lead second : UInt8} :
    isSecondOfFour lead second = true ↔
      0x80 ≤ second.toNat ∧ second.toNat ≤ 0xBF ∧ (lead.toNat = 0xF0 → 0x90 ≤ second.toNat) ∧
        (lead.toNat = 0xF4 → second.toNat ≤ 0x8F) := by
  have first : lead = 0xF0 ↔ lead.toNat = 0xF0 := UInt8.toNat_inj.symm
  have last : lead = 0xF4 ↔ lead.toNat = 0xF4 := UInt8.toNat_inj.symm
  simp only [isSecondOfFour, first, last]
  split
  · simp [UInt8.le_iff_toNat_le]
    omega
  · split
    · simp [UInt8.le_iff_toNat_le]
      omega
    · rw [isContinuation_iff]
      omega

/-! ## Well-formed fronts of each length -/

theorem front_one {lead : UInt8} (ascii : lead < 0x80) (rest : Bytes) :
    front lead rest = (some (Char.ofNat lead.toNat), rest) := by
  simp only [front, if_pos ascii]

theorem front_two {lead b : UInt8} (low : 0xC2 ≤ lead) (high : lead ≤ 0xDF)
    (second : isContinuation b = true) (rest : Bytes) :
    front lead (b :: rest) =
      (some (Char.ofNat ((lead.toNat - 0xC0) * 0x40 + payload b)), rest) := by
  have notOne : ¬ lead < 0x80 := by grind
  have inRange : (0xC2 ≤ lead && lead ≤ 0xDF) = true := by simp [low, high]
  simp only [front, if_neg notOne, if_pos inRange, if_pos second]

theorem front_three {lead b c : UInt8} (low : 0xE0 ≤ lead) (high : lead ≤ 0xEF)
    (second : isSecondOfThree lead b = true) (third : isContinuation c = true) (rest : Bytes) :
    front lead (b :: c :: rest) =
      (some (Char.ofNat ((lead.toNat - 0xE0) * 0x1000 + payload b * 0x40 + payload c)), rest) := by
  have notOne : ¬ lead < 0x80 := by grind
  have notTwo : ¬ (0xC2 ≤ lead && lead ≤ 0xDF) = true := by grind
  have inRange : (0xE0 ≤ lead && lead ≤ 0xEF) = true := by simp [low, high]
  simp only [front, if_neg notOne, if_neg notTwo, if_pos inRange, if_pos second, if_pos third]

theorem front_four {lead b c d : UInt8} (low : 0xF0 ≤ lead) (high : lead ≤ 0xF4)
    (second : isSecondOfFour lead b = true) (third : isContinuation c = true)
    (fourth : isContinuation d = true) (rest : Bytes) :
    front lead (b :: c :: d :: rest) =
      (some (Char.ofNat ((lead.toNat - 0xF0) * 0x40000 + payload b * 0x1000 + payload c * 0x40 +
        payload d)), rest) := by
  have notOne : ¬ lead < 0x80 := by grind
  have notTwo : ¬ (0xC2 ≤ lead && lead ≤ 0xDF) = true := by grind
  have notThree : ¬ (0xE0 ≤ lead && lead ≤ 0xEF) = true := by grind
  have inRange : (0xF0 ≤ lead && lead ≤ 0xF4) = true := by simp [low, high]
  simp only [front, if_neg notOne, if_neg notTwo, if_neg notThree, if_pos inRange, if_pos second,
    if_pos third, if_pos fourth]

/-- The octets of a character are a well-formed front, and it is that character. -/
theorem front_encodeChar (c : Char) (rest : Bytes) :
    ∃ lead more, encodeChar c = lead :: more ∧ front lead (more ++ rest) = (some c, rest) := by
  have valid : c.toNat < 0xD800 ∨ (0xDFFF < c.toNat ∧ c.toNat < 0x110000) := c.valid
  have back := Char.ofNat_toNat c
  unfold encodeChar
  dsimp only
  generalize c.toNat = n at valid back ⊢
  split
  · have lead := toNat_toUInt8 (show n < 0x100 by omega)
    refine ⟨_, _, rfl, ?_⟩
    rw [List.nil_append, front_one, lead, back]
    rw [UInt8.lt_iff_toNat_lt, lead]
    assumption
  · split
    · have lead := toNat_toUInt8 (show 0xC0 + n / 0x40 < 0x100 by omega)
      have second := toNat_toUInt8 (show 0x80 + n % 0x40 < 0x100 by omega)
      refine ⟨_, _, rfl, ?_⟩
      rw [List.singleton_append, front_two, lead, payload, second, ← back]
      · congr 3
        omega
      · rw [UInt8.le_iff_toNat_le, lead]
        change 0xC2 ≤ _
        omega
      · rw [UInt8.le_iff_toNat_le, lead]
        change _ ≤ 0xDF
        omega
      · rw [isContinuation_iff, second]
        omega
    · split
      · have lead := toNat_toUInt8 (show 0xE0 + n / 0x1000 < 0x100 by omega)
        have second := toNat_toUInt8 (show 0x80 + n / 0x40 % 0x40 < 0x100 by omega)
        have third := toNat_toUInt8 (show 0x80 + n % 0x40 < 0x100 by omega)
        refine ⟨_, _, rfl, ?_⟩
        rw [List.cons_append, List.singleton_append, front_three, lead, payload, second, payload,
          third, ← back]
        · congr 3
          omega
        · rw [UInt8.le_iff_toNat_le, lead]
          change 0xE0 ≤ _
          omega
        · rw [UInt8.le_iff_toNat_le, lead]
          change _ ≤ 0xEF
          omega
        · rw [isSecondOfThree_iff, lead, second]
          omega
        · rw [isContinuation_iff, third]
          omega
      · have lead := toNat_toUInt8 (show 0xF0 + n / 0x40000 < 0x100 by omega)
        have second := toNat_toUInt8 (show 0x80 + n / 0x1000 % 0x40 < 0x100 by omega)
        have third := toNat_toUInt8 (show 0x80 + n / 0x40 % 0x40 < 0x100 by omega)
        have fourth := toNat_toUInt8 (show 0x80 + n % 0x40 < 0x100 by omega)
        refine ⟨_, _, rfl, ?_⟩
        rw [List.cons_append, List.cons_append, List.singleton_append, front_four, lead, payload,
          second, payload, third, payload, fourth, ← back]
        · congr 3
          omega
        · rw [UInt8.le_iff_toNat_le, lead]
          change 0xF0 ≤ _
          omega
        · rw [UInt8.le_iff_toNat_le, lead]
          change _ ≤ 0xF4
          omega
        · rw [isSecondOfFour_iff, lead, second]
          omega
        · rw [isContinuation_iff, third]
          omega
        · rw [isContinuation_iff, fourth]
          omega

/-! ## Whole texts -/

/-- What has been collected already stands before the segments of the rest. -/
theorem segments_go (bytes : Bytes) (seen : List (Option Char)) :
    segments.go bytes seen = seen.reverse ++ segments bytes := by
  unfold segments
  cases bytes with
  | nil => simp [segments.go]
  | cons lead rest =>
      have shorter := length_front_le lead rest
      rw [segments.go, segments_go (front lead rest).2, segments.go,
        segments_go (front lead rest).2 [(front lead rest).1]]
      simp
termination_by bytes.length

theorem segments_nil : segments [] = [] := by
  simp [segments, segments.go]

theorem segments_cons (lead : UInt8) (rest : Bytes) :
    segments (lead :: rest) = (front lead rest).1 :: segments (front lead rest).2 := by
  rw [segments, segments.go, segments_go]
  rfl

/-- The octets of a text, whatever follows them, are segments of one character each. -/
theorem segments_encode_append (text : List Char) (rest : Bytes) :
    segments (encode text ++ rest) = text.map some ++ segments rest := by
  induction text with
  | nil => rfl
  | cons c text ih =>
      rcases front_encodeChar c (encode text ++ rest) with ⟨lead, more, same, front⟩
      have split : encode (c :: text) ++ rest = lead :: (more ++ (encode text ++ rest)) := by
        rw [encode, List.flatMap_cons, same, List.append_assoc]
        rfl
      rw [split, segments_cons, front, ih]
      rfl

theorem segments_encode (text : List Char) : segments (encode text) = text.map some := by
  have whole := segments_encode_append text []
  rwa [List.append_nil, segments_nil, List.append_nil] at whole

/-- Strict decoding reads back every text. -/
theorem decode?_encode (text : List Char) : decode? (encode text) = some text := by
  rw [decode?, segments_encode]
  induction text with
  | nil => rfl
  | cons c text ih => simp [ih]

/-- No two texts have the same octets. -/
theorem encode_injective {first second : List Char} (same : encode first = encode second) :
    first = second := by
  have read := decode?_encode first
  rw [same, decode?_encode] at read
  exact (Option.some.inj read).symm

theorem encode_toList_injective {first second : String}
    (same : encode first.toList = encode second.toList) : first = second :=
  String.toList_injective (encode_injective same)

end Utf8
end Text
end PodCommand
