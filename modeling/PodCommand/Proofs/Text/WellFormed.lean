import PodCommand.Proofs.Text.Utf8

namespace PodCommand
namespace Text
namespace Utf8

/-!
Octets that are a text.

Encoding undoes what `front` does with a well-formed front, so octets that strict decoding accepts
are the octets of the text that it gives.  Lossy decoding keeps them, and keeps no others: whatever
it gives back is well formed, so that octets which are not come back as something else.
-/

/-! ## Characters from well-formed fronts -/

theorem toNat_ofNat {n : Nat} (valid : n < 0xD800 ∨ 0xDFFF < n ∧ n < 0x110000) :
    (Char.ofNat n).toNat = n := by
  have scalar : n.isValidChar := valid
  rw [Char.ofNat, dif_pos scalar]
  rfl

theorem toUInt8_eq {n : Nat} {b : UInt8} (same : n = b.toNat) : n.toUInt8 = b := by
  rw [same]
  exact UInt8.ofNat_toNat

section

variable {lead b c d : UInt8}

theorem encodeChar_one (ascii : lead < 0x80) : encodeChar (Char.ofNat lead.toNat) = [lead] := by
  have small : lead.toNat < 0x80 := UInt8.lt_iff_toNat_lt.mp ascii
  unfold encodeChar
  rw [toNat_ofNat (by omega)]
  dsimp only
  rw [if_pos small, toUInt8_eq rfl]

theorem encodeChar_two (low : 0xC2 ≤ lead) (high : lead ≤ 0xDF) (second : isContinuation b = true) :
    encodeChar (Char.ofNat ((lead.toNat - 0xC0) * 0x40 + payload b)) = [lead, b] := by
  have above : 0xC2 ≤ lead.toNat := UInt8.le_iff_toNat_le.mp low
  have below : lead.toNat ≤ 0xDF := UInt8.le_iff_toNat_le.mp high
  rw [isContinuation_iff] at second
  unfold encodeChar payload
  rw [toNat_ofNat (by omega)]
  dsimp only
  rw [if_neg (by omega), if_pos (by omega)]
  simp only [List.cons.injEq, and_true]
  exact ⟨toUInt8_eq (by omega), toUInt8_eq (by omega)⟩

theorem encodeChar_three (low : 0xE0 ≤ lead) (high : lead ≤ 0xEF)
    (second : isSecondOfThree lead b = true) (third : isContinuation c = true) :
    encodeChar (Char.ofNat ((lead.toNat - 0xE0) * 0x1000 + payload b * 0x40 + payload c)) =
      [lead, b, c] := by
  have above : 0xE0 ≤ lead.toNat := UInt8.le_iff_toNat_le.mp low
  have below : lead.toNat ≤ 0xEF := UInt8.le_iff_toNat_le.mp high
  rw [isSecondOfThree_iff] at second
  rw [isContinuation_iff] at third
  unfold encodeChar payload
  rw [toNat_ofNat (by omega)]
  dsimp only
  rw [if_neg (by omega), if_neg (by omega), if_pos (by omega)]
  simp only [List.cons.injEq, and_true]
  exact ⟨toUInt8_eq (by omega), toUInt8_eq (by omega), toUInt8_eq (by omega)⟩

theorem encodeChar_four (low : 0xF0 ≤ lead) (high : lead ≤ 0xF4)
    (second : isSecondOfFour lead b = true) (third : isContinuation c = true)
    (fourth : isContinuation d = true) :
    encodeChar (Char.ofNat ((lead.toNat - 0xF0) * 0x40000 + payload b * 0x1000 +
      payload c * 0x40 + payload d)) = [lead, b, c, d] := by
  have above : 0xF0 ≤ lead.toNat := UInt8.le_iff_toNat_le.mp low
  have below : lead.toNat ≤ 0xF4 := UInt8.le_iff_toNat_le.mp high
  rw [isSecondOfFour_iff] at second
  rw [isContinuation_iff] at third fourth
  unfold encodeChar payload
  rw [toNat_ofNat (by omega)]
  dsimp only
  rw [if_neg (by omega), if_neg (by omega), if_neg (by omega)]
  simp only [List.cons.injEq, and_true]
  exact ⟨toUInt8_eq (by omega), toUInt8_eq (by omega), toUInt8_eq (by omega),
    toUInt8_eq (by omega)⟩

end

/-- Where a character stands at the front, its octets do. -/
theorem encodeChar_front (lead : UInt8) (rest : Bytes) :
    ∀ char, (front lead rest).1 = some char →
      encodeChar char ++ (front lead rest).2 = lead :: rest := by
  fun_cases front lead rest
  case case1 ascii =>
    rintro char ⟨⟩
    rw [encodeChar_one ascii, List.singleton_append]
  case case2 _ range b after second =>
    rintro char ⟨⟩
    rw [Bool.and_eq_true, decide_eq_true_eq, decide_eq_true_eq] at range
    rw [encodeChar_two range.1 range.2 second]
    rfl
  case case5 _ _ range b second c after third =>
    rintro char ⟨⟩
    rw [Bool.and_eq_true, decide_eq_true_eq, decide_eq_true_eq] at range
    rw [encodeChar_three range.1 range.2 second third]
    rfl
  case case10 _ _ _ range b second c third d after fourth =>
    rintro char ⟨⟩
    rw [Bool.and_eq_true, decide_eq_true_eq, decide_eq_true_eq] at range
    rw [encodeChar_four range.1 range.2 second third fourth]
    rfl
  -- In the other cases there is no character at the front.
  all_goals
    intro char here
    cases here

/-! ## Whole texts -/

/-- Octets that strict decoding accepts are those of the text that it gives. -/
theorem encode_of_segments {bytes : Bytes} {text : List Char}
    (whole : segments bytes = text.map some) : encode text = bytes := by
  induction text generalizing bytes with
  | nil =>
      cases bytes with
      | nil => rfl
      | cons lead rest =>
          rw [segments_cons] at whole
          cases whole
  | cons char text ih =>
      cases bytes with
      | nil =>
          rw [segments_nil] at whole
          cases whole
      | cons lead rest =>
          rw [segments_cons, List.map_cons, List.cons.injEq] at whole
          calc
            encode (char :: text) = encodeChar char ++ encode text := rfl
            _ = encodeChar char ++ (front lead rest).2 := by rw [ih whole.2]
            _ = lead :: rest := encodeChar_front lead rest char whole.1

/-- Strict decoding gives a text if every segment is a character. -/
theorem segments_of_decode? {bytes : Bytes} {text : List Char}
    (given : decode? bytes = some text) : segments bytes = text.map some := by
  unfold decode? at given
  generalize segments bytes = listed at given ⊢
  induction listed generalizing text with
  | nil =>
      cases given
      rfl
  | cons segment rest ih =>
      rw [List.mapM_cons] at given
      rcases Option.bind_eq_some_iff.mp given with ⟨char, here, given⟩
      rcases Option.bind_eq_some_iff.mp given with ⟨later, read, same⟩
      cases same
      change segment = some char at here
      rw [here, ih read]
      rfl

theorem encode_of_decode? {bytes : Bytes} {text : List Char} (given : decode? bytes = some text) :
    encode text = bytes :=
  encode_of_segments (segments_of_decode? given)

/-- Strict decoding gives no other text than lossy decoding does. -/
theorem decodeLossy_of_decode? {bytes : Bytes} {text : List Char}
    (given : decode? bytes = some text) : decodeLossy bytes = text := by
  rw [decodeLossy, segments_of_decode? given, List.map_map]
  exact List.map_id text

/-- Lossy decoding keeps octets if, and only if, they are well formed. -/
theorem encode_decodeLossy_eq_iff {bytes : Bytes} :
    encode (decodeLossy bytes) = bytes ↔ (decode? bytes).isSome = true := by
  constructor
  · intro kept
    rw [← kept, decode?_encode]
    rfl
  · intro wellFormed
    rcases Option.isSome_iff_exists.mp wellFormed with ⟨text, given⟩
    rw [decodeLossy_of_decode? given, encode_of_decode? given]

end Utf8
end Text
end PodCommand
