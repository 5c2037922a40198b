import PodCommand.Proofs.Text.Pieces
import PodCommand.Proofs.Text.Utf8
import PodCommand.Text.Digits
import PodCommand.Text.FormEncoding

namespace PodCommand
namespace Text
namespace FormEncoding

/-!
Reading a query that has been written.

The reader is the usual one: it cuts the query at the ampersands and each piece at its first equals
sign, and takes a plus sign for a space and `%XX` for an octet.  What it reads are octets, so it
says nothing about which of them are text.  Because a written value holds neither separator, reading
gives back every name and every value octet by octet, whatever characters they consist of.
-/

/-! ## The reader -/

/-- The octets that a written value stands for.  A percent sign without two digits after it stands
for itself. -/
def decode : List Char → Bytes
  | [] => []
  | '+' :: rest => 0x20 :: decode rest
  | '%' :: first :: second :: rest =>
    match hexValue? first, hexValue? second with
    | some high, some low => (high * 16 + low).toUInt8 :: decode rest
    | _, _ => 0x25 :: decode (first :: second :: rest)
  | c :: rest => Utf8.encodeChar c ++ decode rest

/-- The name and the value in a piece of a query. -/
def decodePair (piece : List Char) : Bytes × Bytes :=
  (decode (cut '=' piece).1, decode ((cut '=' piece).2.getD []))

/-- The names and values of a query, in order.  Nothing stands before an ampersand at the front. -/
def decodeQuery (query : List Char) : List (Bytes × Bytes) :=
  match pieces '&' query with
  | [] :: rest => rest.map decodePair
  | whole => whole.map decodePair

/-- The octets of a name and of its value. -/
def octets (pair : String × String) : Bytes × Bytes :=
  (Utf8.encode pair.1.toList, Utf8.encode pair.2.toList)

theorem octets_injective {first second : String × String} (same : octets first = octets second) :
    first = second := by
  rcases Prod.mk.inj same with ⟨names, values⟩
  exact Prod.ext (Utf8.encode_toList_injective names) (Utf8.encode_toList_injective values)

/-! ## One octet -/

/-- A character that stands for itself in a written value: it stands for one octet. -/
theorem kept_char {b : UInt8} (kept : isKept b = true) :
    Utf8.encodeChar (Char.ofNat b.toNat) = [b] ∧ Char.ofNat b.toNat ≠ '+' ∧
      Char.ofNat b.toNat ≠ '%' ∧ Char.ofNat b.toNat ≠ '&' ∧ Char.ofNat b.toNat ≠ '=' := by
  have all : ∀ n < 256, isKept n.toUInt8 = true →
      Utf8.encodeChar (Char.ofNat n) = [n.toUInt8] ∧ Char.ofNat n ≠ '+' ∧
        Char.ofNat n ≠ '%' ∧ Char.ofNat n ≠ '&' ∧ Char.ofNat n ≠ '=' := by
    decide +kernel
  have back : b.toNat.toUInt8 = b := UInt8.ofNat_toNat
  have here := all b.toNat b.toNat_lt
  rw [back] at here
  exact here kept

theorem hexValue?_hexDigit {n : Nat} (small : n < 16) : hexValue? (hexDigit n) = some n := by
  have all : ∀ n < 16, hexValue? (hexDigit n) = some n := by decide
  exact all n small

/-- What is written for an octet is read as that octet. -/
theorem decode_encodeOctet (b : UInt8) (rest : List Char) :
    decode (encodeOctet b ++ rest) = b :: decode rest := by
  unfold encodeOctet
  split
  · rename_i kept
    rcases kept_char kept with ⟨own, notPlus, notPercent, _⟩
    rw [List.singleton_append, decode, own, List.singleton_append]
    · exact notPlus
    · exact fun _ _ _ same => absurd same notPercent
  · split
    · rename_i space
      rw [space]
      rfl
    · have high := hexValue?_hexDigit (show b.toNat / 16 < 16 by have := b.toNat_lt; omega)
      have low := hexValue?_hexDigit (Nat.mod_lt b.toNat (show 0 < 16 by decide))
      have number : b.toNat / 16 * 16 + b.toNat % 16 = b.toNat := Nat.div_add_mod' b.toNat 16
      simp only [List.cons_append, List.nil_append, decode, high, low, number]
      rw [show b.toNat.toUInt8 = b from UInt8.ofNat_toNat]

/-- An octet is written without the separators of a query. -/
theorem separator_not_mem_encodeOctet {separator : Char} (ends : separator = '&' ∨ separator = '=')
    (b : UInt8) : separator ∉ encodeOctet b := by
  have digit : ∀ n < 16, hexDigit n ≠ '&' ∧ hexDigit n ≠ '=' := by decide
  have high := digit (b.toNat / 16) (by have := b.toNat_lt; omega)
  have low := digit (b.toNat % 16) (Nat.mod_lt _ (by decide))
  unfold encodeOctet
  split
  · rename_i kept
    rcases kept_char kept with ⟨_, _, _, notAmpersand, notEquals⟩
    rcases ends with rfl | rfl
    · simpa using notAmpersand.symm
    · simpa using notEquals.symm
  · split
    · rcases ends with rfl | rfl <;> decide
    · rcases ends with rfl | rfl
      · simp [high.1.symm, low.1.symm]
      · simp [high.2.symm, low.2.symm]

/-! ## Values, pairs and queries -/

theorem decode_flatMap_encodeOctet (bytes : Bytes) (rest : List Char) :
    decode (bytes.flatMap encodeOctet ++ rest) = bytes ++ decode rest := by
  induction bytes with
  | nil => rfl
  | cons b bytes ih =>
      rw [List.flatMap_cons, List.append_assoc, decode_encodeOctet, ih, List.cons_append]

theorem decode_encode (value : List Char) : decode (encode value) = Utf8.encode value := by
  have whole := decode_flatMap_encodeOctet (Utf8.encode value) []
  rwa [List.append_nil, decode, List.append_nil] at whole

theorem separator_not_mem_encode {separator : Char} (ends : separator = '&' ∨ separator = '=')
    (value : List Char) : separator ∉ encode value := by
  intro member
  rcases List.mem_flatMap.mp member with ⟨b, _, within⟩
  exact separator_not_mem_encodeOctet ends b within

theorem decodePair_encodePair (pair : String × String) :
    decodePair (encodePair pair) = octets pair := by
  have absent := separator_not_mem_encode (Or.inr rfl) pair.1.toList
  unfold decodePair encodePair
  rw [cut_append_cons absent]
  dsimp only [Option.getD_some]
  rw [decode_encode, decode_encode]
  rfl

theorem ampersand_not_mem_encodePair (pair : String × String) : '&' ∉ encodePair pair := by
  intro member
  rcases List.mem_append.mp member with name | value
  · exact separator_not_mem_encode (Or.inl rfl) _ name
  · rcases List.mem_cons.mp value with equals | value
    · cases equals
    · exact separator_not_mem_encode (Or.inl rfl) _ value

/-- Reading a written query gives the octets of its pairs, in their order. -/
theorem decodeQuery_written (pairs : List (String × String)) :
    decodeQuery (pairs.flatMap fun pair => '&' :: encodePair pair) = pairs.map octets := by
  have cut := pieces_append_flatMap (List.not_mem_nil (a := '&')) encodePair pairs
    fun pair _ => ampersand_not_mem_encodePair pair
  rw [List.nil_append] at cut
  unfold decodeQuery
  rw [cut]
  dsimp only
  rw [List.map_map]
  exact List.map_congr_left fun pair _ => decodePair_encodePair pair

end FormEncoding
end Text
end PodCommand
