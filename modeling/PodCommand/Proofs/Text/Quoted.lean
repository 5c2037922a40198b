import PodCommand.Text.Quoted

namespace PodCommand
namespace Text

/-!
What stands in quoted text.

Every character of it can be seen: one that has no form of its own is written as an escape, and the
escapes are made of plain ASCII.  The controls are among the characters without a form, so quoted
text holds none of them, whatever is quoted.
-/

/-! ## Controls and plain characters -/

/-- A control character: a character of the general category `Cc`. -/
def IsControl (c : Char) : Prop := c.toNat < 0x20 ∨ 0x7F ≤ c.toNat ∧ c.toNat < 0xA0

instance : DecidablePred IsControl := fun _ => inferInstanceAs (Decidable (_ ∨ _))

/-- A character of ASCII that is no control. -/
def IsPlain (c : Char) : Prop := 0x20 ≤ c.toNat ∧ c.toNat < 0x7F

instance : DecidablePred IsPlain := fun _ => inferInstanceAs (Decidable (_ ∧ _))

section

variable {c : Char}

theorem isUnprintable_iff :
    isUnprintable c = true ↔
      ∃ range ∈ unprintableRanges, range.1 ≤ c.toNat ∧ c.toNat ≤ range.2 := by
  simp only [isUnprintable, List.any_eq_true, Bool.and_eq_true, decide_eq_true_eq]

theorem IsControl.isUnprintable (control : IsControl c) : isUnprintable c = true := by
  rw [isUnprintable_iff]
  rcases control with low | ⟨low, high⟩
  · exact ⟨(0x00, 0x1F), by decide, Nat.zero_le _, Nat.le_of_lt_succ low⟩
  · exact ⟨(0x7F, 0xA0), by decide, low, Nat.le_of_lt high⟩

theorem IsPlain.isUnprintable (plain : IsPlain c) : isUnprintable c = false := by
  -- No range of the table reaches into the plain characters.
  have apart : ∀ range ∈ unprintableRanges, range.2 < 0x20 ∨ 0x7F ≤ range.1 := by
    decide +kernel
  rw [Bool.eq_false_iff, ne_eq, isUnprintable_iff]
  rintro ⟨range, member, low, high⟩
  rcases apart range member with before | after
  · exact absurd (Nat.le_trans plain.1 high) (Nat.not_le_of_lt before)
  · exact absurd (Nat.lt_of_le_of_lt low plain.2) (Nat.not_lt_of_le after)

/-- Characters that have been looked at one after another are plain. -/
theorem isPlain_of_all {text : List Char} (plain : text.all (fun c => decide (IsPlain c)) = true) :
    ∀ c ∈ text, IsPlain c := by
  intro c member
  exact of_decide_eq_true (List.all_eq_true.mp plain c member)

/-! ## Escapes -/

theorem isPlain_of_mem_hexNumeral {n : Nat} (member : c ∈ hexNumeral n) : IsPlain c := by
  have digits : ∀ digit < 16, IsPlain (Nat.digitChar digit) := by decide
  unfold hexNumeral at member
  induction n using Nat.strongRecOn with
  | _ n ih =>
      rw [Nat.toDigits_eq_if (by decide)] at member
      split at member
      · rename_i small
        rw [List.mem_singleton.mp member]
        exact digits n small
      · rename_i large
        rcases List.mem_append.mp member with front | last
        · exact ih (n / 16) (Nat.div_lt_self (by omega) (by decide)) front
        · rw [List.mem_singleton.mp last]
          exact digits (n % 16) (Nat.mod_lt n (by decide))

/-- An escape is plain, and a character that needs none can be seen. -/
theorem isUnprintable_of_mem_escape {style : QuoteStyle} {d : Char} (member : c ∈ style.escape d) :
    isUnprintable c = false := by
  have escaped {escape : List Char} (here : c ∈ escape) (plain : ∀ c ∈ escape, IsPlain c) :
      isUnprintable c = false := (plain c here).isUnprintable
  unfold QuoteStyle.escape at member
  -- The first six escapes are pairs of characters.
  iterate 6
    split at member
    · exact escaped member (isPlain_of_all (by decide))
  split at member
  · rename_i apostrophe
    split at member
    · exact escaped member (isPlain_of_all (by decide))
    · rw [apostrophe] at member
      exact escaped member (isPlain_of_all (by decide))
  split at member
  · refine escaped member fun c here => ?_
    rcases List.mem_append.mp here with front | close
    · rcases List.mem_append.mp front with mark | digit
      · exact isPlain_of_all (by decide) c mark
      · exact isPlain_of_mem_hexNumeral digit
    · exact isPlain_of_all (by decide) c close
  · rename_i visible
    rw [Bool.or_eq_true, not_or] at visible
    rw [List.mem_singleton.mp member]
    exact Bool.eq_false_iff.mpr visible.2

/-- Every character of quoted text can be seen. -/
theorem isUnprintable_of_mem_quoted {text : String} (member : c ∈ (quoted text).toList) :
    isUnprintable c = false := by
  have mark : IsPlain '"' := by decide
  rw [quoted, QuoteStyle.quote, String.toList_ofList] at member
  rcases List.mem_cons.mp member with rfl | later
  · exact mark.isUnprintable
  · rcases List.mem_append.mp later with inside | close
    · rcases List.mem_flatMap.mp inside with ⟨d, _, here⟩
      exact isUnprintable_of_mem_escape here
    · rw [List.mem_singleton.mp close]
      exact mark.isUnprintable

end

end Text
end PodCommand
