import Mathlib.Data.List.TakeWhile
import PodCommand.Text.Pieces

namespace PodCommand
namespace Text

/-!
Cutting text that has been joined: a text without the separator is one piece, and a separator after
such a text ends the piece.
-/

theorem pieces_of_not_mem {separator : Char} {text : List Char} (absent : separator ∉ text) :
    pieces separator text = [text] := by
  induction text with
  | nil => rfl
  | cons c rest ih =>
      rw [List.mem_cons, not_or] at absent
      simp only [pieces, if_neg (Ne.symm absent.1), ih absent.2]

theorem pieces_append_cons {separator : Char} {piece : List Char} (absent : separator ∉ piece)
    (rest : List Char) :
    pieces separator (piece ++ separator :: rest) = piece :: pieces separator rest := by
  induction piece with
  | nil => simp [pieces]
  | cons c piece ih =>
      rw [List.mem_cons, not_or] at absent
      rw [List.cons_append, pieces, if_neg (Ne.symm absent.1), ih absent.2]

/-- Cutting undoes joining, where every piece follows a separator. -/
theorem pieces_append_flatMap {separator : Char} {piece : List Char} (absent : separator ∉ piece)
    {α : Type} (write : α → List Char) (others : List α)
    (free : ∀ other ∈ others, separator ∉ write other) :
    pieces separator (piece ++ others.flatMap (fun other => separator :: write other)) =
      piece :: others.map write := by
  induction others generalizing piece with
  | nil => rw [List.flatMap_nil, List.append_nil, pieces_of_not_mem absent, List.map_nil]
  | cons other others ih =>
      rw [List.flatMap_cons, List.cons_append, pieces_append_cons absent,
        ih (free other List.mem_cons_self)
          (fun later member => free later (List.mem_cons_of_mem _ member)), List.map_cons]

/-- A character of a text is the separator or stands in one of the pieces. -/
theorem mem_of_mem_pieces {separator c : Char} {text : List Char} (member : c ∈ text) :
    c = separator ∨ ∃ piece ∈ pieces separator text, c ∈ piece := by
  induction text with
  | nil => cases member
  | cons d rest ih =>
      rw [pieces]
      by_cases same : d = separator
      · rw [if_pos same]
        rcases List.mem_cons.mp member with rfl | later
        · exact Or.inl same
        · refine (ih later).imp_right fun found => ?_
          rcases found with ⟨piece, within, here⟩
          exact ⟨piece, List.mem_cons_of_mem _ within, here⟩
      · rw [if_neg same]
        cases split : pieces separator rest with
        | nil => exact absurd split (pieces_ne_nil separator rest)
        | cons first others =>
            rw [split] at ih
            rcases List.mem_cons.mp member with rfl | later
            · exact Or.inr ⟨c :: first, List.mem_cons_self, List.mem_cons_self⟩
            · refine (ih later).imp_right fun found => ?_
              rcases found with ⟨piece, within, here⟩
              rcases List.mem_cons.mp within with rfl | beyond
              · exact ⟨d :: piece, List.mem_cons_self, List.mem_cons_of_mem _ here⟩
              · exact ⟨piece, List.mem_cons_of_mem _ beyond, here⟩

/-- The pieces are those of the library's splitting. -/
theorem pieces_eq_splitOn (separator : Char) (text : List Char) :
    pieces separator text = text.splitOn separator := by
  induction text with
  | nil => rfl
  | cons c rest ih =>
      rw [pieces, List.splitOn_cons_eq_if_modifyHead, ih]
      by_cases same : c = separator
      · rw [if_pos same, if_pos (beq_iff_eq.mpr same)]
      · rw [if_neg same, if_neg (mt beq_iff_eq.mp same)]
        cases split : rest.splitOn separator with
        | nil => exact absurd split (List.splitOn_ne_nil separator rest)
        | cons piece others => rfl

theorem cut_append_cons {separator : Char} {text : List Char} (absent : separator ∉ text)
    (rest : List Char) : cut separator (text ++ separator :: rest) = (text, some rest) := by
  have passed : ∀ c ∈ text, decide (c ≠ separator) = true := fun c member =>
    decide_eq_true fun same => absent (same ▸ member)
  rw [cut, List.takeWhile_append_of_pos passed, List.dropWhile_append_of_pos passed]
  simp

theorem cut_of_not_mem {separator : Char} {text : List Char} (absent : separator ∉ text) :
    cut separator text = (text, none) := by
  have passed : ∀ c ∈ text, decide (c ≠ separator) = true := fun c member =>
    decide_eq_true fun same => absent (same ▸ member)
  rw [cut, List.takeWhile_eq_self_iff.mpr passed, List.dropWhile_eq_nil_iff.mpr passed]
  rfl

end Text
end PodCommand
