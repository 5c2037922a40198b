import PodCommand.Proofs.Text.Pieces
import PodCommand.Target

namespace PodCommand

/-!
What is known of a target that has passed its check: every name in it is a label or a list of
labels, and so holds nothing but lower-case letters, digits, dashes and, in the name of the object,
dots.
-/

/-! ## The characters of names -/

theorem isLabelChar_of_isLabel {text : List Char} (label : isLabel text = true) {c : Char}
    (member : c ∈ text) : isLabelChar c = true := by
  simp only [isLabel, Bool.and_eq_true] at label
  exact List.all_eq_true.mp label.1.1.2 c member

theorem isLabelChar_of_isSubdomain {text : List Char} (subdomain : isSubdomain text = true)
    {c : Char} (member : c ∈ text) : c = '.' ∨ isLabelChar c = true := by
  simp only [isSubdomain, Bool.and_eq_true] at subdomain
  refine (Text.mem_of_mem_pieces member).imp_right fun found => ?_
  rcases found with ⟨piece, within, here⟩
  exact isLabelChar_of_isLabel (List.all_eq_true.mp subdomain.2 piece within) here

namespace Target

/-! ## The check of a target -/

/-- A target passes its check if, and only if, every field of it holds a proper name; what the check
gives is the name of the object. -/
theorem validate_eq_ok_iff {target : Target} {name : String} :
    target.validate = .ok name ↔
      isLabel target.ns.toList = true ∧ isLabel target.resource.toList = true ∧
        target.name = some name ∧ isSubdomain name.toList = true ∧
        ∀ container, target.container = some container → isLabel container.toList = true := by
  unfold validate
  constructor
  · intro passed
    split at passed
    · cases passed
    · rename_i nsLabel
      split at passed
      · cases passed
      · rename_i resourceLabel
        split at passed
        · cases passed
        · rename_i given named
          split at passed
          · cases passed
          · rename_i subdomain
            simp only [Bool.not_eq_true, Bool.not_eq_false'] at nsLabel resourceLabel subdomain
            split at passed
            · rename_i absent
              cases passed
              exact ⟨nsLabel, resourceLabel, named, subdomain, by simp [absent]⟩
            · rename_i container present
              split at passed
              · rename_i label
                cases passed
                exact ⟨nsLabel, resourceLabel, named, subdomain, by simp [present, label]⟩
              · cases passed
  · rintro ⟨nsLabel, resourceLabel, named, subdomain, containerLabel⟩
    simp only [nsLabel, resourceLabel, named, subdomain, Bool.not_true, Bool.false_eq_true,
      if_false]
    cases present : target.container with
    | none => rfl
    | some container => simp only [containerLabel container present, if_true]

end Target
end PodCommand
