import PodCommand.Proofs.Requirement
import PodCommand.Proofs.Target.Name

namespace PodCommand

/-!
Names of cluster objects as their grammar has them, beside the checks that run.

The grammar counts octets and the checks count characters.  The two agree because a name that has
only permitted characters is ASCII, and a name is never accepted with any other.
-/

/-- A label: 1 to 63 octets of lower-case letters, digits and dashes, with no dash at either
end. -/
structure IsLabel (text : String) : Prop where
  nonempty : text ≠ ""
  short : text.utf8ByteSize ≤ 63
  chars : ∀ c ∈ text.toList, ('a' ≤ c ∧ c ≤ 'z') ∨ ('0' ≤ c ∧ c ≤ '9') ∨ c = '-'
  front : text.toList.head? ≠ some '-'
  back : text.toList.getLast? ≠ some '-'

/-- A subdomain: at most 253 octets of labels joined by dots. -/
structure IsSubdomain (text : String) : Prop where
  short : text.utf8ByteSize ≤ 253
  labels : ∃ labels, labels ≠ [] ∧ (∀ label ∈ labels, IsLabel label) ∧
    text = ".".intercalate labels

/-! ## Octets and characters -/

/-- Text in ASCII has one octet for every character. -/
theorem utf8ByteSize_of_ascii {text : String} (ascii : ∀ c ∈ text.toList, c.toNat < 0x80) :
    text.utf8ByteSize = text.length := by
  rw [← String.length_toList, ← String.ofList_toList (s := text)]
  generalize text.toList = chars at ascii
  rw [String.toList_ofList]
  induction chars with
  | nil => rfl
  | cons c chars ih =>
      have single : c.utf8Size = 1 :=
        Char.utf8Size_eq_one_iff.mpr
          (UInt32.le_iff_toNat_le.mpr (Nat.le_of_lt_succ (ascii c List.mem_cons_self)))
      rw [String.ofList_cons, String.utf8ByteSize_append, String.utf8ByteSize_singleton, single,
        ih fun other member => ascii other (List.mem_cons_of_mem _ member), List.length_cons,
        Nat.add_comm]

theorem isLabelChar_iff {c : Char} :
    isLabelChar c = true ↔ ('a' ≤ c ∧ c ≤ 'z') ∨ ('0' ≤ c ∧ c ≤ '9') ∨ c = '-' := by
  simp only [isLabelChar, Bool.or_eq_true, Bool.and_eq_true, decide_eq_true_eq, beq_iff_eq,
    or_assoc]

theorem isAscii_of_isLabelChar {c : Char} (char : isLabelChar c = true) : c.toNat < 0x80 := by
  have below : ∀ d : Char, c ≤ d → d.toNat < 0x80 → c.toNat < 0x80 := fun _ le ascii =>
    Nat.lt_of_le_of_lt (UInt32.le_iff_toNat_le.mp le) ascii
  rcases isLabelChar_iff.mp char with ⟨_, high⟩ | ⟨_, high⟩ | rfl
  · exact below 'z' high (by decide)
  · exact below '9' high (by decide)
  · decide

/-! ## Labels -/

theorem isLabel_iff {text : String} : isLabel text.toList = true ↔ IsLabel text := by
  have size (chars : ∀ c ∈ text.toList, isLabelChar c = true) :
      text.utf8ByteSize = text.toList.length := by
    rw [String.length_toList]
    exact utf8ByteSize_of_ascii fun c member => isAscii_of_isLabelChar (chars c member)
  unfold isLabel
  simp only [Bool.and_eq_true, Bool.not_eq_true', List.isEmpty_eq_false_iff, decide_eq_true_eq,
    List.all_eq_true, bne_iff_ne]
  constructor
  · rintro ⟨⟨⟨⟨nonempty, short⟩, chars⟩, front⟩, back⟩
    exact ⟨fun empty => nonempty (String.toList_eq_nil_iff.mpr empty), size chars ▸ short,
      fun c member => isLabelChar_iff.mp (chars c member), front, back⟩
  · intro label
    have chars : ∀ c ∈ text.toList, isLabelChar c = true := fun c member =>
      isLabelChar_iff.mpr (label.chars c member)
    exact ⟨⟨⟨⟨fun empty => label.nonempty (String.toList_eq_nil_iff.mp empty),
      size chars ▸ label.short⟩, chars⟩, label.front⟩, label.back⟩

instance : DecidablePred IsLabel := fun _ => decidable_of_iff _ isLabel_iff

theorem isLabel_eq_decide (text : String) : isLabel text.toList = decide (IsLabel text) :=
  Bool.eq_iff_iff.mpr (isLabel_iff.trans decide_eq_true_iff.symm)

theorem IsLabel.dot_not_mem {text : String} (label : IsLabel text) : '.' ∉ text.toList := by
  intro member
  rcases label.chars '.' member with ⟨low, _⟩ | ⟨low, _⟩ | same
  · exact absurd low (by decide)
  · exact absurd low (by decide)
  · exact absurd same (by decide)

/-! ## Subdomains -/

/-- The pieces of a text are all labels if, and only if, it is a list of labels joined by dots. -/
theorem pieces_all_isLabel_iff {text : String} :
    (Text.pieces '.' text.toList).all isLabel = true ↔
      ∃ labels, labels ≠ [] ∧ (∀ label ∈ labels, IsLabel label) ∧
        text = ".".intercalate labels := by
  rw [Text.pieces_eq_splitOn, List.all_eq_true]
  constructor
  · intro all
    refine ⟨(text.toList.splitOn '.').map String.ofList, ?_, ?_, ?_⟩
    · exact fun empty => List.splitOn_ne_nil '.' text.toList (List.map_eq_nil_iff.mp empty)
    · intro label member
      rcases List.mem_map.mp member with ⟨piece, within, rfl⟩
      rw [← isLabel_iff, String.toList_ofList]
      exact all piece within
    · rw [← String.toList_inj, String.toList_intercalate, List.map_map]
      have back : String.toList ∘ String.ofList = id := funext fun _ => String.toList_ofList
      rw [back, List.map_id]
      exact (List.intercalate_splitOn '.').symm
  · rintro ⟨labels, nonempty, all, rfl⟩ piece member
    have joined : (".".intercalate labels).toList = ['.'].intercalate (labels.map String.toList) :=
      String.toList_intercalate
    have free : ∀ piece ∈ labels.map String.toList, '.' ∉ piece := by
      intro piece member
      rcases List.mem_map.mp member with ⟨label, listed, rfl⟩
      exact (all label listed).dot_not_mem
    rw [joined, List.splitOn_intercalate '.' free (by simpa using nonempty)] at member
    rcases List.mem_map.mp member with ⟨label, listed, rfl⟩
    exact isLabel_iff.mpr (all label listed)

theorem isSubdomain_iff {text : String} : isSubdomain text.toList = true ↔ IsSubdomain text := by
  have size (pieces : (Text.pieces '.' text.toList).all isLabel = true) :
      text.utf8ByteSize = text.toList.length := by
    rw [String.length_toList]
    apply utf8ByteSize_of_ascii
    intro c member
    have found : c = '.' ∨ ∃ piece ∈ Text.pieces '.' text.toList, c ∈ piece :=
      Text.mem_of_mem_pieces member
    rcases found with rfl | ⟨piece, within, here⟩
    · decide
    · exact isAscii_of_isLabelChar
        (isLabelChar_of_isLabel (List.all_eq_true.mp pieces piece within) here)
  unfold isSubdomain
  rw [Bool.and_eq_true, decide_eq_true_eq]
  constructor
  · rintro ⟨short, pieces⟩
    exact ⟨size pieces ▸ short, pieces_all_isLabel_iff.mp pieces⟩
  · intro subdomain
    have pieces := pieces_all_isLabel_iff.mpr subdomain.labels
    exact ⟨size pieces ▸ subdomain.short, pieces⟩

instance : DecidablePred IsSubdomain := fun _ => decidable_of_iff _ isSubdomain_iff

theorem isSubdomain_eq_decide (text : String) :
    isSubdomain text.toList = decide (IsSubdomain text) :=
  Bool.eq_iff_iff.mpr (isSubdomain_iff.trans decide_eq_true_iff.symm)

/-! ## The check of a target -/

namespace Target

/-- What is required of a target, in the order in which it is looked at. -/
def requirements (target : Target) : List (Requirement Defect) :=
  [⟨IsLabel target.ns, .badNamespace target.ns⟩,
    ⟨IsLabel target.resource, .badResource target.resource⟩,
    ⟨target.name.isSome = true, .noName target⟩,
    ⟨∀ name ∈ target.name, IsSubdomain name, .badName (target.name.getD "")⟩,
    ⟨∀ container ∈ target.container, IsLabel container,
      .badContainer (target.container.getD "")⟩]

theorem validate_judged (target : Target) :
    Judged (target.name.getD "") target.requirements target.validate := by
  unfold requirements validate
  simp only [isLabel_eq_decide, isSubdomain_eq_decide]
  refine .step (fun unmet => if_pos (by simpa using unmet)) fun nsLabel => ?_
  rw [if_neg (by simpa using nsLabel)]
  refine .step (fun unmet => if_pos (by simpa using unmet)) fun resourceLabel => ?_
  rw [if_neg (by simpa using resourceLabel)]
  cases target.name with
  | none => exact .refused (by simp)
  | some name =>
      refine .passed rfl (.step (fun unmet => if_pos (by simpa using unmet)) fun subdomain => ?_)
      dsimp only
      rw [if_neg (by simpa using subdomain)]
      cases target.container with
      | none => exact .passed (by simp) .accepted
      | some container =>
          refine .step (fun unmet => if_neg (by simpa using unmet)) fun label => ?_
          dsimp only
          rw [if_pos (by simpa using label)]
          exact .accepted

end Target
end PodCommand
