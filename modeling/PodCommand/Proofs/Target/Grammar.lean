import Mathlib.Data.List.Basic
import PodCommand.Proofs.Target.Label
import PodCommand.Proofs.Text.FormEncoding
import PodCommand.Proofs.Text.WellFormed

namespace PodCommand

/-!
The grammar of names, and that the checks accept exactly what it derives.

A name is derived as pieces with single dots between them.  A piece is told by its length and by the
characters that it consists of, begins with and ends with; nothing is said of how it is checked.
The checks look at octets in some places and at characters in others, which comes to the same: an
octet of a character beyond ASCII is never permitted.

Names that are accepted need no care where they are put.  They hold only characters that a URL keeps
as they are, and none of them is a step of a path.
-/

/-- A lower-case letter or a digit. -/
def IsAlnum (c : Char) : Prop := ('a' ≤ c ∧ c ≤ 'z') ∨ ('0' ≤ c ∧ c ≤ '9')

/-- A piece of a name: 1 to 63 letters, digits and dashes, the first and the last no dash. -/
structure IsPiece (text : List Char) : Prop where
  length : 1 ≤ text.length ∧ text.length ≤ 63
  chars : ∀ c ∈ text, IsAlnum c ∨ c = '-'
  opens : ∃ c ∈ text.head?, IsAlnum c
  closes : ∃ c ∈ text.getLast?, IsAlnum c

/-- One or more pieces with single dots between them. -/
inductive IsDotted : List Char → Prop
  | piece {text : List Char} (piece : IsPiece text) : IsDotted text
  | dot {text rest : List Char} (piece : IsPiece text) (more : IsDotted rest) :
      IsDotted (text ++ '.' :: rest)

/-! ## Pieces -/

theorem isLabelChar_iff_isAlnum {c : Char} : isLabelChar c = true ↔ IsAlnum c ∨ c = '-' := by
  rw [isLabelChar_iff, IsAlnum, or_assoc]

theorem not_isAlnum_dash : ¬ IsAlnum '-' := by
  unfold IsAlnum
  decide

theorem isLabel_iff_isPiece {text : List Char} : isLabel text = true ↔ IsPiece text := by
  unfold isLabel
  simp only [Bool.and_eq_true, Bool.not_eq_true', List.isEmpty_eq_false_iff, decide_eq_true_eq,
    List.all_eq_true, bne_iff_ne]
  constructor
  · rintro ⟨⟨⟨⟨nonempty, short⟩, permitted⟩, front⟩, back⟩
    have chars : ∀ c ∈ text, IsAlnum c ∨ c = '-' := fun c member =>
      isLabelChar_iff_isAlnum.mp (permitted c member)
    have first : text.head? = some (text.head nonempty) := List.head?_eq_some_head nonempty
    have last : text.getLast? = some (text.getLast nonempty) :=
      List.getLast?_eq_some_getLast nonempty
    have solid {c : Char} (member : c ∈ text) (noDash : c ≠ '-') : IsAlnum c :=
      (chars c member).resolve_right noDash
    refine ⟨⟨List.length_pos_iff.mpr nonempty, short⟩, chars, ?_, ?_⟩
    · exact ⟨_, first, solid (List.head_mem nonempty) fun dash => front (dash ▸ first)⟩
    · exact ⟨_, last, solid (List.getLast_mem nonempty) fun dash => back (dash ▸ last)⟩
  · rintro ⟨⟨some, short⟩, chars, ⟨first, front, solid⟩, last, back, solid'⟩
    have noDash {c : Char} {place : Option Char} (here : c ∈ place) (solid : IsAlnum c) :
        place ≠ Option.some '-' := by
      rintro rfl
      cases here
      exact not_isAlnum_dash solid
    exact ⟨⟨⟨⟨List.ne_nil_of_length_pos some, short⟩, fun c member =>
      isLabelChar_iff_isAlnum.mpr (chars c member)⟩, noDash front solid⟩, noDash back solid'⟩

theorem IsPiece.dot_not_mem {text : List Char} (piece : IsPiece text) : '.' ∉ text := by
  intro member
  rcases piece.chars '.' member with solid | dash
  · exact absurd solid (by unfold IsAlnum; decide)
  · cases dash

theorem IsPiece.ne_nil {text : List Char} (piece : IsPiece text) : text ≠ [] :=
  List.ne_nil_of_length_pos piece.length.1

/-! ## Pieces between dots -/

theorem isDotted_intercalate {labels : List (List Char)} (some : labels ≠ [])
    (pieces : ∀ label ∈ labels, IsPiece label) : IsDotted (['.'].intercalate labels) := by
  induction labels with
  | nil => exact absurd rfl some
  | cons label labels ih =>
      have piece := pieces label List.mem_cons_self
      cases labels with
      | nil =>
          rw [List.intercalate_singleton]
          exact .piece piece
      | cons next labels =>
          rw [List.intercalate_cons_cons, List.append_assoc, List.singleton_append]
          refine .dot piece (ih (List.cons_ne_nil _ _) fun other member => ?_)
          exact pieces other (List.mem_cons_of_mem _ member)

theorem pieces_all_iff_isDotted {text : List Char} :
    (Text.pieces '.' text).all isLabel = true ↔ IsDotted text := by
  rw [List.all_eq_true]
  constructor
  · intro labels
    have derived := isDotted_intercalate (Text.pieces_ne_nil '.' text) fun label member =>
      isLabel_iff_isPiece.mp (labels label member)
    rwa [Text.pieces_eq_splitOn, List.intercalate_splitOn] at derived
  · intro dotted
    induction dotted with
    | piece piece =>
        rw [Text.pieces_of_not_mem piece.dot_not_mem]
        exact List.forall_mem_singleton.mpr (isLabel_iff_isPiece.mpr piece)
    | dot piece _ ih =>
        rw [Text.pieces_append_cons piece.dot_not_mem]
        exact List.forall_mem_cons.mpr ⟨isLabel_iff_isPiece.mpr piece, ih⟩

theorem isSubdomain_iff_isDotted {text : String} :
    isSubdomain text.toList = true ↔ text.utf8ByteSize ≤ 253 ∧ IsDotted text.toList := by
  rw [isSubdomain_iff]
  constructor
  · intro subdomain
    exact ⟨subdomain.short,
      pieces_all_iff_isDotted.mp (pieces_all_isLabel_iff.mpr subdomain.labels)⟩
  · rintro ⟨short, dotted⟩
    exact ⟨short, pieces_all_isLabel_iff.mp (pieces_all_iff_isDotted.mpr dotted)⟩

/-! ## The checks by octets -/

/-- Whether an octet may stand in a label. -/
def isLabelOctet (b : UInt8) : Bool :=
  (0x61 ≤ b && b ≤ 0x7A) || (0x30 ≤ b && b ≤ 0x39) || b == 0x2D

/-- Whether octets are those of a label, told without reading them as characters. -/
def isOctetLabel (bytes : Bytes) : Bool :=
  !bytes.isEmpty && bytes.length ≤ 63 && bytes.all isLabelOctet &&
    bytes.head? != some 0x2D && bytes.getLast? != some 0x2D

theorem isLabelOctet_ascii {c : Char} (ascii : c.toNat < 0x80) :
    isLabelOctet c.toNat.toUInt8 = isLabelChar c ∧ (c.toNat.toUInt8 = 0x2D ↔ c = '-') := by
  have all : ∀ n < 0x80, isLabelOctet n.toUInt8 = isLabelChar (Char.ofNat n) ∧
      (n.toUInt8 = 0x2D ↔ Char.ofNat n = '-') := by
    decide +kernel
  have known := all c.toNat ascii
  rwa [Char.ofNat_toNat] at known

theorem lt_of_isLabelOctet {b : UInt8} (permitted : isLabelOctet b = true) : b < 0x80 := by
  have all : ∀ n < 256, isLabelOctet n.toUInt8 = true → n.toUInt8 < 0x80 := by decide +kernel
  have known := all b.toNat b.toNat_lt
  rw [show b.toNat.toUInt8 = b from UInt8.ofNat_toNat] at known
  exact known permitted

/-- A character is ASCII if the first of its octets is permitted. -/
theorem isAscii_of_isLabelOctet {c : Char}
    (permitted : ∀ b ∈ Text.Utf8.encodeChar c, isLabelOctet b = true) : c.toNat < 0x80 := by
  rcases Text.Utf8.front_encodeChar c [] with ⟨lead, more, same, front⟩
  have ascii : lead < 0x80 :=
    lt_of_isLabelOctet (permitted lead (same ▸ List.mem_cons_self))
  rw [Text.Utf8.front_one ascii] at front
  have own : Char.ofNat lead.toNat = c := Option.some.inj (Prod.mk.inj front).1
  have small : lead.toNat < 0x80 := UInt8.lt_iff_toNat_lt.mp ascii
  rwa [← own, Text.Utf8.toNat_ofNat (Or.inl (Nat.lt_trans small (by decide)))]

theorem encode_of_ascii {text : List Char} (ascii : ∀ c ∈ text, c.toNat < 0x80) :
    Text.Utf8.encode text = text.map fun c => c.toNat.toUInt8 := by
  rw [Text.Utf8.encode, List.map_eq_flatMap]
  exact List.flatMap_congr fun c member => if_pos (ascii c member)

/-- A label is told by its octets: its length and its ends are the same by octets and by characters,
and no octet of a character beyond ASCII is permitted. -/
theorem isOctetLabel_encode (text : List Char) :
    isOctetLabel (Text.Utf8.encode text) = isLabel text := by
  by_cases ascii : ∀ c ∈ text, c.toNat < 0x80
  · have dash {place : Option Char} (within : ∀ c ∈ place, c.toNat < 0x80) :
        place.map (fun c => c.toNat.toUInt8) = some 0x2D ↔ place = some '-' := by
      cases place with
      | none => simp
      | some c =>
          rw [Option.map_some, Option.some_inj, Option.some_inj]
          exact (isLabelOctet_ascii (within c rfl)).2
    have front := dash fun c first => ascii c (List.mem_of_head? first)
    have back := dash fun c last => ascii c (List.mem_of_getLast? last)
    have permitted : text.all (isLabelOctet ∘ fun c => c.toNat.toUInt8) = text.all isLabelChar := by
      rw [Bool.eq_iff_iff, List.all_eq_true, List.all_eq_true]
      exact forall₂_congr fun c member => by
        rw [Function.comp_apply, (isLabelOctet_ascii (ascii c member)).1]
    unfold isOctetLabel isLabel
    rw [encode_of_ascii ascii, List.isEmpty_map, List.length_map, List.all_map, permitted,
      List.head?_map, List.getLast?_map]
    simp only [bne, Bool.beq_eq_decide_eq, front, back]
  · have notLabel : isLabel text = false := by
      rw [Bool.eq_false_iff]
      intro label
      exact ascii fun c member => isAscii_of_isLabelChar (isLabelChar_of_isLabel label member)
    have notOctets : isOctetLabel (Text.Utf8.encode text) = false := by
      rw [Bool.eq_false_iff]
      intro label
      simp only [isOctetLabel, Bool.and_eq_true, List.all_eq_true] at label
      exact ascii fun c member => isAscii_of_isLabelOctet fun b here =>
        label.1.1.2 b (List.mem_flatMap.mpr ⟨c, member, here⟩)
    rw [notLabel, notOctets]

theorem isSubdomain_eq_octets (text : String) :
    isSubdomain text.toList = (decide (text.utf8ByteSize ≤ 253) &&
      (Text.pieces '.' text.toList).all fun piece => isOctetLabel (Text.Utf8.encode piece)) := by
  simp only [isOctetLabel_encode]
  rw [Bool.eq_iff_iff, isSubdomain_iff_isDotted, Bool.and_eq_true, decide_eq_true_eq,
    pieces_all_iff_isDotted]

/-! ## Accepted names as they are used -/

/-- A character that a URL keeps as it is, wherever it stands. -/
def IsUnreserved (c : Char) : Prop := c.isAlphanum = true ∨ c ∈ ['-', '.', '_', '~']

instance : DecidablePred IsUnreserved := fun _ => inferInstanceAs (Decidable (_ ∨ _))

/-- A name that means the same in a URL, in a path and in a log. -/
structure IsHarmlessName (text : String) : Prop where
  unreserved : ∀ c ∈ text.toList, c.toNat < 0x80 ∧ IsUnreserved c
  /-- It is no step to the same or to the upper directory. -/
  noStep : text ≠ "." ∧ text ≠ ".."
  filled : [] ∉ Text.pieces '.' text.toList
  encoded : Text.FormEncoding.encode text.toList = text.toList

theorem kept_of_isLabelChar {c : Char} (char : c = '.' ∨ isLabelChar c = true) :
    c.toNat < 0x80 ∧ IsUnreserved c ∧
      Text.FormEncoding.encodeOctet c.toNat.toUInt8 = [c] := by
  have ascii : c.toNat < 0x80 := by
    rcases char with rfl | char
    · decide
    · exact isAscii_of_isLabelChar char
  have all : ∀ n < 0x80, Char.ofNat n = '.' ∨ isLabelChar (Char.ofNat n) = true →
      IsUnreserved (Char.ofNat n) ∧
        Text.FormEncoding.encodeOctet n.toUInt8 = [Char.ofNat n] := by
    decide +kernel
  have known := all c.toNat ascii
  rw [Char.ofNat_toNat] at known
  exact ⟨ascii, known char⟩

theorem isHarmlessName_of_isSubdomain {text : String}
    (subdomain : isSubdomain text.toList = true) : IsHarmlessName text := by
  have kept : ∀ c ∈ text.toList, c.toNat < 0x80 ∧ IsUnreserved c ∧
      Text.FormEncoding.encodeOctet c.toNat.toUInt8 = [c] := fun c member =>
    kept_of_isLabelChar (isLabelChar_of_isSubdomain subdomain member)
  have filled : [] ∉ Text.pieces '.' text.toList := by
    intro empty
    have labels := List.all_eq_true.mp (Bool.and_eq_true_iff.mp subdomain).2
    exact (isLabel_iff_isPiece.mp (labels [] empty)).ne_nil rfl
  refine ⟨fun c member => ⟨(kept c member).1, (kept c member).2.1⟩, ⟨?_, ?_⟩, filled, ?_⟩
  · rintro rfl
    exact filled (by decide)
  · rintro rfl
    exact filled (by decide)
  · rw [Text.FormEncoding.encode, encode_of_ascii fun c member => (kept c member).1,
      List.flatMap_map]
    calc text.toList.flatMap (fun c => Text.FormEncoding.encodeOctet c.toNat.toUInt8)
        = text.toList.flatMap (fun c => [c]) :=
          List.flatMap_congr fun c member => (kept c member).2.2
      _ = text.toList := List.flatMap_singleton' text.toList

/-- A label is a subdomain of one piece. -/
theorem isSubdomain_of_isLabel {text : List Char} (label : isLabel text = true) :
    isSubdomain text = true := by
  have piece := isLabel_iff_isPiece.mp label
  unfold isSubdomain
  rw [Bool.and_eq_true, decide_eq_true_eq]
  exact ⟨Nat.le_trans piece.length.2 (by decide), pieces_all_iff_isDotted.mpr (.piece piece)⟩

/-! ## The checks against the grammar -/

/-- What the checks of names make of a text. -/
structure GrammarDecides (text : String) : Prop where
  subdomain : isSubdomain text.toList = true ↔ text.utf8ByteSize ≤ 253 ∧ IsDotted text.toList
  label : isLabel text.toList = true ↔ IsPiece text.toList ∧ '.' ∉ text.toList
  /-- Made on octets, the checks come to the same. -/
  octets : isLabel text.toList = isOctetLabel (Text.Utf8.encode text.toList) ∧
    isSubdomain text.toList = (decide (text.utf8ByteSize ≤ 253) &&
      (Text.pieces '.' text.toList).all fun piece => isOctetLabel (Text.Utf8.encode piece))
  accepted : isSubdomain text.toList = true ∨ isLabel text.toList = true → IsHarmlessName text

theorem grammar_decides (text : String) : GrammarDecides text where
  subdomain := isSubdomain_iff_isDotted
  label := by
    rw [isLabel_iff_isPiece]
    exact ⟨fun piece => ⟨piece, piece.dot_not_mem⟩, And.left⟩
  octets := ⟨(isOctetLabel_encode text.toList).symm, isSubdomain_eq_octets text⟩
  accepted given := isHarmlessName_of_isSubdomain (given.elim id isSubdomain_of_isLabel)

/-- A piece of 63 characters is a label, and with one more it is none. -/
example : isLabel (List.replicate 63 'a') = true ∧ isLabel (List.replicate 64 'a') = false := by
  decide

end PodCommand
