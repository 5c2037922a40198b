import PodCommand.Proofs.Request.Acceptance
import PodCommand.Proofs.Text.Quoted
import PodCommand.Session.Error

namespace PodCommand

/-!
How the refusal of a request tells what it was given.

A message is made of the program's own words, of names that are shown as they are, and of texts in
quotes.  Whatever has not been checked is quoted, so that nothing in it can break a line, with one
exception: where the name of the object is missing, the whole target is shown, and with it a
container that nobody has looked at.  Characters that cannot be seen get into a message this way and
in no other.
-/

/-- What a message is made of. -/
inductive Fragment
  /-- Words of the program's own. -/
  | own (text : String)
  /-- A text that was given, as it is. -/
  | bare (text : String)
  /-- A text that was given, in quotes. -/
  | quoted (text : String)
  deriving DecidableEq, Repr

def Fragment.text : Fragment → String
  | own text | bare text => text
  | quoted text => Text.quoted text

/-- The characters of fragments, one after another. -/
def Fragment.join (fragments : List Fragment) : List Char :=
  fragments.flatMap fun fragment => fragment.text.toList

namespace Target

/-- What the display of a target is made of. -/
def fragments (target : Target) : List Fragment :=
  [.bare target.ns, .own "/", .bare target.resource] ++
    target.name.toList.flatMap (fun name => [.own "/", .bare name]) ++
    target.container.toList.flatMap fun container => [.own "[", .bare container, .own "]"]

/-- What the description of a defect is made of. -/
def Defect.fragments : Defect → List Fragment
  | badNamespace ns => [.own "invalid namespace ", .quoted ns]
  | badResource resource => [.own "invalid resource kind ", .quoted resource]
  | noName target =>
    [.own "no ", .bare target.resource, .own " name given in "] ++ target.fragments
  | badName name => [.own "invalid name ", .quoted name]
  | badContainer container => [.own "invalid container ", .quoted container]

theorem toList_display (target : Target) :
    target.display.toList = Fragment.join target.fragments := by
  rcases target with ⟨ns, resource, name, container⟩
  cases name <;> cases container <;>
    simp only [display, fragments, Fragment.join, Fragment.text, Option.toList_none,
      Option.toList_some, List.flatMap_cons, List.flatMap_nil, List.cons_append, List.nil_append,
      List.append_nil, String.toList_append, List.append_assoc, String.toList_empty]

theorem Defect.toList_message (defect : Defect) :
    defect.message.toList = Fragment.join defect.fragments := by
  unfold message
  cases defect with
  | noName target =>
      simp only [fragments, String.toList_append, toList_display, Fragment.join, Fragment.text,
        List.flatMap_cons, List.flatMap_nil, List.flatMap_append, List.append_assoc,
        List.append_nil]
  | _ =>
      simp only [fragments, Fragment.join, Fragment.text, String.toList_append,
        List.flatMap_cons, List.flatMap_nil, List.append_nil]

/-- The target without a name is blamed if, and only if, it gets as far as that. -/
theorem validate_eq_noName_iff {target other : Target} :
    target.validate = .error (.noName other) ↔
      other = target ∧ IsLabel target.ns ∧ IsLabel target.resource ∧ target.name = none := by
  rw [← isLabel_iff, ← isLabel_iff]
  unfold validate
  constructor
  · intro refused
    split at refused
    · cases refused
    · rename_i nsLabel
      split at refused
      · cases refused
      · rename_i resourceLabel
        simp only [Bool.not_eq_true, Bool.not_eq_false'] at nsLabel resourceLabel
        cases unnamed : target.name with
        | none =>
            rw [unnamed] at refused
            cases refused
            exact ⟨rfl, nsLabel, resourceLabel, rfl⟩
        | some name =>
            simp only [unnamed] at refused
            split at refused
            · cases refused
            · split at refused
              · cases refused
              · split at refused <;> cases refused
  · rintro ⟨rfl, nsLabel, resourceLabel, unnamed⟩
    simp only [nsLabel, resourceLabel, unnamed, Bool.not_true, Bool.false_eq_true, if_false]

end Target

namespace RequestError

/-- What the message of a refused request is made of, its heading included. -/
def fragments (error : RequestError) : List Fragment :=
  .own (if error.isSchema then "Schema error: " else "Invalid argument: ") ::
    match error with
    | badTarget defect => defect.fragments
    | emptyCommand => [.own "empty command"]
    | noSubresource resource =>
      [.own "resource kind ", .quoted resource, .own " has no exec subresource"]
    | urlTooLong name =>
      [.own "exec request for ", .quoted name,
        .own " rejected: failed to build request: uri too long"]

theorem toList_message (error : RequestError) :
    (ExecError.rejected error).message.toList = Fragment.join error.fragments := by
  have heading : (ExecError.rejected error).message.toList =
      (if error.isSchema then "Schema error: " else "Invalid argument: ").toList ++
        error.message.toList := String.toList_append
  rw [heading]
  unfold message
  cases error with
  | badTarget defect =>
      simp only [fragments, defect.toList_message, Fragment.join, Fragment.text,
        List.flatMap_cons]
  | _ =>
      simp only [fragments, Fragment.join, Fragment.text, String.toList_append,
        List.flatMap_cons, List.flatMap_nil, List.append_nil, List.append_assoc]

end RequestError

/-! ## What can be shown -/

/-- A fragment that holds nothing but what can be seen, whatever was given. -/
inductive Fragment.Harmless : Fragment → Prop
  | own {text : String} (plain : ∀ c ∈ text.toList, Text.IsPlain c) : Harmless (own text)
  | checked {name : String} (label : IsLabel name) : Harmless (bare name)
  | quoted (text : String) : Harmless (quoted text)

theorem Fragment.harmless_own {text : String}
    (plain : text.toList.all (fun c => decide (Text.IsPlain c)) = true) : Harmless (own text) :=
  .own (Text.isPlain_of_all plain)

theorem IsLabel.isPlain {text : String} (label : IsLabel text) :
    ∀ c ∈ text.toList, Text.IsPlain c := by
  have between {low c high : Char} (above : low ≤ c) (below : c ≤ high)
      (plain : Text.IsPlain low) (plain' : Text.IsPlain high) : Text.IsPlain c :=
    ⟨Nat.le_trans plain.1 (UInt32.le_iff_toNat_le.mp above),
      Nat.lt_of_le_of_lt (UInt32.le_iff_toNat_le.mp below) plain'.2⟩
  intro c member
  rcases label.chars c member with ⟨above, below⟩ | ⟨above, below⟩ | rfl
  · exact between above below (by decide) (by decide)
  · exact between above below (by decide) (by decide)
  · decide

theorem Fragment.Harmless.isUnprintable {fragment : Fragment} (harmless : fragment.Harmless)
    {c : Char} (member : c ∈ fragment.text.toList) : Text.isUnprintable c = false := by
  cases harmless with
  | own plain => exact (plain c member).isUnprintable
  | checked label => exact (label.isPlain c member).isUnprintable
  | quoted text => exact Text.isUnprintable_of_mem_quoted member

/-- Of a target without a name everything is harmless but its container. -/
theorem Target.harmless_of_unnamed {target : Target} (nsLabel : IsLabel target.ns)
    (resourceLabel : IsLabel target.resource) (unnamed : target.name = none) {fragment : Fragment}
    (member : fragment ∈ (Defect.noName target).fragments) :
    fragment.Harmless ∨ ∃ container ∈ target.container, fragment = .bare container := by
  have listed : fragment ∈ [.own "no ", .bare target.resource, .own " name given in ",
        .bare target.ns, .own "/", .bare target.resource] ∨
      ∃ container ∈ target.container, fragment ∈ [.own "[", .bare container, .own "]"] := by
    simpa [Defect.fragments, fragments, unnamed, or_assoc] using member
  simp only [List.mem_cons, List.not_mem_nil, or_false] at listed
  rcases listed with (rfl | rfl | rfl | rfl | rfl | rfl) | ⟨container, given, rfl | rfl | rfl⟩
  · exact .inl (Fragment.harmless_own (by decide))
  · exact .inl (.checked resourceLabel)
  · exact .inl (Fragment.harmless_own (by decide))
  · exact .inl (.checked nsLabel)
  · exact .inl (Fragment.harmless_own (by decide))
  · exact .inl (.checked resourceLabel)
  · exact .inl (Fragment.harmless_own (by decide))
  · exact .inr ⟨container, given, rfl⟩
  · exact .inl (Fragment.harmless_own (by decide))

theorem RequestError.harmless_heading (error : RequestError) : Fragment.Harmless
    (.own (if error.isSchema then "Schema error: " else "Invalid argument: ")) := by
  split <;> exact Fragment.harmless_own (by decide)

/-- Other messages are harmless throughout. -/
theorem RequestError.harmless_of_ne_noName {error : RequestError}
    (other : ∀ target, error ≠ .badTarget (.noName target)) :
    ∀ fragment ∈ error.fragments, fragment.Harmless := by
  have one {first : Fragment} (harmless : first.Harmless) :
      ∀ fragment ∈ [first], fragment.Harmless := List.forall_mem_singleton.mpr harmless
  have more {first : Fragment} {rest : List Fragment} (harmless : first.Harmless)
      (later : ∀ fragment ∈ rest, fragment.Harmless) :
      ∀ fragment ∈ first :: rest, fragment.Harmless := List.forall_mem_cons.mpr ⟨harmless, later⟩
  cases error with
  | badTarget defect =>
      cases defect with
      | noName target => exact absurd rfl (other target)
      | badNamespace text | badResource text | badName text | badContainer text =>
          exact more (harmless_heading _)
            (more (Fragment.harmless_own (by decide)) (one (.quoted text)))
  | emptyCommand => exact more (harmless_heading _) (one (Fragment.harmless_own (by decide)))
  | noSubresource text | urlTooLong text =>
      exact more (harmless_heading _)
        (more (Fragment.harmless_own (by decide))
          (more (.quoted text) (one (Fragment.harmless_own (by decide)))))

namespace Request

variable {target : Target} {command : List String} {stdin : Bool} {error : RequestError}

theorem build_of_validate {defect : Target.Defect} (refused : target.validate = .error defect) :
    build target command stdin = .error (.badTarget defect) := by
  unfold build
  rw [refused]

theorem validate_of_build {defect : Target.Defect}
    (refused : build target command stdin = .error (.badTarget defect)) :
    target.validate = .error defect := by
  unfold build at refused
  cases checked : target.validate with
  | error other =>
      rw [checked] at refused
      cases refused
      rfl
  | ok name =>
      rw [checked] at refused
      dsimp only at refused
      split at refused
      · cases refused
      · split at refused
        · cases refused
        · split at refused <;> cases refused

/-- How the refusal of a request for a target is told. -/
structure Shown (target : Target) (error : RequestError) : Prop where
  told : (ExecError.rejected error).message.toList = Fragment.join error.fragments
  /-- What is not harmless is the container of a target without a name. -/
  fragments : ∀ fragment ∈ error.fragments, fragment.Harmless ∨
    error = .badTarget (.noName target) ∧ ∃ container ∈ target.container,
      fragment = .bare container
  unnamed : error = .badTarget (.noName target) ↔
    IsLabel target.ns ∧ IsLabel target.resource ∧ target.name = none
  /-- Controls, and all other characters that cannot be seen, come from there and nowhere else. -/
  unseen : ∀ c, Text.IsControl c ∨ Text.isUnprintable c = true →
    (c ∈ (ExecError.rejected error).message.toList ↔
      error = .badTarget (.noName target) ∧ ∃ container ∈ target.container, c ∈ container.toList)

theorem fragments_of_refused (refused : build target command stdin = .error error) :
    ∀ fragment ∈ error.fragments, fragment.Harmless ∨
      error = .badTarget (.noName target) ∧ ∃ container ∈ target.container,
        fragment = .bare container := by
  intro fragment member
  by_cases unnamed : ∃ other, error = .badTarget (.noName other)
  · rcases unnamed with ⟨other, rfl⟩
    rcases Target.validate_eq_noName_iff.mp (validate_of_build refused) with
      ⟨rfl, nsLabel, resourceLabel, unnamed⟩
    rcases List.mem_cons.mp member with rfl | later
    · exact .inl (RequestError.harmless_heading _)
    · exact (Target.harmless_of_unnamed nsLabel resourceLabel unnamed later).imp_right fun raw =>
        ⟨rfl, raw⟩
  · exact .inl (RequestError.harmless_of_ne_noName (not_exists.mp unnamed) fragment member)

theorem refusal_shown (refused : build target command stdin = .error error) :
    Shown target error where
  told := error.toList_message
  fragments := fragments_of_refused refused
  unnamed := by
    constructor
    · rintro rfl
      exact (Target.validate_eq_noName_iff.mp (validate_of_build refused)).2
    · intro labels
      have blamed := Target.validate_eq_noName_iff.mpr ⟨rfl, labels⟩
      exact Except.error.inj (refused.symm.trans (build_of_validate blamed))
  unseen := by
    intro c hidden
    have unprintable : Text.isUnprintable c = true := hidden.elim (·.isUnprintable) id
    rw [error.toList_message, Fragment.join, List.mem_flatMap]
    constructor
    · rintro ⟨fragment, member, here⟩
      rcases fragments_of_refused refused fragment member with
        harmless | ⟨unnamed, container, given, rfl⟩
      · rw [harmless.isUnprintable here] at unprintable
        cases unprintable
      · exact ⟨unnamed, container, given, here⟩
    · rintro ⟨rfl, container, given, here⟩
      refine ⟨.bare container, ?_, here⟩
      have shown : Fragment.bare container ∈ target.fragments := by
        simp [Target.fragments, Option.mem_def.mp given]
      exact List.mem_cons_of_mem _ (List.mem_append_right _ shown)

/-- A name that would begin a line of its own is shown in quotes. -/
theorem hostile_name_shown :
    let target : Target := ⟨"default", "pods", some "web\nERROR", none⟩
    build target ["ls"] false = .error (.badTarget (.badName "web\nERROR")) ∧
      Shown target (.badTarget (.badName "web\nERROR")) ∧
      (ExecError.rejected (.badTarget (.badName "web\nERROR"))).message =
        "Invalid argument: invalid name \"web\\nERROR\"" :=
  have refused : build ⟨"default", "pods", some "web\nERROR", none⟩ ["ls"] false =
      .error (.badTarget (.badName "web\nERROR")) := by decide +kernel
  ⟨refused, refusal_shown refused, by decide +kernel⟩

/-- A container that nobody has looked at begins a line of its own. -/
theorem container_shown_raw :
    let target : Target := ⟨"default", "pods", none, some "app]\nERROR"⟩
    build target ["ls"] false = .error (.badTarget (.noName target)) ∧ Text.IsControl '\n' ∧
      '\n' ∈ (ExecError.rejected (.badTarget (.noName target))).message.toList := by
  decide +kernel

end Request

end PodCommand
