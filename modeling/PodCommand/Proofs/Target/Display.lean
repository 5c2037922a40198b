import PodCommand.Proofs.Target.Name

namespace PodCommand
namespace Target

/-!
What the display of a target tells.

A display is four texts with marks between them, and nothing in the texts is escaped.  It can be
read all the same if the target has passed its check, because names hold neither a slash nor a
bracket: the first bracket begins the container, and the slashes before it are those of the display.
So a log names one target and no other.
-/

/-- The target that a display with a name in it tells. -/
def ofDisplay? (text : String) : Option Target :=
  let (object, bracketed) := Text.cut '[' text.toList
  match Text.pieces '/' object with
  | [ns, resource, name] =>
    let within (container : Option String) : Target :=
      ⟨String.ofList ns, String.ofList resource, some (String.ofList name), container⟩
    match bracketed with
    | none => some (within none)
    | some rest =>
      if rest.getLast? = some ']' then some (within (some (String.ofList rest.dropLast)))
      else none
  | _ => none

/-! ## The parts of a display -/

/-- The object in a display: what stands before the container. -/
def objectText (ns resource name : String) : List Char :=
  ns.toList ++ '/' :: (resource.toList ++ '/' :: name.toList)

/-- The container in a display, in its brackets. -/
def containerText : Option String → List Char
  | none => []
  | some container => '[' :: (container.toList ++ [']'])

theorem toList_display_named (ns resource name : String) (container : Option String) :
    (display ⟨ns, resource, some name, container⟩).toList =
      objectText ns resource name ++ containerText container := by
  have slash : "/".toList = ['/'] := by decide
  have opening : "[".toList = ['['] := by decide
  have closing : "]".toList = [']'] := by decide
  unfold display objectText
  cases container with
  | none => simp [containerText, slash]
  | some container => simp [containerText, slash, opening, closing]

/-- Names hold none of the marks of a display. -/
theorem mark_not_mem_name {name : List Char}
    (proper : isSubdomain name = true ∨ isLabel name = true) {mark : Char}
    (marks : mark = '/' ∨ mark = '[') : mark ∉ name := by
  intro member
  have char : mark = '.' ∨ isLabelChar mark = true := by
    rcases proper with subdomain | label
    · exact isLabelChar_of_isSubdomain subdomain member
    · exact .inr (isLabelChar_of_isLabel label member)
  rcases marks with rfl | rfl
  · exact absurd char (by decide)
  · exact absurd char (by decide)

theorem pieces_objectText {ns resource name : String} (nsLabel : isLabel ns.toList = true)
    (resourceLabel : isLabel resource.toList = true) (subdomain : isSubdomain name.toList = true) :
    Text.pieces '/' (objectText ns resource name) = [ns.toList, resource.toList, name.toList] := by
  rw [objectText, Text.pieces_append_cons (mark_not_mem_name (.inr nsLabel) (.inl rfl)),
    Text.pieces_append_cons (mark_not_mem_name (.inr resourceLabel) (.inl rfl)),
    Text.pieces_of_not_mem (mark_not_mem_name (.inl subdomain) (.inl rfl))]

theorem bracket_not_mem_objectText {ns resource name : String}
    (nsLabel : isLabel ns.toList = true) (resourceLabel : isLabel resource.toList = true)
    (subdomain : isSubdomain name.toList = true) : '[' ∉ objectText ns resource name := by
  simp only [objectText, List.mem_append, List.mem_cons, not_or]
  exact ⟨mark_not_mem_name (.inr nsLabel) (.inr rfl), by decide,
    mark_not_mem_name (.inr resourceLabel) (.inr rfl), by decide,
    mark_not_mem_name (.inl subdomain) (.inr rfl)⟩

/-! ## Reading what has been displayed -/

variable {target other : Target} {name otherName : String}

theorem ofDisplay?_display (valid : target.validate = .ok name) :
    ofDisplay? target.display = some target := by
  rcases target with ⟨ns, resource, given, container⟩
  rcases validate_eq_ok_iff.mp valid with ⟨nsLabel, resourceLabel, rfl, subdomain, _⟩
  have pieces := pieces_objectText nsLabel resourceLabel subdomain
  have absent := bracket_not_mem_objectText nsLabel resourceLabel subdomain
  unfold ofDisplay?
  rw [toList_display_named]
  cases container with
  | none =>
      rw [containerText, List.append_nil, Text.cut_of_not_mem absent]
      simp only [pieces, String.ofList_toList]
  | some container =>
      rw [containerText, Text.cut_append_cons absent]
      simp only [pieces, List.getLast?_concat, List.dropLast_concat, if_true, String.ofList_toList]

/-- What the display of a target tells. -/
structure Identified (target : Target) : Prop where
  /-- The namespace, the kind and the name with slashes between them, and the container, if there
  is one, in brackets. -/
  form : ∃ name, target.name = some name ∧
    target.display = target.ns ++ "/" ++ target.resource ++ "/" ++ name ++
      (match target.container with
        | some container => "[" ++ container ++ "]"
        | none => "")
  read : ofDisplay? target.display = some target
  /-- No other target that passes its check is displayed alike. -/
  own : ∀ other otherName, other.validate = .ok otherName →
    (other.display = target.display ↔ other = target)

theorem identified_by_display (valid : target.validate = .ok name) : Identified target where
  form := by
    rcases target with ⟨ns, resource, given, container⟩
    rcases validate_eq_ok_iff.mp valid with ⟨_, _, rfl, _⟩
    refine ⟨name, rfl, ?_⟩
    cases container <;> simp only [display, String.append_assoc]
  read := ofDisplay?_display valid
  own other otherName otherValid := by
    constructor
    · intro same
      have read := ofDisplay?_display otherValid
      rw [same, ofDisplay?_display valid] at read
      exact (Option.some.inj read).symm
    · rintro rfl
      rfl

/-- A name with dots in it and a container are told apart from one another. -/
theorem database_identified :
    let target : Target := ⟨"default", "pods", some "db-0.db", some "db-1"⟩
    target.validate = .ok "db-0.db" ∧ target.display = "default/pods/db-0.db[db-1]" ∧
      Identified target :=
  have valid : validate ⟨"default", "pods", some "db-0.db", some "db-1"⟩ = .ok "db-0.db" := rfl
  ⟨valid, by decide, identified_by_display valid⟩

end Target
end PodCommand
