import PodCommand.Proofs.Request.Assembly

namespace PodCommand
namespace Request

/-!
Which requests can be built, and what is blamed for those that cannot.

The target is checked first, then the command, then the kind of the object, and last the length of
the URL.  The URL of a checked target is ASCII, so that its length in characters is the one in
octets; and as it is an identifier, and the streams that it asks for can be attached, putting the
request line together refuses nothing that the check of the length does not.
-/

/-- What is required of a target and a command before their URL is looked at. -/
def checks (target : Target) (command : List String) : List (Requirement RequestError) :=
  target.requirements.map (.map .badTarget) ++
    [⟨command ≠ [], .emptyCommand⟩,
      ⟨target.resource ∈ ["pods", "pod", "po"], .noSubresource target.resource⟩]

/-- The request for a target and a command, if nothing is wrong with them. -/
def ordered (target : Target) (command : List String) (stdin : Bool) : Request :=
  let name := target.name.getD ""
  ⟨target.ns, name, target.container, command, stdin,
    execUrl (podsPath target.ns) name (pairs stdin target.container command)⟩

/-- All that is required of a request, in the order in which it is looked at. -/
def requirements (target : Target) (command : List String) (stdin : Bool) :
    List (Requirement RequestError) :=
  checks target command ++
    [⟨(ordered target command stdin).url.utf8ByteSize ≤ 65534,
      .urlTooLong (target.name.getD "")⟩]

/-! ## Building is judging -/

/-- The URL for a target that has passed its check has one octet for every character. -/
theorem utf8ByteSize_url {target : Target} (command : List String) (stdin : Bool)
    (met : ∀ requirement ∈ target.requirements, requirement.met) :
    (ordered target command stdin).url.utf8ByteSize =
      (ordered target command stdin).url.length := by
  have passed := target.validate_judged.ok_of_met met
  rcases Target.validate_eq_ok_iff.mp passed with ⟨nsLabel, _, _, subdomain, _⟩
  exact utf8ByteSize_of_ascii (isAscii_of_isUrl (isUrl_execUrl nsLabel subdomain _))

theorem build_judged (target : Target) (command : List String) (stdin : Bool) :
    Judged (ordered target command stdin) (requirements target command stdin)
      (build target command stdin) := by
  unfold requirements checks
  rw [List.append_assoc]
  have staged : build target command stdin =
      (target.validate.mapError RequestError.badTarget).bind fun name =>
        if command.isEmpty then .error .emptyCommand
        else if ["pods", "pod", "po"].contains target.resource then
          let url := execUrl (podsPath target.ns) name (pairs stdin target.container command)
          if url.length ≤ maxUrlLength then
            .ok ⟨target.ns, name, target.container, command, stdin, url⟩
          else .error (.urlTooLong name)
        else .error (.noSubresource target.resource) := by
    unfold build collection?
    cases target.validate with
    | error defect => rfl
    | ok name => cases ["pods", "pod", "po"].contains target.resource <;> rfl
  rw [staged]
  refine target.validate_judged.bind RequestError.badTarget fun met => ?_
  refine .step (fun unmet => if_pos (by simpa using unmet)) fun given => ?_
  rw [if_neg (by simpa using given)]
  refine .step (fun unmet => if_neg (by simpa using unmet)) fun known => ?_
  rw [if_pos (by simpa using known)]
  have size := utf8ByteSize_url command stdin met
  refine .step (fun unmet => if_neg (size ▸ unmet)) fun short => ?_
  dsimp only
  rw [if_pos (size ▸ short)]
  exact .accepted

/-! ## Putting the request line together -/

theorem head?_url (target : Target) (command : List String) (stdin : Bool) :
    (ordered target command stdin).url.toList.head? = some '/' := by
  unfold ordered
  rw [execUrl_podsPath, toList_podPath]
  rfl

theorem name_ne_empty {name : String} (subdomain : isSubdomain name.toList = true) :
    name ≠ "" := by
  rintro rfl
  exact absurd subdomain (by decide)

/-- For what passes the checks, a request line can be put together exactly if the request can be
built, and is refused for its length otherwise. -/
theorem assemble_of_met {target : Target} {command : List String} (stdin : Bool)
    (met : ∀ check ∈ checks target command, check.met) :
    assemble (podsPath target.ns) (target.name.getD "") command
        (attachment stdin target.container) =
      match build target command stdin with
      | .ok request => .ok request.url
      | .error _ => .error (.badUri .tooLong) := by
  have judged := build_judged target command stdin
  have targetMet : ∀ requirement ∈ target.requirements, requirement.met := fun requirement member =>
    met _ (List.mem_append_left _ (List.mem_map_of_mem member))
  have passed := target.validate_judged.ok_of_met targetMet
  rcases Target.validate_eq_ok_iff.mp passed with ⟨nsLabel, _, _, subdomain, _⟩
  have written : execUrl (podsPath target.ns) (target.name.getD "")
      (pairs stdin target.container command) = (ordered target command stdin).url := rfl
  rw [assemble_attachment (name_ne_empty subdomain), written]
  by_cases short : (ordered target command stdin).url.utf8ByteSize ≤ 65534
  · have all : ∀ requirement ∈ requirements target command stdin, requirement.met := by
      intro requirement member
      rcases List.mem_append.mp member with check | last
      · exact met requirement check
      · rw [List.mem_singleton.mp last]
        exact short
    have legal := isUrl_execUrl nsLabel subdomain (pairs stdin target.container command)
    rcases Uri.exists_read_of_plain (head?_url target command stdin) (plain_of_isUrl legal) short
      with ⟨uri, read, back⟩
    rw [judged.ok_of_met all, read]
    exact congrArg Except.ok back
  · rw [Uri.read_of_long (Nat.lt_of_not_le short)]
    cases built : build target command stdin with
    | error => rfl
    | ok request =>
        have all := (judged.ok_iff.mp built).1
        exact absurd (all _ (List.mem_append_right _ (List.mem_singleton_self _))) short

/-! ## The decision -/

/-- How a request is decided on. -/
structure Decided (target : Target) (command : List String) (stdin : Bool) : Prop where
  accepted : ∀ request, build target command stdin = .ok request ↔
    (∀ requirement ∈ requirements target command stdin, requirement.met) ∧
      request = ordered target command stdin
  /-- An error blames the first requirement that is not met. -/
  refused : ∀ error, build target command stdin = .error error ↔
    ∃ earlier requirement later,
      requirements target command stdin = earlier ++ requirement :: later ∧
        (∀ other ∈ earlier, other.met) ∧ ¬ requirement.met ∧ error = requirement.blame
  /-- What is wrong with the target or the command is a bad argument; the last two errors break the
  rules of the interface, and the last has the refusal of the URL for its cause. -/
  blames : (requirements target command stdin).map
      (fun requirement => (requirement.blame.isSchema, requirement.blame.cause?)) =
    List.replicate 6 (false, none) ++
      [(true, none), (true, some ("failed to build request: " ++ Uri.Defect.tooLong.message))]
  told : ∀ request, build target command stdin = .ok request →
    request.ns = target.ns ∧ some request.name = target.name ∧ request.command = command
  /-- Past the checks, putting the request line together gives the URL of the request or refuses it
  for its length: no other refusal is in reach. -/
  assembled : (∀ check ∈ checks target command, check.met) →
    assemble (podsPath target.ns) (target.name.getD "") command
        (attachment stdin target.container) =
      match build target command stdin with
      | .ok request => .ok request.url
      | .error _ => .error (.badUri .tooLong)

theorem decided_in_order (target : Target) (command : List String) (stdin : Bool) :
    Decided target command stdin where
  accepted _ := (build_judged target command stdin).ok_iff
  refused _ := (build_judged target command stdin).error_iff
  blames := by
    have cause : "failed to build request: " ++ Uri.Defect.tooLong.message =
        "failed to build request: uri too long" := by decide
    rw [cause]
    rfl
  told request built := by
    rcases of_build built with ⟨name, passed, rfl⟩
    exact ⟨rfl, (Target.validate_eq_ok_iff.mp passed).2.2.1.symm, rfl⟩
  assembled := assemble_of_met stdin

/-- The namespace is blamed before the command that is missing. -/
example : build (.pod "Default" "web") [] false = .error (.badTarget (.badNamespace "Default")) :=
  rfl

end Request
end PodCommand
