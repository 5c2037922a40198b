import PodCommand.Target.Name
import PodCommand.Text.Quoted

namespace PodCommand

/-- What a command is to be run in. -/
structure Target where
  /-- The namespace of the object. -/
  ns : String
  /-- The kind of the object, in the plural. -/
  resource : String
  name : Option String
  container : Option String
  deriving DecidableEq, Repr, Inhabited

namespace Target

/-!
The target of a command and its check.  A target is checked field by field, and the first field
that does not hold a proper name is the one that is blamed.
-/

/-- A named pod. -/
def pod (ns name : String) : Target := ⟨ns, "pods", some name, none⟩

/-- The target as logs and messages show it: `namespace/resource/name[container]`. -/
def display (target : Target) : String :=
  target.ns ++ "/" ++ target.resource ++
    (match target.name with
      | some name => "/" ++ name
      | none => "") ++
    (match target.container with
      | some container => "[" ++ container ++ "]"
      | none => "")

/-- What is wrong with a target. -/
inductive Defect
  | badNamespace (ns : String)
  | badResource (resource : String)
  | noName (target : Target)
  | badName (name : String)
  | badContainer (container : String)
  deriving DecidableEq, Repr

/-- The defect in words. -/
def Defect.message : Defect → String
  | badNamespace ns => "invalid namespace " ++ Text.quoted ns
  | badResource resource => "invalid resource kind " ++ Text.quoted resource
  | noName target => "no " ++ target.resource ++ " name given in " ++ target.display
  | badName name => "invalid name " ++ Text.quoted name
  | badContainer container => "invalid container " ++ Text.quoted container

/-- Checks that a target names a single object and gives the object's name. -/
def validate (target : Target) : Except Defect String :=
  if !isLabel target.ns.toList then .error (.badNamespace target.ns)
  else if !isLabel target.resource.toList then .error (.badResource target.resource)
  else
    match target.name with
    | none => .error (.noName target)
    | some name =>
      if !isSubdomain name.toList then .error (.badName name)
      else
        match target.container with
        | none => .ok name
        | some container =>
          if isLabel container.toList then .ok name else .error (.badContainer container)

end Target
end PodCommand
