import PodCommand.Target
import PodCommand.Text.FormEncoding

namespace PodCommand

/-- Why a command cannot be requested. -/
inductive RequestError
  /-- The target does not name a single object. -/
  | badTarget (defect : Target.Defect)
  /-- There is no command to run. -/
  | emptyCommand
  /-- Commands cannot be run in objects of this kind. -/
  | noSubresource (resource : String)
  /-- The request for the named object would not fit a request line. -/
  | urlTooLong (name : String)
  deriving DecidableEq, Repr

namespace RequestError

/-- Whether the request breaks the rules of the cluster's interface, rather than being no proper
request in the first place. -/
def isSchema : RequestError → Bool
  | noSubresource _ | urlTooLong _ => true
  | _ => false

/-- What the builder of the request line says, where it is the one to refuse. -/
def cause? : RequestError → Option String
  | urlTooLong _ => some "failed to build request: uri too long"
  | _ => none

/-- The refusal in words. -/
def message : RequestError → String
  | badTarget defect => defect.message
  | emptyCommand => "empty command"
  | noSubresource resource =>
    "resource kind " ++ Text.quoted resource ++ " has no exec subresource"
  | urlTooLong name =>
    "exec request for " ++ Text.quoted name ++
      " rejected: failed to build request: uri too long"

end RequestError

/-- A checked request to run a command in a pod. -/
structure Request where
  ns : String
  name : String
  container : Option String
  command : List String
  /-- Whether the command is to be given input. -/
  stdin : Bool
  /-- The path and query, relative to the server. -/
  url : String
  deriving DecidableEq, Repr, Inhabited

namespace Request

/-!
Requests to run a command.  A request is a `GET` of the pod's `exec` subresource whose query says
which streams to attach and, word by word, what to run: output and error output always, input on
demand, never a terminal.
-/

/-- The method of every request. -/
def method : String := "GET"

/-- The longest URL that fits a request line. -/
def maxUrlLength : Nat := 65534

/-- The path of the pods of a namespace. -/
def podsPath (ns : String) : String := "/api/v1/namespaces/" ++ ns ++ "/pods"

/-- A query as names and values, in the order in which they are written. -/
def pairs (stdin : Bool) (container : Option String) (command : List String) :
    List (String × String) :=
  (if stdin then [("stdin", "true")] else []) ++
    [("stdout", "true"), ("stderr", "true")] ++
    container.toList.map (fun container => ("container", container)) ++
    command.map (fun word => ("command", word))

/-- A query as it is written: every pair follows an ampersand. -/
def query (pairs : List (String × String)) : List Char :=
  pairs.flatMap fun pair => '&' :: Text.FormEncoding.encodePair pair

/-- The path and query to run a command in an object of a collection. -/
def execUrl (collection name : String) (pairs : List (String × String)) : String :=
  collection ++ "/" ++ name ++ "/exec" ++ String.ofList ('?' :: query pairs)

/-- The collection that holds the objects of a kind in which commands can be run; a pod has three
names. -/
def collection? (ns resource : String) : Option String :=
  if ["pods", "pod", "po"].contains resource then some (podsPath ns) else none

/-- Builds the request to run a command in a target. -/
def build (target : Target) (command : List String) (stdin : Bool) : Except RequestError Request :=
  match target.validate with
  | .error defect => .error (.badTarget defect)
  | .ok name =>
    if command.isEmpty then .error .emptyCommand
    else
      match collection? target.ns target.resource with
      | none => .error (.noSubresource target.resource)
      | some collection =>
        let url := execUrl collection name (pairs stdin target.container command)
        if url.length ≤ maxUrlLength then
          .ok ⟨target.ns, name, target.container, command, stdin, url⟩
        else .error (.urlTooLong name)

/-- The path and query that a request is sent with: those of its pod. -/
def sentUrl (request : Request) : String :=
  execUrl (podsPath request.ns) request.name
    (pairs request.stdin request.container request.command)

end Request
end PodCommand
