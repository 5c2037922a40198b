import PodCommand.Request
import PodCommand.Uri

namespace PodCommand

/-- The streams of a command that a request asks for, and the container to run it in. -/
structure Attachment where
  stdin : Bool
  stdout : Bool
  stderr : Bool
  /-- Whether the command is to run on a terminal. -/
  terminal : Bool
  container : Option String
  deriving DecidableEq, Repr

namespace Attachment

/-- What no server can attach. -/
inductive Defect
  | noStream
  /-- A terminal has one stream of output, so errors cannot be told apart on it. -/
  | errorsOnTerminal
  deriving DecidableEq, Repr

def defect? (attachment : Attachment) : Option Defect :=
  if !attachment.stdin && !attachment.stdout && !attachment.stderr then some .noStream
  else if attachment.stderr && attachment.terminal then some .errorsOnTerminal
  else none

/-- The query of a request, whichever streams it asks for. -/
def pairs (attachment : Attachment) (command : List String) : List (String × String) :=
  let flag (name : String) (given : Bool) := if given then [(name, "true")] else []
  flag "stdin" attachment.stdin ++ flag "stdout" attachment.stdout ++
    flag "stderr" attachment.stderr ++ flag "tty" attachment.terminal ++
    attachment.container.toList.map (fun container => ("container", container)) ++
    command.map (fun word => ("command", word))

end Attachment

namespace Request

/-!
How a request line is put together from any name, any words and any attachment, with every way in
which that can be refused.  Building a request for a checked target is a case of it, in which all
but one of the refusals are out of reach.
-/

/-- Why no request line can be put together. -/
inductive Refusal
  | noName
  | badAttachment (defect : Attachment.Defect)
  | badUri (defect : Uri.Defect)
  deriving DecidableEq, Repr

/-- Puts the URL together to run a command in an object of a collection, reads it as an identifier
and gives the identifier's text. -/
def assemble (collection name : String) (command : List String) (attachment : Attachment) :
    Except Refusal String :=
  if name.isEmpty then .error .noName
  else
    match attachment.defect? with
    | some defect => .error (.badAttachment defect)
    | none =>
      match Uri.read (execUrl collection name (attachment.pairs command)) with
      | .error defect => .error (.badUri defect)
      | .ok uri => .ok uri.text

/-- The attachment of every request: output and error output always, input on demand, never a
terminal. -/
def attachment (stdin : Bool) (container : Option String) : Attachment :=
  ⟨stdin, true, true, false, container⟩

/-- What a request asks to be attached. -/
def attached (request : Request) : Attachment := attachment request.stdin request.container

end Request
end PodCommand
