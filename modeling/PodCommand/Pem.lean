import PodCommand.Text.Base64.Defect
import PodCommand.Text.Blank
import PodCommand.Text.Utf8.Defect

namespace PodCommand
namespace Pem

/-!
Octets in textual armour (PEM).  A block begins and ends with a line that names its kind; between
them stand headers, if any, an empty line after them, and the octets in base 64.  What stands
outside blocks is passed over, and so is a block that is not complete.
-/

/-- A block of armoured octets. -/
structure Block where
  label : String
  content : Bytes
  deriving DecidableEq, Repr

/-- The octets of an ASCII text. -/
def ascii (text : String) : Bytes := Text.Utf8.encode text.toList

/-- The octets before the first occurrence of a pattern, in reverse, and those after it. -/
def cutFrom (pattern : Bytes) (seen : Bytes) : Bytes → Option (Bytes × Bytes)
  | [] => if pattern.isEmpty then some (seen, []) else none
  | b :: rest =>
    if pattern.isPrefixOf (b :: rest) then some (seen, (b :: rest).drop pattern.length)
    else cutFrom pattern (b :: seen) rest

/-- The octets before the first occurrence of a pattern, and those after it. -/
def cut (pattern : String) (bytes : Bytes) : Option (Bytes × Bytes) :=
  (cutFrom (ascii pattern) [] bytes).map fun (before, after) => (before.reverse, after)

/-- The octets without the blanks and line breaks at their front. -/
def skipBlank (bytes : Bytes) : Bytes :=
  bytes.dropWhile fun b => b = 0x20 || b = 0x09 || b = 0x0A || b = 0x0D

/-- The parts of the next block. -/
structure Parts where
  opening : Bytes
  headers : Bytes
  body : Bytes
  closing : Bytes

/-- Finds the next block; gives also the octets after it. -/
def nextParts (bytes : Bytes) : Option (Parts × Bytes) := do
  let (_, rest) ← cut "-----BEGIN " bytes
  let (opening, rest) ← cut "-----" rest
  let (inside, rest) ← cut "-----END " (skipBlank rest)
  let (closing, rest) ← cut "-----" rest
  let (headers, body) :=
    ((cut "\n\n" inside) <|> (cut "\r\n\r\n" inside)).getD ([], inside)
  return (⟨opening, headers, body, closing⟩, skipBlank rest)

/-- The lines of a text, without what ends them; both lines and characters are collected in
reverse. -/
def linesFrom (done : List (List Char)) (line : List Char) : List Char → List (List Char)
  | [] => (if line.isEmpty then done else line.reverse :: done).reverse
  | '\r' :: '\n' :: rest => linesFrom (line.reverse :: done) [] rest
  | '\n' :: rest => linesFrom (line.reverse :: done) [] rest
  | c :: rest => linesFrom done (c :: line) rest

/-- The lines of a text, without what ends them. -/
def lines (text : List Char) : List (List Char) := linesFrom [] [] text

/-- What is wrong with a block. -/
inductive Defect
  | noOpening
  | noClosing
  | mismatch (opening closing : String)
  | badContent (defect : Text.Base64.Defect)
  | badHeader (line : String)
  | notText (defect : Text.Utf8.Defect)
  deriving DecidableEq, Repr

/-- The defect in words. -/
def Defect.message : Defect → String
  | noOpening => "missing BEGIN tag"
  | noClosing => "missing END tag"
  | mismatch opening closing =>
    "mismatching BEGIN (\"" ++ opening ++ "\") and END (\"" ++ closing ++ "\") tags"
  | badContent defect => "invalid data: " ++ defect.message
  | badHeader line => "invalid header: " ++ line
  | notText defect => "invalid utf-8 value: " ++ defect.message

/-- The text of octets. -/
def readText (bytes : Bytes) : Except Defect (List Char) :=
  (Text.Utf8.read bytes).mapError .notText

/-- The block that parts make up. -/
def readBlock (parts : Parts) : Except Defect Block := do
  let opening ← readText parts.opening
  if opening.isEmpty then throw .noOpening
  let closing ← readText parts.closing
  if closing.isEmpty then throw .noClosing
  if opening ≠ closing then throw (.mismatch (String.ofList opening) (String.ofList closing))
  let body := (lines (← readText parts.body)).flatMap Text.trimEnd
  let some content := Text.Base64.decode? body | throw (.badContent (.ofText body))
  match (lines (← readText parts.headers)).find? (fun line => !line.contains ':') with
  | some line => throw (.badHeader (String.ofList line))
  | none => return ⟨String.ofList opening, content⟩

/-- The blocks of armoured octets; the fuel bounds their number. -/
def readBlocks (fuel : Nat) (bytes : Bytes) : Except Defect (List Block) :=
  match fuel with
  | 0 => .ok []
  | fuel + 1 =>
    match nextParts bytes with
    | none => .ok []
    | some (parts, rest) => do
      let block ← readBlock parts
      let others ← readBlocks fuel rest
      return block :: others

/-- The label of certificates. -/
def certificateLabel : String := "CERTIFICATE"

/-- The contents of the certificate blocks of armoured octets. -/
def certificates (bytes : Bytes) : Except Defect (List Bytes) := do
  let blocks ← readBlocks (bytes.length + 1) bytes
  return (blocks.filter (·.label == certificateLabel)).map (·.content)

/-- The octets with their last line ended. -/
def endLine (bytes : Bytes) : Bytes :=
  if bytes.getLast?.any (· ≠ 0x0A) then bytes ++ [0x0A] else bytes

end Pem
end PodCommand
