import PodCommand.Text.Digits

namespace PodCommand
namespace Json

/-!
Written JSON for people to read: two spaces of indentation for each level, one member or element a
line, and `[]` for an empty array.  Every character but the quote, the backslash and the controls
below U+0020 stands for itself.
-/

/-- A character as it is written in a string. -/
def escapeChar (c : Char) : List Char :=
  if c = '"' then ['\\', '"']
  else if c = '\\' then ['\\', '\\']
  else if c = '\x08' then ['\\', 'b']
  else if c = '\t' then ['\\', 't']
  else if c = '\n' then ['\\', 'n']
  else if c = '\x0c' then ['\\', 'f']
  else if c = '\r' then ['\\', 'r']
  else if c.toNat < 0x20 then ['\\', 'u'] ++ Text.padLeft 4 (Text.hexNumeral c.toNat)
  else [c]

/-- A string as it is written. -/
def writeString (text : List Char) : List Char :=
  '"' :: (text.flatMap escapeChar ++ ['"'])

/-- The line break and the indentation before an item at a level. -/
def lineAt (level : Nat) : List Char :=
  '\n' :: List.replicate (2 * level) ' '

/-- Written items, each on a line of its own, between brackets. -/
def writeItems (opening closing : Char) (level : Nat) (items : List (List Char)) : List Char :=
  match items with
  | [] => [opening, closing]
  | first :: rest =>
    opening :: (lineAt (level + 1) ++ first ++
      rest.flatMap (fun item => ',' :: (lineAt (level + 1) ++ item)) ++
      (lineAt level ++ [closing]))

/-- An array of strings as it is written at a level. -/
def writeStrings (level : Nat) (texts : List (List Char)) : List Char :=
  writeItems '[' ']' level (texts.map writeString)

/-- A member of an object, given the text of its value. -/
def writeMember (key : String) (value : List Char) : List Char :=
  writeString key.toList ++ ':' :: ' ' :: value

/-- `null`, or the text of a value. -/
def writeOptional {α : Type} (write : α → List Char) : Option α → List Char
  | none => ['n', 'u', 'l', 'l']
  | some value => write value

/-- An object whose members have been written. -/
def writeObject (level : Nat) (members : List (List Char)) : List Char :=
  writeItems '\x7b' '\x7d' level members

end Json
end PodCommand
