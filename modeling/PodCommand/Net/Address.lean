import PodCommand.Text.Digits
import PodCommand.Text.Pieces

namespace PodCommand
namespace Net

/-!
Internet addresses and their text.  An address of version 6 has one normal text: groups without
leading zeros in lower case, the first of the longest runs of at least two zero groups left out, and
the last four octets in decimal where the address maps one of version 4.
-/

/-- An internet address. -/
inductive Address
  /-- Four octets. -/
  | v4 (octets : List Nat)
  /-- Eight groups of 16 bits. -/
  | v6 (groups : List Nat)
  deriving DecidableEq, Repr

/-- Reads an octet in decimal, without a leading zero. -/
def octet? (text : List Char) : Option Nat :=
  if 3 < text.length || (1 < text.length && text.head? == some '0') then none
  else (Text.natural? 10 text).filter (· < 256)

/-- Reads four octets separated by dots. -/
def octets? (text : List Char) : Option (List Nat) :=
  let pieces := Text.pieces '.' text
  if pieces.length = 4 then pieces.mapM octet? else none

/-- Reads a group of at most four hexadecimal digits. -/
def group? (text : List Char) : Option Nat :=
  if 4 < text.length then none else Text.natural? 16 text

/-- Reads groups separated by colons; the last two may be written as four octets. -/
def groups? (pieces : List (List Char)) : Option (List Nat) :=
  match pieces with
  | [] => some []
  | [last] =>
    if last.contains '.' then
      (octets? last).map fun octets =>
        match octets with
        | [a, b, c, d] => [a * 256 + b, c * 256 + d]
        | _ => []
    else (group? last).map fun n => [n]
  | piece :: rest => do
    let group ← group? piece
    let others ← groups? rest
    return group :: others

/-- The pieces of a text between colons; none at all for an empty text. -/
def colonPieces (text : List Char) : List (List Char) :=
  if text.isEmpty then [] else Text.pieces ':' text

/-- The text before the first pair of colons and the text after it. -/
def cutGap (seen : List Char) : List Char → Option (List Char × List Char)
  | ':' :: ':' :: rest => some (seen.reverse, rest)
  | c :: rest => cutGap (c :: seen) rest
  | [] => none

/-- Reads an address of version 6. -/
def v6? (text : List Char) : Option (List Nat) :=
  match cutGap [] text with
  | none => do
    let groups ← groups? (colonPieces text)
    if groups.length = 8 then return groups else none
  | some (before, after) => do
    if before.contains '.' then none
    let left ← groups? (colonPieces before)
    let right ← groups? (colonPieces after)
    if left.length + right.length ≤ 7 then
      return left ++ List.replicate (8 - left.length - right.length) 0 ++ right
    else none

/-- Reads an address. -/
def address? (text : String) : Option Address :=
  match octets? text.toList with
  | some octets => some (.v4 octets)
  | none => (v6? text.toList).map .v6

/-- The text of four octets. -/
def octetsText (octets : List Nat) : String :=
  ".".intercalate (octets.map toString)

/-- The text of groups, separated by colons. -/
def groupsText (groups : List Nat) : String :=
  ":".intercalate (groups.map fun n => String.ofList (Text.hexNumeral n))

/-- How many zero groups stand at the front. -/
def zeroRun (groups : List Nat) : Nat := (groups.takeWhile (· = 0)).length

/-- The place and length of the first of the longest runs of zero groups. -/
def longestZeroRun (groups : List Nat) : Nat × Nat :=
  (List.range groups.length).foldl (fun (best : Nat × Nat) place =>
    let run := zeroRun (groups.drop place)
    if best.2 < run then (place, run) else best) (0, 0)

/-- The text of eight groups. -/
def v6Text (groups : List Nat) : String :=
  match groups with
  | [0, 0, 0, 0, 0, 0xFFFF, high, low] =>
    "::ffff:" ++ octetsText [high / 256, high % 256, low / 256, low % 256]
  | groups =>
    let (place, run) := longestZeroRun groups
    if run < 2 then groupsText groups
    else groupsText (groups.take place) ++ "::" ++ groupsText (groups.drop (place + run))

/-- The text of an address, as it stands in the place of a host. -/
def Address.hostText : Address → String
  | v4 octets => octetsText octets
  | v6 groups => "[" ++ v6Text groups ++ "]"

/-- A character of a label in the name of a server. -/
def isServerNameChar (c : Char) : Bool := c.isAlphanum || c = '_' || c = '-'

/-- Whether a text is a label of the name of a server. -/
def isServerLabel (label : List Char) : Bool :=
  !label.isEmpty && label.length ≤ 63 && label.all isServerNameChar &&
    label.head? != some '-' && label.getLast? != some '-'

/-- Whether a text names a server: labels joined by dots, the last not a number, perhaps with a dot
at the end; or an address. -/
def isServerName (text : String) : Bool :=
  let labels := Text.pieces '.' text.toList
  let named := if 1 < labels.length && labels.getLast? == some [] then labels.dropLast else labels
  let numeric := labels.getLast?.any fun label => !label.isEmpty && label.all Char.isDigit
  (text.utf8ByteSize ≤ 253 && named.all isServerLabel && !numeric) || (address? text).isSome

end Net
end PodCommand
