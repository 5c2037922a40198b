import PodCommand.Decimal
import PodCommand.Yaml.Node

namespace PodCommand
namespace Yaml

/-!
What the nodes of a document stand for.

A plain scalar is a null, a truth value or a number if it is written as one, and text otherwise; a
scalar in quotes is text.  The standard tags override this, and any other tag stays with the value.
Aliases are replaced by what they refer to.
-/

/-- A value. -/
inductive Value
  | null
  | bool (value : Bool)
  | integer (value : Int)
  | decimal (value : Decimal)
  /-- An infinity, or what is not a number. -/
  | infinite (name : String)
  | text (value : String)
  | sequence (items : List Value)
  | mapping (entries : List (Value × Value))
  | tagged (tag : String) (value : Value)
  deriving Repr, Inhabited

namespace Value

mutual

/-- Whether two values are the same; the entries of mappings have an order. -/
def same : Value → Value → Bool
  | null, null => true
  | bool first, bool second => first == second
  | integer first, integer second => first == second
  | decimal first, decimal second => first == second
  | infinite first, infinite second => first == second
  | text first, text second => first == second
  | sequence first, sequence second => sameItems first second
  | mapping first, mapping second => sameEntries first second
  | tagged tag first, tagged tag' second => tag == tag' && same first second
  | _, _ => false
  termination_by structural value => value

/-- Whether two sequences hold the same values. -/
def sameItems : List Value → List Value → Bool
  | [], [] => true
  | first :: rest, second :: others => same first second && sameItems rest others
  | _, _ => false
  termination_by structural items => items

/-- Whether two mappings hold the same entries. -/
def sameEntries : List (Value × Value) → List (Value × Value) → Bool
  | [], [] => true
  | (key, first) :: rest, (key', second) :: others =>
    same key key' && same first second && sameEntries rest others
  | _, _ => false
  termination_by structural entries => entries

end

instance : BEq Value := ⟨same⟩

end Value

/-- Whether a scalar is written as a null. -/
def isNull (text : String) : Bool :=
  ["", "~", "null", "Null", "NULL"].contains text

/-- The truth value that a scalar is written as. -/
def bool? (text : String) : Option Bool :=
  if ["true", "True", "TRUE"].contains text then some true
  else if ["false", "False", "FALSE"].contains text then some false
  else none

/-- Whether a numeral is text for having zeros in front. -/
def hasLeadingZero (text : List Char) : Bool :=
  let digits :=
    match text with
    | '-' :: rest | '+' :: rest => rest
    | rest => rest
  match digits with
  | '0' :: rest => !rest.isEmpty && rest.all Char.isDigit
  | _ => false

/-- The magnitude that a scalar without its sign is written as. -/
def magnitude? (text : List Char) : Option Nat :=
  match text with
  | '0' :: 'x' :: digits => Text.natural? 16 digits
  | '0' :: 'o' :: digits => Text.natural? 8 digits
  | '0' :: 'b' :: digits => Text.natural? 2 digits
  | digits => if hasLeadingZero digits then none else Text.natural? 10 digits

/-- The integer that a scalar is written as. -/
def integer? (text : List Char) : Option Int :=
  match text with
  | '-' :: rest => (magnitude? rest).map fun n => -(n : Int)
  | '+' :: rest => (magnitude? rest).map fun n => (n : Int)
  | rest => (magnitude? rest).map fun n => (n : Int)

/-- Whether an integer has a value: it fits a word of 64 bits. -/
def isWord (n : Int) : Bool := -9223372036854775808 ≤ n && n < 18446744073709551616

/-- Whether an integer fits a word of 128 bits, though not one of 64; such a scalar has no value. -/
def isWideWord (n : Int) : Bool :=
  -(Nat.pow 2 127 : Int) ≤ n && n < (Nat.pow 2 128 : Int) && !isWord n

/-- The digits of a fraction and the rest of a scalar. -/
def fraction (text : List Char) : List Char × List Char :=
  match text with
  | '.' :: rest => (rest.takeWhile Char.isDigit, rest.dropWhile Char.isDigit)
  | rest => ([], rest)

/-- The exponent that is all of a text; nought for an empty one. -/
def exponent? (text : List Char) : Option Int :=
  match text with
  | [] => some 0
  | c :: rest => if c = 'e' || c = 'E' then Text.integer? rest else none

/-- The decimal number that a scalar without its sign is written as. -/
def unsignedDecimal? (negative : Bool) (text : List Char) : Option Decimal :=
  let whole := text.takeWhile Char.isDigit
  let (places, rest) := fraction (text.dropWhile Char.isDigit)
  match Text.natural? 10 (whole ++ places), exponent? rest with
  | some significand, some exponent =>
    let number : Decimal := ⟨negative, significand, exponent - places.length⟩
    if number.isFinite then some (number.trim text.length) else none
  | _, _ => none

/-- The number with a fraction or an exponent, or the infinity, that a scalar is written as. -/
def decimal? (text : List Char) : Option Value :=
  let unsigned :=
    match text with
    | '+' :: rest => rest
    | rest => rest
  let lower := String.ofList unsigned
  if [".inf", ".Inf", ".INF"].contains lower then some (.infinite "inf")
  else if ["-.inf", "-.Inf", "-.INF"].contains (String.ofList text) then some (.infinite "-inf")
  else if [".nan", ".NaN", ".NAN"].contains (String.ofList text) then some (.infinite "nan")
  else
    match text with
    | '-' :: rest => (unsignedDecimal? true rest).map .decimal
    | _ => (unsignedDecimal? false unsigned).map .decimal

/-- The value of a plain scalar without a standard tag. -/
def plainValue (text : List Char) : Option Value :=
  let written := String.ofList text
  if isNull written then some .null
  else
    match bool? written with
    | some value => some (.bool value)
    | none =>
      match integer? text with
      | some n =>
        if isWord n then some (.integer n)
        else if isWideWord n then none
        else some ((decimal? text).getD (.text written))
      | none =>
        if hasLeadingZero text then some (.text written)
        else some ((decimal? text).getD (.text written))

/-- The leader of the standard tags. -/
def standardTag (name : String) : List Char := ("tag:yaml.org,2002:" ++ name).toList

/-- The value of a scalar without a tag of its own. -/
def scalarValue (tag : Option (List Char)) (text : List Char) (plain : Bool) : Option Value :=
  let untagged := if plain then plainValue text else some (.text (String.ofList text))
  match tag with
  | none => untagged
  | some tag =>
    if tag == standardTag "bool" then (bool? (String.ofList text)).map .bool
    else if tag == standardTag "int" then
      ((integer? text).filter isWord).map .integer
    else if tag == standardTag "float" then decimal? text
    else if tag == standardTag "null" then
      if !text.isEmpty && isNull (String.ofList text) then some .null else none
    else some (.text (String.ofList text))

/-- The name of a tag that stays with its value. -/
def ownTag? (tag : Option (List Char)) : Option String :=
  match tag with
  | some ('!' :: name) => some (String.ofList name)
  | _ => none

/-- A value with the tag that stays with it; an empty tag is not admitted. -/
def withTag (tag : Option (List Char)) (value : Value) : Option Value :=
  match ownTag? tag with
  | none => some value
  | some name => if name.isEmpty then none else some (.tagged name value)

namespace Document

/-- The node that a reference refers to, and how many references have been followed in all; none if
too many have. -/
def follow (document : Document) (followed : Nat) : Node → Option (Node × Nat)
  | .alias target =>
    if 100 * document.size < followed + 1 then none
    else
      (document.anchored.find? (·.1 == target)).map fun found => (found.2, followed + 1)
  | node => some (node, followed)

/-- The value of a node.  The first number bounds the depth; the second counts the references that
have been followed. -/
def nodeValue (document : Document) : Nat → Nat → Node → Option (Value × Nat)
  | depth, followed, node =>
    match document.follow followed node with
    | none => none
    | some (.alias _, _) => none
    | some (.scalar tag text plain, followed) =>
      let bare := scalarValue (if (ownTag? tag).isSome then none else tag) text plain
      (bare.bind (withTag tag)).map fun value => (value, followed)
    | some (.sequence tag items, followed) =>
      match depth with
      | 0 => none
      | depth + 1 =>
        let items := items.foldlM (fun (state : List Value × Nat) item => do
          let (value, followed) ← document.nodeValue depth state.2 item
          return (value :: state.1, followed)) ([], followed)
        items.bind fun (items, followed) =>
          (withTag tag (.sequence items.reverse)).map fun value => (value, followed)
    | some (.mapping tag entries, followed) =>
      match depth with
      | 0 => none
      | depth + 1 =>
        let entries := entries.foldlM (fun (state : List (Value × Value) × Nat) entry => do
          let (key, followed) ← document.nodeValue depth state.2 entry.1
          if state.1.any (·.1 == key) then none
          let (value, followed) ← document.nodeValue depth followed entry.2
          return ((key, value) :: state.1, followed)) ([], followed)
        entries.bind fun (entries, followed) =>
          (withTag tag (.mapping entries.reverse)).map fun value => (value, followed)

/-- The value of a document. -/
def value? (document : Document) : Option Value :=
  (document.nodeValue maxDepth 0 document.root).map (·.1)

end Document

/-- The values of the documents of a text.  The list ends with an error where the text is not well
formed or where a document has no value. -/
def values (text : List Char) : List (Except Unit Value) :=
  (documents text).map fun document => document.bind fun document =>
    match document.value? with
    | some value => .ok value
    | none => .error ()

end Yaml
end PodCommand
