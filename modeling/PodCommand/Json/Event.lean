import PodCommand.Json.Number

namespace PodCommand
namespace Json

/-!
A JSON text as a sequence of events.

`scan` goes through a text once, from its front, and reports what it meets up to the end of the
text or to the first place where it is no JSON.  A reader that knows what it expects follows the
events and stops at the first one that does not fit; so of two problems in a text the earlier one
is reported, whichever of the two kinds it is.  Nesting is kept on a list, so it may be of any
depth.
-/

/-- What is wrong with a text. -/
inductive Problem
  /-- It ends too early. -/
  | ended
  /-- It is not JSON. -/
  | malformed
  /-- It is JSON so far, but not what is wanted. -/
  | mismatched
  deriving DecidableEq, Repr

/-- A part of a string: a character, or a surrogate that an escape names. -/
inductive StringPart
  | character (c : Char)
  | surrogate (unit : Nat)
  deriving DecidableEq, Repr

/-- Whether a unit of UTF-16 is the first of a pair. -/
def isLeading (unit : Nat) : Bool := 0xD800 ≤ unit && unit < 0xDC00

/-- Whether a unit of UTF-16 is the second of a pair. -/
def isTrailing (unit : Nat) : Bool := 0xDC00 ≤ unit && unit < 0xE000

/-- The character that two surrogates stand for. -/
def pairedChar (leading trailing : Nat) : Char :=
  Char.ofNat (0x10000 + (leading - 0xD800) * 0x400 + (trailing - 0xDC00))

/-- The text of a string; none if a surrogate has no partner. -/
def joinParts (parts : List StringPart) : Option (List Char) :=
  go parts []
where
  /-- Collects the characters in reverse. -/
  go : List StringPart → List Char → Option (List Char)
    | [], seen => some seen.reverse
    | .character c :: rest, seen => go rest (c :: seen)
    | .surrogate leading :: .surrogate trailing :: rest, seen =>
      if isLeading leading && isTrailing trailing then go rest (pairedChar leading trailing :: seen)
      else none
    | .surrogate _ :: _, _ => none

/-- Whether some surrogate is already known to have no partner when no more than these parts have
been read: a leading one at the end may still find it. -/
def isUnpairedSoFar (parts : List StringPart) : Bool :=
  match parts.reverse with
  | .surrogate unit :: before =>
    if isLeading unit then (joinParts before.reverse).isNone else (joinParts parts).isNone
  | _ => (joinParts parts).isNone

/-- A step in the reading of a text. -/
inductive Event
  | null
  | bool (value : Bool)
  | number (value : Number)
  /-- A number that the end of the text cuts off. -/
  | cutNumber
  /-- A string; no text if one of its surrogates has no partner. -/
  | string (text : Option (List Char))
  | key (text : Option (List Char))
  | beginArray
  | endArray
  | beginObject
  | endObject
  /-- Another element or member is to follow. -/
  | comma
  deriving DecidableEq, Repr

/-- The events of a text, and the problem that ended the reading if one did. -/
structure Transcript where
  events : List Event
  problem : Option Problem
  deriving Repr

/-- White space between tokens. -/
def isBlank (c : Char) : Bool :=
  c = ' ' || c = '\t' || c = '\n' || c = '\r'

/-- What the front of a text is, read as the rest of a string. -/
inductive StringScan
  | closed (parts : List StringPart) (rest : List Char)
  | broken (parts : List StringPart) (problem : Problem)

/-- The part that four hexadecimal digits name. -/
def escapedUnit? (a b c d : Char) : Option StringPart :=
  (Text.natural? 16 [a, b, c, d]).map fun unit =>
    if isLeading unit || isTrailing unit then .surrogate unit else .character (Char.ofNat unit)

/-- The character that a one-letter escape names. -/
def escapedChar? : Char → Option Char
  | '"' => some '"'
  | '\\' => some '\\'
  | '/' => some '/'
  | 'b' => some '\x08'
  | 'f' => some '\x0c'
  | 'n' => some '\n'
  | 'r' => some '\r'
  | 't' => some '\t'
  | _ => none

/-- Whether a text has no room for the four octets of an escaped unit. -/
def endsInUnit (text : List Char) : Bool :=
  (String.ofList (text.take 4)).utf8ByteSize < 4

/-- Reads a string whose opening quote has been read; parts are collected in reverse. -/
def scanString (seen : List StringPart) : List Char → StringScan
  | [] => .broken seen.reverse .ended
  | '"' :: rest => .closed seen.reverse rest
  | ['\\'] => .broken seen.reverse .ended
  | '\\' :: 'u' :: a :: b :: c :: d :: rest =>
    match escapedUnit? a b c d with
    | some part => scanString (part :: seen) rest
    | none =>
      .broken seen.reverse (if endsInUnit (a :: b :: c :: d :: rest) then .ended else .malformed)
  | '\\' :: 'u' :: short => .broken seen.reverse (if endsInUnit short then .ended else .malformed)
  | '\\' :: escape :: rest =>
    match escapedChar? escape with
    | some c => scanString (.character c :: seen) rest
    | none => .broken seen.reverse .malformed
  | c :: rest =>
    if c.toNat < 0x20 then .broken seen.reverse .malformed
    else scanString (.character c :: seen) rest

/-- What encloses the place where the reading is. -/
inductive Container
  | array
  | object
  deriving DecidableEq, Repr

/-- What the grammar admits at the place where the reading is. -/
inductive Expectation
  | value
  | firstElement
  | firstKey
  | key
  | colon
  /-- A value has just ended. -/
  | afterValue
  deriving DecidableEq, Repr

/-- Compares the front of a text with the rest of a literal. -/
def scanLiteral : List Char → List Char → Except Problem (List Char)
  | [], rest => .ok rest
  | _ :: _, [] => .error .ended
  | wanted :: more, c :: rest => if wanted = c then scanLiteral more rest else .error .malformed

/-- The problem of a text that ends or goes on where it must not. -/
def unexpected (text : List Char) : Problem :=
  if text.isEmpty then .ended else .malformed

/-- Goes through a text; the events are collected in reverse. -/
def scanFrom (fuel : Nat) (expected : Expectation) (stack : List Container) (seen : List Event)
    (text : List Char) : Transcript :=
  let stop (seen : List Event) (problem : Problem) : Transcript := ⟨seen.reverse, some problem⟩
  match fuel with
  | 0 => stop seen .malformed
  | fuel + 1 =>
    let text := text.dropWhile isBlank
    let literal (wanted : List Char) (event : Event) (rest : List Char) : Transcript :=
      match scanLiteral wanted rest with
      | .ok rest => scanFrom fuel .afterValue stack (event :: seen) rest
      | .error problem => stop seen problem
    let value (text : List Char) : Transcript :=
      match text with
      | [] => stop seen .ended
      | 'n' :: rest => literal ['u', 'l', 'l'] .null rest
      | 't' :: rest => literal ['r', 'u', 'e'] (.bool true) rest
      | 'f' :: rest => literal ['a', 'l', 's', 'e'] (.bool false) rest
      | '"' :: rest =>
        match scanString [] rest with
        | .closed parts rest =>
          scanFrom fuel .afterValue stack (.string (joinParts parts) :: seen) rest
        | .broken parts problem =>
          stop (if isUnpairedSoFar parts then .string none :: seen else seen) problem
      | '[' :: rest => scanFrom fuel .firstElement (.array :: stack) (.beginArray :: seen) rest
      | '\x7b' :: rest => scanFrom fuel .firstKey (.object :: stack) (.beginObject :: seen) rest
      | c :: _ =>
        if c = '-' || c.isDigit then
          match Number.scan text with
          | .number number rest => scanFrom fuel .afterValue stack (.number number :: seen) rest
          | .cut => stop (.cutNumber :: seen) .malformed
          | .malformed => stop seen .malformed
        else stop seen .malformed
    let key (rest : List Char) : Transcript :=
      match scanString [] rest with
      | .closed parts rest => scanFrom fuel .colon stack (.key (joinParts parts) :: seen) rest
      | .broken parts problem =>
        stop (if isUnpairedSoFar parts then .key none :: seen else seen) problem
    match expected, stack, text with
    | .value, _, text => value text
    | .firstElement, .array :: outer, ']' :: rest =>
      scanFrom fuel .afterValue outer (.endArray :: seen) rest
    | .firstElement, _, text => value text
    | .firstKey, .object :: outer, '\x7d' :: rest =>
      scanFrom fuel .afterValue outer (.endObject :: seen) rest
    | .firstKey, _, '"' :: rest => key rest
    | .key, _, '"' :: rest => key rest
    | .colon, _, ':' :: rest => scanFrom fuel .value stack seen rest
    | .afterValue, [], [] => ⟨seen.reverse, none⟩
    | .afterValue, [], _ :: _ => stop seen .malformed
    | .afterValue, .array :: _, ',' :: rest => scanFrom fuel .value stack (.comma :: seen) rest
    | .afterValue, .array :: outer, ']' :: rest =>
      scanFrom fuel .afterValue outer (.endArray :: seen) rest
    | .afterValue, .object :: _, ',' :: rest => scanFrom fuel .key stack (.comma :: seen) rest
    | .afterValue, .object :: outer, '\x7d' :: rest =>
      scanFrom fuel .afterValue outer (.endObject :: seen) rest
    | _, _, text => stop seen (unexpected text)

/-- The events of a text.  Every event takes at least one character, so the fuel suffices. -/
def scan (text : List Char) : Transcript :=
  scanFrom (2 * text.length + 2) .value [] [] text

end Json
end PodCommand
