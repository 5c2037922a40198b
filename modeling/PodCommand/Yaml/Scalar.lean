import PodCommand.Text.Digits
import PodCommand.Yaml.Cursor

namespace PodCommand
namespace Yaml

/-!
Reading scalars.  A line break within a plain or quoted scalar stands for a space, and a longer run
of breaks for all of them but the first; in a block scalar this holds for the folded style only.
Where no scalar can be read the answer is nothing: the text is not well formed.

Each reader takes the fuel that its caller has left.  It exceeds the number of characters that
follow, and every step takes at least one of them.
-/

/-- White space within a scalar: blanks, or a first break and the breaks after it. -/
structure Spacing where
  blanks : List Char
  first : List Char
  more : List Char
  /-- Whether the line has been broken. -/
  broken : Bool
  deriving Repr

/-- No white space. -/
def Spacing.none : Spacing := ⟨[], [], [], false⟩

/-- What white space within a scalar stands for. -/
def Spacing.text (spacing : Spacing) : List Char :=
  if !spacing.broken then spacing.blanks
  else if spacing.first == ['\n'] then if spacing.more.isEmpty then [' '] else spacing.more
  else spacing.first ++ spacing.more

/-- Reads white space.  Tabs must not make up the indentation of a plain scalar, whose least column
is given. -/
def readSpacing (fuel : Nat) (least : Option Nat) (spacing : Spacing) (cursor : Cursor) :
    Option (Spacing × Cursor) :=
  match fuel with
  | 0 => some (spacing, cursor)
  | fuel + 1 =>
    match cursor.rest with
    | [] => some (spacing, cursor)
    | c :: _ =>
      if isBlank c then
        if spacing.broken then
          if c = '\t' && least.any (cursor.column < ·) then Option.none
          else readSpacing fuel least spacing (cursor.skip 1)
        else readSpacing fuel least { spacing with blanks := spacing.blanks ++ [c] } (cursor.skip 1)
      else if isBreak c then
        let (taken, cursor) := cursor.takeBreak
        if spacing.broken then
          readSpacing fuel least { spacing with more := spacing.more ++ taken } cursor
        else readSpacing fuel least ⟨[], taken, spacing.more, true⟩ cursor
      else some (spacing, cursor)

/-- A character that ends a plain scalar within brackets. -/
def isFlowIndicator (c : Char) : Bool :=
  c = ',' || c = '[' || c = ']' || c = '\x7b' || c = '\x7d'

/-- Reads the characters of a plain scalar up to white space or to what ends it; they are collected
in reverse. -/
def readPlainRun (flow : Bool) (seen : List Char) : List Char → Option (List Char × List Char)
  | [] => some (seen, [])
  | c :: rest =>
    if isBlank c || isBreak c then some (seen, c :: rest)
    else if flow && c = ':' && rest.head?.any (fun next => next = '?' || isFlowIndicator next) then
      none
    else if (c = ':' && atGap rest) || (flow && isFlowIndicator c) then some (seen, c :: rest)
    else readPlainRun flow (c :: seen) rest

/-- Reads a plain scalar; characters are collected in reverse.  Gives also whether the line was
broken after its last character. -/
def readPlain (fuel : Nat) (flow : Bool) (least : Nat) (seen : List Char) (spacing : Spacing)
    (cursor : Cursor) : Option (List Char × Bool × Cursor) :=
  match fuel with
  | 0 => none
  | fuel + 1 =>
    if cursor.atDocumentMark || cursor.rest.head? == some '#' then
      some (seen.reverse, spacing.broken, cursor)
    else
      match readPlainRun flow [] cursor.rest with
      | none => none
      | some (run, _) =>
        let seen := if run.isEmpty then seen else run ++ (spacing.text.reverse ++ seen)
        let broken := if run.isEmpty then spacing.broken else false
        let cursor := cursor.skip run.length
        if cursor.rest.isEmpty || !atGap cursor.rest then some (seen.reverse, broken, cursor)
        else
          let before := if run.isEmpty then spacing else Spacing.none
          match readSpacing fuel (some least) before cursor with
          | none => none
          | some (spacing, cursor) =>
            if !flow && cursor.column < least then some (seen.reverse, spacing.broken, cursor)
            else readPlain fuel flow least seen spacing cursor

/-- Reads a scalar between apostrophes, after the first; an apostrophe within it is written
twice. -/
def readSingleQuoted (fuel : Nat) (seen : List Char) (cursor : Cursor) :
    Option (List Char × Cursor) :=
  match fuel with
  | 0 => none
  | fuel + 1 =>
    if cursor.atDocumentMark then none
    else
      match cursor.rest with
      | [] => none
      | '\'' :: '\'' :: _ => readSingleQuoted fuel ('\'' :: seen) (cursor.skip 2)
      | '\'' :: _ => some (seen.reverse, cursor.skip 1)
      | c :: _ =>
        if isBlank c || isBreak c then
          match readSpacing fuel none Spacing.none cursor with
          | none => none
          | some (spacing, cursor) => readSingleQuoted fuel (spacing.text.reverse ++ seen) cursor
        else readSingleQuoted fuel (c :: seen) (cursor.skip 1)

/-- The character that a one-letter escape names. -/
def escapedChar? : Char → Option Char
  | '0' => some '\x00'
  | 'a' => some '\x07'
  | 'b' => some '\x08'
  | 't' => some '\t'
  | '\t' => some '\t'
  | 'n' => some '\n'
  | 'v' => some '\x0b'
  | 'f' => some '\x0c'
  | 'r' => some '\r'
  | 'e' => some '\x1b'
  | ' ' => some ' '
  | '"' => some '"'
  | '/' => some '/'
  | '\\' => some '\\'
  | 'N' => some '\x85'
  | '_' => some '\xa0'
  | 'L' => some '\u2028'
  | 'P' => some '\u2029'
  | _ => none

/-- How many hexadecimal digits follow an escape that names a code point. -/
def escapedDigits? : Char → Option Nat
  | 'x' => some 2
  | 'u' => some 4
  | 'U' => some 8
  | _ => none

/-- The character that so many hexadecimal digits at the front of a text name. -/
def codePoint? (digits : Nat) (text : List Char) : Option Char :=
  let numeral := text.take digits
  if numeral.length < digits then none
  else
    (Text.natural? 16 numeral).bind fun n =>
      if n.isValidChar then some (Char.ofNat n) else none

/-- Reads a scalar between double quotes, after the first. -/
def readDoubleQuoted (fuel : Nat) (seen : List Char) (cursor : Cursor) :
    Option (List Char × Cursor) :=
  match fuel with
  | 0 => none
  | fuel + 1 =>
    let fold (spacing : Spacing) (cursor : Cursor) : Option (List Char × Cursor) :=
      match readSpacing fuel none spacing cursor with
      | none => none
      | some (spacing, cursor) => readDoubleQuoted fuel (spacing.text.reverse ++ seen) cursor
    if cursor.atDocumentMark then none
    else
      match cursor.rest with
      | [] => none
      | '"' :: _ => some (seen.reverse, cursor.skip 1)
      | '\\' :: escape :: rest =>
        if isBreak escape then fold ⟨[], [], [], true⟩ (cursor.skip 1).takeBreak.2
        else
          match escapedChar? escape, escapedDigits? escape with
          | some c, _ => readDoubleQuoted fuel (c :: seen) (cursor.skip 2)
          | none, some digits =>
            match codePoint? digits rest with
            | some c => readDoubleQuoted fuel (c :: seen) (cursor.skip (2 + digits))
            | none => none
          | none, none => none
      | c :: _ =>
        if isBlank c || isBreak c then fold Spacing.none cursor
        else readDoubleQuoted fuel (c :: seen) (cursor.skip 1)

/-- What becomes of the line breaks at the end of a block scalar. -/
inductive Chomping
  | strip
  | clip
  | keep
  deriving DecidableEq, Repr

/-- Skips the indentation of a block scalar's lines and collects the breaks of empty lines.  An
indentation of nought is not known yet; gives it, found out, with the breaks. -/
def readIndentation (fuel : Nat) (outer : Int) (indent widest : Nat) (breaks : List Char)
    (cursor : Cursor) : Option (Nat × List Char × Cursor) :=
  match fuel with
  | 0 => none
  | fuel + 1 =>
    let spaces := (cursor.rest.takeWhile (· = ' ')).length
    let cursor := cursor.skip (if indent = 0 then spaces else min spaces (indent - cursor.column))
    let widest := max widest cursor.column
    if (indent = 0 || cursor.column < indent) && cursor.rest.head? == some '\t' then none
    else if cursor.rest.head?.any isBreak then
      let (taken, cursor) := cursor.takeBreak
      readIndentation fuel outer indent widest (breaks ++ taken) cursor
    else
      let found := if indent = 0 then max (max widest (outer + 1).toNat) 1 else indent
      some (found, breaks, cursor)

/-- Reads the lines of a block scalar; characters are collected in reverse.  Gives also the break
after the last line and those after it. -/
def readBlockLines (fuel : Nat) (folded : Bool) (outer : Int) (indent : Nat) (seen : List Char)
    (leading : List Char) (leadingBlank : Bool) (breaks : List Char) (cursor : Cursor) :
    Option (List Char × List Char × List Char × Cursor) :=
  match fuel with
  | 0 => none
  | fuel + 1 =>
    if cursor.column = indent && !cursor.rest.isEmpty then
      let blank := cursor.rest.head?.any isBlank
      let joint :=
        if folded && leading == ['\n'] && !leadingBlank && !blank then
          if breaks.isEmpty then [' '] else []
        else leading
      let (line, cursor) := cursor.takeWhile (fun c => !isBreak c)
      let seen := line.reverse ++ (breaks.reverse ++ (joint.reverse ++ seen))
      let (leading, cursor) := cursor.takeBreak
      match readIndentation fuel outer indent 0 [] cursor with
      | none => none
      | some (indent, breaks, cursor) =>
        readBlockLines fuel folded outer indent seen leading blank breaks cursor
    else some (seen, leading, breaks, cursor)

/-- Reads the signs after the mark of a block scalar: what becomes of its last breaks, and how much
deeper than its surroundings it is indented. -/
def readBlockHeader (cursor : Cursor) : Option (Chomping × Nat × Cursor) :=
  let chomping? (c : Char) : Option Chomping :=
    if c = '+' then some .keep else if c = '-' then some .strip else none
  let digit? (c : Char) : Option Nat := Text.decimalValue? c
  match cursor.rest with
  | first :: rest =>
    match chomping? first, digit? first with
    | some chomping, _ =>
      match rest.head?.bind digit? with
      | some 0 => none
      | some increment => some (chomping, increment, cursor.skip 2)
      | none => some (chomping, 0, cursor.skip 1)
    | none, some 0 => none
    | none, some increment =>
      match rest.head?.bind chomping? with
      | some chomping => some (chomping, increment, cursor.skip 2)
      | none => some (.clip, increment, cursor.skip 1)
    | none, none => some (.clip, 0, cursor)
  | [] => some (.clip, 0, cursor)

/-- Reads a block scalar whose mark has been read, inside the given indentation. -/
def readBlock (fuel : Nat) (folded : Bool) (outer : Int) (cursor : Cursor) :
    Option (List Char × Cursor) :=
  match readBlockHeader cursor with
  | none => none
  | some (chomping, increment, cursor) =>
    let cursor := cursor.skipWhile isBlank
    let cursor :=
      if cursor.rest.head? == some '#' then cursor.skipWhile (fun c => !isBreak c) else cursor
    if !atLineEnd cursor.rest then none
    else
      let cursor := cursor.takeBreak.2
      let indent := if increment = 0 then 0 else outer.toNat + increment
      match readIndentation fuel outer indent 0 [] cursor with
      | none => none
      | some (indent, breaks, cursor) =>
        match readBlockLines fuel folded outer indent [] [] false breaks cursor with
        | none => none
        | some (seen, leading, breaks, cursor) =>
          let tail :=
            match chomping with
            | .strip => []
            | .clip => leading
            | .keep => leading ++ breaks
          some (seen.reverse ++ tail, cursor)

end Yaml
end PodCommand
