import PodCommand.Yaml.Scalar

namespace PodCommand
namespace Yaml

/-!
The tokens of a YAML text.

Indentation is turned into tokens that open and close blocks.  A mapping's key is not marked as one
in the text: whether a token begins a key shows only when a colon follows it on the same line, so
the places that may begin a key are remembered, and the tokens that open the mapping and the key are
put in front of them afterwards.
-/

/-- A token. -/
inductive Token
  | versionDirective (major minor : Nat)
  | tagDirective (handle leader : List Char)
  | documentStart
  | documentEnd
  | streamEnd
  | blockSequenceStart
  | blockMappingStart
  | blockEnd
  | flowSequenceStart
  | flowSequenceEnd
  | flowMappingStart
  | flowMappingEnd
  | blockEntry
  | flowEntry
  | key
  | value
  | alias (name : List Char)
  | anchor (name : List Char)
  | tag (handle suffix : List Char)
  | scalar (text : List Char) (plain : Bool)
  deriving DecidableEq, Repr

/-- A place that may turn out to begin a key. -/
structure KeyPlace where
  /-- Nothing but a key can stand here. -/
  required : Bool
  /-- How many tokens stand before the place. -/
  position : Nat
  index : Nat
  line : Nat
  column : Nat
  deriving Repr

/-- The state of reading tokens. -/
structure Lexer where
  cursor : Cursor
  /-- The tokens so far, the latest first. -/
  tokens : List Token
  count : Nat
  indent : Int
  /-- The indentations of the enclosing blocks, the innermost first. -/
  outer : List Int
  /-- The place that may begin a key, for each level of brackets, the innermost first. -/
  places : List (Option KeyPlace)
  /-- Whether a key may begin here without a mark. -/
  keyAllowed : Bool
  deriving Repr

namespace Lexer

/-- The state at the beginning of a text. -/
def ofText (text : List Char) : Lexer :=
  ⟨.ofText text, [], 0, -1, [], [none], true⟩

/-- How deep the brackets are nested. -/
def flowLevel (lexer : Lexer) : Nat := lexer.places.length - 1

/-- Whether the place is within brackets. -/
def inFlow (lexer : Lexer) : Bool := 0 < lexer.flowLevel

/-- Adds a token. -/
def push (lexer : Lexer) (token : Token) : Lexer :=
  { lexer with tokens := token :: lexer.tokens, count := lexer.count + 1 }

/-- Adds a token and goes on after so many characters. -/
def pushOver (lexer : Lexer) (token : Token) (width : Nat) : Lexer :=
  { lexer.push token with cursor := lexer.cursor.skip width }

/-- Puts a token in front of those after a position. -/
def insertAt (lexer : Lexer) (position : Nat) (token : Token) : Lexer :=
  let later := lexer.count - position
  { lexer with
    tokens := lexer.tokens.take later ++ token :: lexer.tokens.drop later
    count := lexer.count + 1 }

/-- Whether a place can no longer begin a key: a key stands on one line and is short. -/
def isStale (cursor : Cursor) (place : KeyPlace) : Bool :=
  place.line < cursor.line || place.index + 1024 < cursor.index

/-- Forgets places that can no longer begin a key. -/
def dropStale (lexer : Lexer) : Option Lexer :=
  let stale (place : Option KeyPlace) : Bool := place.any (isStale lexer.cursor)
  if lexer.places.any (fun place => stale place && place.any (·.required)) then none
  else
    some { lexer with places := lexer.places.map fun place => if stale place then none else place }

/-- Forgets the innermost place that may begin a key. -/
def forgetPlace (lexer : Lexer) : Option Lexer :=
  match lexer.places with
  | some place :: rest =>
    if place.required then none else some { lexer with places := none :: rest }
  | _ => some lexer

/-- Remembers that a key may begin here. -/
def markPlace (lexer : Lexer) : Option Lexer :=
  if !lexer.keyAllowed then some lexer
  else
    let cursor := lexer.cursor
    let place : KeyPlace :=
      ⟨!lexer.inFlow && lexer.indent == cursor.column, lexer.count, cursor.index, cursor.line,
        cursor.column⟩
    lexer.forgetPlace.map fun lexer =>
      { lexer with places := some place :: lexer.places.drop 1 }

/-- Opens a block if a column is deeper than the enclosing block; the token goes in front of those
after a position. -/
def openBlock (lexer : Lexer) (column position : Nat) (token : Token) : Lexer :=
  if lexer.inFlow || (column : Int) ≤ lexer.indent then lexer
  else
    { lexer.insertAt position token with indent := column, outer := lexer.indent :: lexer.outer }

/-- Closes the blocks that are deeper than a column. -/
def closeBlocks (lexer : Lexer) (column : Int) : Lexer :=
  if lexer.inFlow then lexer
  else
    let closed := ((lexer.indent :: lexer.outer).takeWhile (column < ·)).length
    let levels := (lexer.indent :: lexer.outer).drop closed
    { lexer with
      tokens := List.replicate closed .blockEnd ++ lexer.tokens
      count := lexer.count + closed
      indent := levels.headD (-1)
      outer := levels.drop 1 }

/-- Skips white space, comments and line breaks. -/
def skipToToken (fuel : Nat) (lexer : Lexer) : Lexer :=
  match fuel with
  | 0 => lexer
  | fuel + 1 =>
    let tabs := lexer.inFlow || !lexer.keyAllowed
    let cursor := lexer.cursor.skipWhile fun c => c = ' ' || (tabs && c = '\t')
    let cursor :=
      if cursor.rest.head? == some '#' then cursor.skipWhile (fun c => !isBreak c) else cursor
    if cursor.rest.head?.any isBreak then
      skipToToken fuel
        { lexer with
          cursor := cursor.takeBreak.2, keyAllowed := lexer.keyAllowed || !lexer.inFlow }
    else { lexer with cursor }

/-- A run of at least one decimal digit, and at most nine. -/
def versionNumber? (cursor : Cursor) : Option (Nat × Cursor) :=
  let (digits, cursor) := cursor.takeWhile Char.isDigit
  if 9 < digits.length then none else (Text.natural? 10 digits).map fun n => (n, cursor)

/-- A character of a tag besides letters, digits, underscores and dashes. -/
def isTagMark (verbatim : Bool) (c : Char) : Bool :=
  [';', '/', '?', ':', '@', '&', '=', '+', '$', '.', '!', '~', '*', '\'', '(', ')'].contains c ||
    (verbatim && [',', '[', ']'].contains c)

/-- Reads the text of a tag; octets may be written as `%XX`. -/
def tagText (fuel : Nat) (verbatim : Bool) (seen : List Char) (cursor : Cursor) :
    Option (List Char × Cursor) :=
  match fuel with
  | 0 => none
  | fuel + 1 =>
    match cursor.rest with
    | '%' :: a :: b :: _ =>
      match Text.natural? 16 [a, b] with
      | some n => tagText fuel verbatim (Char.ofNat n :: seen) (cursor.skip 3)
      | none => none
    | '%' :: _ => none
    | c :: _ =>
      if isWordChar c || isTagMark verbatim c then
        tagText fuel verbatim (c :: seen) (cursor.skip 1)
      else if seen.isEmpty then none
      else some (seen.reverse, cursor)
    | [] => if seen.isEmpty then none else some (seen.reverse, cursor)

/-- Reads the handle of a tag: an exclamation mark, and perhaps a word and another one. -/
def tagHandle? (cursor : Cursor) : Option (List Char × Cursor) :=
  match cursor.rest with
  | '!' :: _ =>
    let (word, after) := (cursor.skip 1).takeWhile isWordChar
    if after.rest.head? == some '!' then some ('!' :: (word ++ ['!']), after.skip 1)
    else some ('!' :: word, after)
  | _ => none

/-- Reads a directive, after the percent sign. -/
def directive? (fuel : Nat) (cursor : Cursor) : Option (Token × Cursor) := do
  let (name, cursor) := cursor.takeWhile isWordChar
  if name.isEmpty || !atGap cursor.rest then none
  let cursor := cursor.skipWhile isBlank
  if name == ['Y', 'A', 'M', 'L'] then
    let (major, cursor) ← versionNumber? cursor
    if cursor.rest.head? != some '.' then none
    let (minor, cursor) ← versionNumber? (cursor.skip 1)
    return (.versionDirective major minor, cursor)
  else if name == ['T', 'A', 'G'] then
    let (handle, cursor) ← tagHandle? cursor
    if handle != ['!'] && handle.getLast? != some '!' then none
    if !cursor.rest.head?.any isBlank then none
    let cursor := cursor.skipWhile isBlank
    let (leader, cursor) ← tagText fuel true [] cursor
    if !atGap cursor.rest then none
    return (.tagDirective handle leader, cursor)
  else none

/-- Reads the rest of a directive's line. -/
def directiveLine? (fuel : Nat) (cursor : Cursor) : Option (Token × Cursor) := do
  let (token, cursor) ← directive? fuel cursor
  let cursor := cursor.skipWhile isBlank
  let cursor :=
    if cursor.rest.head? == some '#' then cursor.skipWhile (fun c => !isBreak c) else cursor
  if !atLineEnd cursor.rest then none
  return (token, cursor.takeBreak.2)

/-- Reads a tag. -/
def tag? (fuel : Nat) (flow : Bool) (cursor : Cursor) : Option (Token × Cursor) := do
  let (token, cursor) ←
    match cursor.rest with
    | '!' :: '<' :: _ =>
      match tagText fuel true [] (cursor.skip 2) with
      | some (text, cursor) =>
        if cursor.rest.head? == some '>' then some (Token.tag [] text, cursor.skip 1) else none
      | none => none
    | _ =>
      match tagHandle? cursor with
      | none => none
      | some (handle, after) =>
        if 1 < handle.length && handle.getLast? == some '!' then
          (tagText fuel false [] after).map fun (text, cursor) =>
            (.tag handle text, cursor)
        else
          -- A lone exclamation mark is a tag of its own.
          (tagText fuel false handle.reverse after).map fun (more, cursor) =>
            (if more == ['!'] then .tag [] more else .tag ['!'] (more.drop 1), cursor)
  if atGap cursor.rest || (flow && cursor.rest.head? == some ',') then return (token, cursor)
  else none

/-- Reads the name of an anchor or of an alias, after its mark. -/
def anchorName? (cursor : Cursor) : Option (List Char × Cursor) :=
  let (name, after) := cursor.takeWhile isWordChar
  let ends :=
    atGap after.rest ||
      after.rest.head?.any fun c => ['?', ':', ',', ']', '\x7d', '%', '@', '`'].contains c
  if name.isEmpty || !ends then none else some (name, after)

/-- Adds a token that may begin a key. -/
def pushKeyLike (lexer : Lexer) (read : Cursor → Option (Token × Cursor)) : Option Lexer := do
  let lexer ← lexer.markPlace
  let (token, cursor) ← read lexer.cursor
  return { lexer.push token with cursor, keyAllowed := false }

/-- Adds a token that opens brackets. -/
def openFlow (lexer : Lexer) (token : Token) : Option Lexer :=
  lexer.markPlace.map fun lexer =>
    { lexer.pushOver token 1 with places := none :: lexer.places, keyAllowed := true }

/-- Adds a token that closes brackets. -/
def closeFlow (lexer : Lexer) (token : Token) : Option Lexer :=
  lexer.forgetPlace.map fun lexer =>
    { lexer.pushOver token 1 with
      places := if lexer.inFlow then lexer.places.drop 1 else lexer.places, keyAllowed := false }

/-- Adds a token that marks an entry of a block or a key, opening the block if it is the first. -/
def blockMark (lexer : Lexer) (token opening : Token) (keyAllowed : Bool) : Option Lexer :=
  if !lexer.inFlow && !lexer.keyAllowed then none
  else
    (lexer.openBlock lexer.cursor.column lexer.count opening).forgetPlace.map fun lexer =>
      { lexer.pushOver token 1 with keyAllowed }

/-- Adds the token that marks a value; what stands before it may turn out to be a key. -/
def valueMark (lexer : Lexer) : Option Lexer :=
  match lexer.places with
  | some place :: rest =>
    let lexer := { lexer.insertAt place.position .key with places := none :: rest }
    let lexer := lexer.openBlock place.column place.position .blockMappingStart
    some { lexer.pushOver .value 1 with keyAllowed := false }
  | _ =>
    if !lexer.inFlow && !lexer.keyAllowed then none
    else
      let lexer := lexer.openBlock lexer.cursor.column lexer.count .blockMappingStart
      some { lexer.pushOver .value 1 with keyAllowed := !lexer.inFlow }

/-- Adds a scalar of the block style. -/
def blockScalar (fuel : Nat) (lexer : Lexer) (folded : Bool) : Option Lexer := do
  let lexer ← lexer.forgetPlace
  let (text, cursor) ← readBlock fuel folded lexer.indent (lexer.cursor.skip 1)
  return { lexer.push (.scalar text false) with cursor, keyAllowed := true }

/-- Adds a plain scalar. -/
def plainScalar (fuel : Nat) (lexer : Lexer) : Option Lexer := do
  let lexer ← lexer.markPlace
  let (text, broken, cursor) ←
    readPlain fuel lexer.inFlow (lexer.indent + 1).toNat [] Spacing.none
      lexer.cursor
  return { lexer.push (.scalar text true) with cursor, keyAllowed := broken }

/-- Leaves all blocks, as at the end of a document. -/
def leaveBlocks (lexer : Lexer) : Option Lexer :=
  (lexer.closeBlocks (-1)).forgetPlace.map fun lexer => { lexer with keyAllowed := false }

/-- Whether a plain scalar may begin at the front of a text. -/
def startsPlain (flow : Bool) : List Char → Bool
  | [] => false
  | c :: rest =>
    if c = '-' then !rest.head?.any isBlank
    else if c = '?' || c = ':' then !flow && !atGap rest
    else
      !(isBlank c || isBreak c || isFlowIndicator c ||
        ['#', '&', '*', '!', '|', '>', '\'', '"', '%', '@', '`'].contains c)

/-- Reads the next token; the fuel exceeds the number of characters that follow. -/
def next (fuel : Nat) (lexer : Lexer) : Option Lexer := do
  let lexer ← (lexer.skipToToken fuel).dropStale
  let lexer := lexer.closeBlocks lexer.cursor.column
  let cursor := lexer.cursor
  let flow := lexer.inFlow
  match cursor.rest with
  | [] => return (← lexer.leaveBlocks).push .streamEnd
  | c :: rest =>
    if cursor.column = 0 && c = '%' then
      let lexer ← lexer.leaveBlocks
      let (token, cursor) ← directiveLine? fuel (cursor.skip 1)
      return { lexer.push token with cursor }
    else if cursor.atDocumentMark then
      return (← lexer.leaveBlocks).pushOver (if c = '-' then .documentStart else .documentEnd) 3
    else if c = '[' then lexer.openFlow .flowSequenceStart
    else if c = '\x7b' then lexer.openFlow .flowMappingStart
    else if c = ']' then lexer.closeFlow .flowSequenceEnd
    else if c = '\x7d' then lexer.closeFlow .flowMappingEnd
    else if c = ',' then
      let lexer ← lexer.forgetPlace
      return { lexer.pushOver .flowEntry 1 with keyAllowed := true }
    else if c = '-' && atGap rest then lexer.blockMark .blockEntry .blockSequenceStart true
    else if c = '?' && (flow || atGap rest) then lexer.blockMark .key .blockMappingStart (!flow)
    else if c = ':' && (flow || atGap rest) then lexer.valueMark
    else if c = '*' then
      lexer.pushKeyLike fun cursor =>
        (anchorName? (cursor.skip 1)).map fun (name, cursor) => (.alias name, cursor)
    else if c = '&' then
      lexer.pushKeyLike fun cursor =>
        (anchorName? (cursor.skip 1)).map fun (name, cursor) => (.anchor name, cursor)
    else if c = '!' then lexer.pushKeyLike (tag? fuel flow)
    else if c = '|' && !flow then lexer.blockScalar fuel false
    else if c = '>' && !flow then lexer.blockScalar fuel true
    else if c = '\'' then
      lexer.pushKeyLike fun cursor =>
        (readSingleQuoted fuel [] (cursor.skip 1)).map fun (text, cursor) =>
          (.scalar text false, cursor)
    else if c = '"' then
      lexer.pushKeyLike fun cursor =>
        (readDoubleQuoted fuel [] (cursor.skip 1)).map fun (text, cursor) =>
          (.scalar text false, cursor)
    else if startsPlain flow cursor.rest then lexer.plainScalar fuel
    else none

/-- Reads tokens up to the end of the text or to the first place where there is none. -/
def run (fuel : Nat) (lexer : Lexer) : List Token :=
  match fuel with
  | 0 => lexer.tokens.reverse
  | fuel + 1 =>
    match lexer.next fuel with
    | none => lexer.tokens.reverse
    | some lexer =>
      if lexer.tokens.head? == some .streamEnd then lexer.tokens.reverse else run fuel lexer

end Lexer

/-- The tokens of a text: all of them, ending with the end of the stream, or those before the first
place where the text is not well formed. -/
def tokens (text : List Char) : List Token :=
  if text.all isAdmitted then
    let start := if text.head? == some '\uFEFF' then text.drop 1 else text
    (Lexer.ofText start).run (text.length + 2)
  else []

end Yaml
end PodCommand
