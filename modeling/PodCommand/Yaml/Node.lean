import PodCommand.Yaml.Token

namespace PodCommand
namespace Yaml

/-!
The documents of a YAML text as trees of nodes.  An alias is kept as a reference to the node that
bore its anchor last, so a node can hold a reference to itself.  Every node is numbered by the
number of nodes that were begun before it.
-/

/-- A node of a document. -/
inductive Node
  | scalar (tag : Option (List Char)) (text : List Char) (plain : Bool)
  | sequence (tag : Option (List Char)) (items : List Node)
  | mapping (tag : Option (List Char)) (entries : List (Node × Node))
  | alias (target : Nat)
  deriving Inhabited

/-- A document: its root and its anchored nodes. -/
structure Document where
  root : Node
  anchored : List (Nat × Node)
  /-- How many nodes, beginnings and ends the document is made of. -/
  size : Nat
  deriving Inhabited

/-- The deepest nesting of collections that is admitted. -/
def maxDepth : Nat := 128

/-- The state of building a document. -/
structure Builder where
  tokens : List Token
  /-- The prefixes that tag handles stand for. -/
  handles : List (List Char × List Char)
  /-- The anchors so far, the latest first. -/
  anchors : List (List Char × Nat)
  anchored : List (Nat × Node)
  begun : Nat
  size : Nat

namespace Builder

/-- The next token; none where the text is not well formed. -/
def peek (builder : Builder) : Option Token := builder.tokens.head?

/-- The state after the next token. -/
def skip (builder : Builder) : Builder := { builder with tokens := builder.tokens.drop 1 }

/-- Counts parts of the document. -/
def grow (builder : Builder) (parts : Nat) : Builder :=
  { builder with size := builder.size + parts }

/-- A node of which nothing is written. -/
def empty (builder : Builder) : Node × Builder :=
  (.scalar none [] true, builder.grow 1)

/-- The properties before a node: its anchor and its tag, in either order. -/
structure Properties where
  anchor : Option (List Char)
  tag : Option (List Char)

/-- The tag that a handle and a suffix stand for. -/
def resolveTag (builder : Builder) (handle suffix : List Char) : Option (List Char) :=
  if handle.isEmpty then some suffix
  else
    match builder.handles.find? (·.1 == handle) with
    | some (_, leader) => some (leader ++ suffix)
    | none => none

/-- Reads the properties before a node. -/
def properties (fuel : Nat) (found : Properties) (builder : Builder) :
    Option (Properties × Builder) :=
  match fuel, builder.peek with
  | _, none => none
  | fuel + 1, some (.anchor name) =>
    if found.anchor.isSome then some (found, builder)
    else properties fuel { found with anchor := some name } builder.skip
  | fuel + 1, some (.tag handle suffix) =>
    if found.tag.isSome then some (found, builder)
    else
      match builder.resolveTag handle suffix with
      | none => none
      | some tag => properties fuel { found with tag := some tag } builder.skip
  | _, some _ => some (found, builder)

/-- Whether a token ends a value that has not been written. -/
def endsBlockValue : Token → Bool
  | .key | .value | .blockEnd => true
  | _ => false

/-- Whether a token ends an item of an unindented sequence that has not been written. -/
def endsUnindentedItem : Token → Bool
  | .blockEntry | .key | .value | .blockEnd => true
  | _ => false

mutual

/-- Reads a node.  The first number bounds the steps, the second the depth. -/
def node (fuel depth : Nat) (block unindented : Bool) (builder : Builder) :
    Option (Node × Builder) :=
  match fuel with
  | 0 => none
  | fuel + 1 =>
    match builder.peek with
    | none => none
    | some (.alias name) =>
      match builder.anchors.find? (·.1 == name) with
      | some (_, target) => some (.alias target, builder.skip.grow 1)
      | none => none
    | some _ =>
      match properties 3 ⟨none, none⟩ builder with
      | none => none
      | some (found, builder) =>
        let number := builder.begun
        let builder := { builder with begun := number + 1 }
        let builder :=
          match found.anchor with
          | some name => { builder with anchors := (name, number) :: builder.anchors }
          | none => builder
        match content fuel depth block unindented found builder with
        | none => none
        | some (node, builder) =>
          if found.anchor.isSome then
            some (node, { builder with anchored := (number, node) :: builder.anchored })
          else some (node, builder)

/-- Reads what stands after the properties of a node. -/
def content (fuel depth : Nat) (block unindented : Bool) (found : Properties)
    (builder : Builder) : Option (Node × Builder) :=
  match fuel with
  | 0 => none
  | fuel + 1 =>
    match builder.peek, depth with
    | some (.scalar text plain), _ => some (.scalar found.tag text plain, builder.skip.grow 1)
    | some .flowSequenceStart, depth + 1 =>
      (flowItems fuel depth true [] builder.skip).map fun (items, builder) =>
        (.sequence found.tag items, builder.grow 2)
    | some .flowMappingStart, depth + 1 =>
      (flowEntries fuel depth true [] builder.skip).map fun (entries, builder) =>
        (.mapping found.tag entries, builder.grow 2)
    | some .flowSequenceStart, 0 | some .flowMappingStart, 0 => none
    | some token, depth =>
      if unindented && token == .blockEntry then
        match depth with
        | 0 => none
        | depth + 1 =>
          (unindentedItems fuel depth [] builder).map fun (items, builder) =>
            (.sequence found.tag items, builder.grow 2)
      else if block && token == .blockSequenceStart then
        match depth with
        | 0 => none
        | depth + 1 =>
          (blockItems fuel depth [] builder.skip).map fun (items, builder) =>
            (.sequence found.tag items, builder.grow 2)
      else if block && token == .blockMappingStart then
        match depth with
        | 0 => none
        | depth + 1 =>
          (blockEntries fuel depth [] builder.skip).map fun (entries, builder) =>
            (.mapping found.tag entries, builder.grow 2)
      else if found.anchor.isSome || found.tag.isSome then
        some (.scalar found.tag [] true, builder.grow 1)
      else none
    | none, _ => none

/-- Reads the items of a block sequence; they are collected in reverse. -/
def blockItems (fuel depth : Nat) (seen : List Node) (builder : Builder) :
    Option (List Node × Builder) :=
  match fuel with
  | 0 => none
  | fuel + 1 =>
    match builder.peek with
    | some .blockEnd => some (seen.reverse, builder.skip)
    | some .blockEntry =>
      let builder := builder.skip
      let item :=
        match builder.peek with
        | none => none
        | some token =>
          if token == .blockEntry || token == .blockEnd then some builder.empty
          else node fuel depth true false builder
      match item with
      | none => none
      | some (item, builder) => blockItems fuel depth (item :: seen) builder
    | _ => none

/-- Reads the items of a sequence that is not indented against the key before it. -/
def unindentedItems (fuel depth : Nat) (seen : List Node) (builder : Builder) :
    Option (List Node × Builder) :=
  match fuel with
  | 0 => none
  | fuel + 1 =>
    match builder.peek with
    | none => none
    | some .blockEntry =>
      let builder := builder.skip
      let item :=
        match builder.peek with
        | none => none
        | some token =>
          if endsUnindentedItem token then some builder.empty
          else node fuel depth true false builder
      match item with
      | none => none
      | some (item, builder) => unindentedItems fuel depth (item :: seen) builder
    | some _ => some (seen.reverse, builder)

/-- Reads the part of an entry after a mark; it may not be written. -/
def blockPart (fuel depth : Nat) (mark : Token) (builder : Builder) :
    Option (Node × Builder) :=
  match fuel with
  | 0 => none
  | fuel + 1 =>
    match builder.peek with
    | none => none
    | some token =>
      if token == mark then
        let builder := builder.skip
        match builder.peek with
        | none => none
        | some token =>
          if endsBlockValue token then some builder.empty
          else node fuel depth true true builder
      else some builder.empty

/-- Reads the entries of a block mapping; they are collected in reverse. -/
def blockEntries (fuel depth : Nat) (seen : List (Node × Node)) (builder : Builder) :
    Option (List (Node × Node) × Builder) :=
  match fuel with
  | 0 => none
  | fuel + 1 =>
    match builder.peek with
    | some .blockEnd => some (seen.reverse, builder.skip)
    | some .key =>
      match blockPart fuel depth .key builder with
      | none => none
      | some (key, builder) =>
        match blockPart fuel depth .value builder with
        | none => none
        | some (value, builder) => blockEntries fuel depth ((key, value) :: seen) builder
    | _ => none

/-- Reads a part of an entry within brackets, unless a token that ends it comes first. -/
def flowPart (fuel depth : Nat) (ends : Token → Bool) (builder : Builder) :
    Option (Node × Builder) :=
  match fuel with
  | 0 => none
  | fuel + 1 =>
    match builder.peek with
    | none => none
    | some token => if ends token then some builder.empty else node fuel depth false false builder

/-- Reads the value of an entry within brackets, if there is one. -/
def flowValue (fuel depth : Nat) (closing : Token) (builder : Builder) :
    Option (Node × Builder) :=
  match fuel with
  | 0 => none
  | fuel + 1 =>
    match builder.peek with
    | none => none
    | some .value =>
      flowPart fuel depth (fun token => token == .flowEntry || token == closing) builder.skip
    | some _ => some builder.empty

/-- Reads the items of a sequence in brackets; they are collected in reverse.  An item may be a
single entry of a mapping. -/
def flowItems (fuel depth : Nat) (first : Bool) (seen : List Node) (builder : Builder) :
    Option (List Node × Builder) :=
  match fuel with
  | 0 => none
  | fuel + 1 =>
    let separated :=
      if first || builder.peek == some .flowSequenceEnd then some builder
      else if builder.peek == some .flowEntry then some builder.skip
      else none
    match separated with
    | none => none
    | some builder =>
      match builder.peek, depth with
      | none, _ => none
      | some .flowSequenceEnd, _ => some (seen.reverse, builder.skip)
      | some .key, 0 => none
      | some .key, inner + 1 =>
        let builder := builder.skip
        let key :=
          match builder.peek with
          | none => none
          | some token =>
            -- What ends a key that is not written is passed over with it.
            if token == .value || token == .flowEntry || token == .flowSequenceEnd then
              some builder.skip.empty
            else node fuel inner false false builder
        match key with
        | none => none
        | some (key, builder) =>
          match flowValue fuel inner .flowSequenceEnd builder with
          | none => none
          | some (value, builder) =>
            flowItems fuel depth false (.mapping none [(key, value)] :: seen) (builder.grow 2)
      | some _, _ =>
        match node fuel depth false false builder with
        | none => none
        | some (item, builder) => flowItems fuel depth false (item :: seen) builder

/-- Reads the entries of a mapping in brackets; they are collected in reverse. -/
def flowEntries (fuel depth : Nat) (first : Bool) (seen : List (Node × Node))
    (builder : Builder) : Option (List (Node × Node) × Builder) :=
  match fuel with
  | 0 => none
  | fuel + 1 =>
    let separated :=
      if first || builder.peek == some .flowMappingEnd then some builder
      else if builder.peek == some .flowEntry then some builder.skip
      else none
    match separated with
    | none => none
    | some builder =>
      match builder.peek with
      | none => none
      | some .flowMappingEnd => some (seen.reverse, builder.skip)
      | some .key =>
        let ends (token : Token) : Bool :=
          token == .value || token == .flowEntry || token == .flowMappingEnd
        match flowPart fuel depth ends builder.skip with
        | none => none
        | some (key, builder) =>
          match flowValue fuel depth .flowMappingEnd builder with
          | none => none
          | some (value, builder) => flowEntries fuel depth false ((key, value) :: seen) builder
      | some _ =>
        match node fuel depth false false builder with
        | none => none
        | some (key, builder) =>
          let (value, builder) := builder.empty
          flowEntries fuel depth false ((key, value) :: seen) builder

end

/-- The prefixes of the tag handles that need no directive. -/
def standardHandles : List (List Char × List Char) :=
  [(['!'], ['!']), (['!', '!'], "tag:yaml.org,2002:".toList)]

/-- Reads the directives before a document. -/
def directives (fuel : Nat) (versioned : Bool) (handles : List (List Char × List Char))
    (tokens : List Token) : Option (List (List Char × List Char) × List Token) :=
  match fuel, tokens with
  | fuel + 1, .versionDirective major minor :: rest =>
    if versioned || major != 1 || (minor != 1 && minor != 2) then none
    else directives fuel true handles rest
  | fuel + 1, .tagDirective handle leader :: rest =>
    if handles.any (·.1 == handle) then none
    else directives fuel versioned ((handle, leader) :: handles) rest
  | _, _ => some (handles, tokens)

/-- Whether nothing is written in a document that is followed by the token. -/
def endsDocument : Token → Bool
  | .versionDirective .. | .tagDirective .. | .documentStart | .documentEnd | .streamEnd => true
  | _ => false

/-- Reads the content of a document. -/
def document (handles : List (List Char × List Char)) (tokens : List Token) :
    Option (Document × List Token) :=
  let builder : Builder := ⟨tokens, handles ++ standardHandles, [], [], 0, 2⟩
  match tokens with
  | [] => none
  | token :: _ =>
    let root :=
      if endsDocument token then some builder.empty
      else node (8 * tokens.length + 16) maxDepth true false builder
    root.map fun (root, builder) => (⟨root, builder.anchored, builder.size⟩, builder.tokens)

end Builder

/-- Reads the next document.  The mark that begins a document may be left out before the first one
only.  Gives nothing at the end of the stream, and an error where the text is not well formed. -/
def nextDocument (first : Bool) (tokens : List Token) :
    Except Unit (Option (Document × List Token)) :=
  let tokens := if first then tokens else tokens.dropWhile (· == .documentEnd)
  let read (handles : List (List Char × List Char)) (tokens : List Token) :=
    match Builder.document handles tokens with
    | none => throw ()
    | some (document, rest) =>
      -- The end of the document has to be in sight.
      match rest with
      | [] => throw ()
      | .documentEnd :: rest => return some (document, rest)
      | rest => return some (document, rest)
  match tokens with
  | [] => throw ()
  | .streamEnd :: _ => return none
  | token :: _ =>
    if first && !Builder.endsDocument token then read [] tokens
    else
      match Builder.directives (tokens.length + 1) false [] tokens with
      | some (handles, .documentStart :: rest) => read handles rest
      | _ => throw ()

/-- The documents of a text in order.  The list ends with an error where the text is not well
formed. -/
def documents (text : List Char) : List (Except Unit Document) :=
  let tokens := tokens text
  go (tokens.length + 1) true tokens
where
  /-- Reads documents one after the other. -/
  go (fuel : Nat) (first : Bool) (tokens : List Token) : List (Except Unit Document) :=
    match fuel with
    | 0 => []
    | fuel + 1 =>
      match nextDocument first tokens with
      | .error _ => [.error ()]
      | .ok none => []
      | .ok (some (document, rest)) => .ok document :: go fuel false rest

end Yaml
end PodCommand
