import PodCommand.Text.Quoted

namespace PodCommand

/-- A resource identifier as far as a request needs it; fragments are dropped. -/
structure Uri where
  /-- In lower case if it is one of the two schemes of the web. -/
  scheme : Option String
  authority : Option String
  /-- Empty only where there is an authority and nothing else. -/
  path : String
  query : Option String
  deriving DecidableEq, Repr, Inhabited

namespace Uri

/-!
Resource identifiers in the three forms that a request line knows: a path with a query, an authority
alone, and the absolute form with a scheme, an authority and what follows it.
-/

/-- The longest identifier, in octets. -/
def maxLength : Nat := 65534

/-- The longest scheme. -/
def maxSchemeLength : Nat := 64

/-- A character of a scheme. -/
def isSchemeChar (c : Char) : Bool :=
  c.isAlphanum || c = '+' || c = '-' || c = '.' || c = '~'

/-- A character of an authority besides the colon, the brackets, the at sign and the percent
sign. -/
def isAuthorityChar (c : Char) : Bool :=
  c.isAlphanum ||
    ['!', '$', '&', '\'', '(', ')', '*', '+', ',', '-', '.', ';', '=', '_', '~'].contains c

/-- What reading an authority has met so far. -/
structure AuthorityScan where
  colons : Nat := 0
  opened : Bool := false
  closed : Bool := false
  percent : Bool := false
  /-- Whether the character before was an at sign. -/
  atLast : Bool := false
  deriving Repr

/-- Why a text is no identifier. -/
inductive Defect
  | empty
  | tooLong
  | schemeTooLong
  | badCharacter
  | badAuthority
  | badForm
  deriving DecidableEq, Repr

/-- The defect in words. -/
def Defect.message : Defect → String
  | empty => "empty string"
  | tooLong => "uri too long"
  | schemeTooLong => "scheme too long"
  | badCharacter => "invalid uri character"
  | badAuthority => "invalid authority"
  | badForm => "invalid format"

/-- Takes one character of an authority into account. -/
def AuthorityScan.step (scan : AuthorityScan) (c : Char) : Except Defect AuthorityScan :=
  if c = ':' then
    if 8 ≤ scan.colons then .error .badAuthority
    else .ok { scan with colons := scan.colons + 1, atLast := false }
  else if c = '[' then
    if scan.percent || scan.opened then .error .badAuthority
    else .ok { scan with opened := true, atLast := false }
  else if c = ']' then
    if !scan.opened || scan.closed then .error .badAuthority
    else .ok { scan with closed := true, colons := 0, percent := false, atLast := false }
  else if c = '@' then .ok { scan with colons := 0, percent := false, atLast := true }
  else if c = '%' then .ok { scan with percent := true, atLast := false }
  else if isAuthorityChar c then .ok { scan with atLast := false }
  else .error .badCharacter

/-- Checks that a text is an authority: a host, perhaps with a port, perhaps after user
information. -/
def checkAuthority (text : List Char) : Except Defect Unit := do
  let scan ← text.foldlM AuthorityScan.step ({} : AuthorityScan)
  if scan.opened ≠ scan.closed || 1 < scan.colons || scan.atLast || scan.percent then
    throw .badAuthority

/-- A character of a path. -/
def isPathChar (c : Char) : Bool :=
  let n := c.toNat
  n == 0x21 || (0x24 ≤ n && n ≤ 0x3B) || n == 0x3D || (0x40 ≤ n && n ≤ 0x5F) ||
    (0x61 ≤ n && n ≤ 0x7A) || n == 0x7C || 0x7E ≤ n || c = '"' || c = '\x7b' || c = '\x7d'

/-- A character of a query. -/
def isQueryChar (c : Char) : Bool :=
  let n := c.toNat
  n == 0x21 || (0x24 ≤ n && n ≤ 0x3B) || n == 0x3D || 0x3F ≤ n

/-- Reads a path and a query, up to a fragment. -/
def readPath (text : List Char) : Except Defect (String × Option String) :=
  let whole := text.takeWhile (· ≠ '#')
  let path := whole.takeWhile (· ≠ '?')
  let query := (whole.dropWhile (· ≠ '?')).tail?
  if path.all isPathChar && (query.getD []).all isQueryChar then
    .ok (String.ofList path, query.map String.ofList)
  else .error .badCharacter

/-- Whether a character ends an authority. -/
def endsAuthority (c : Char) : Bool := c = '/' || c = '?' || c = '#'

/-- What the front of a text is, read as a scheme. -/
inductive SchemeScan
  | none
  | scheme (name : String) (rest : List Char)
  | tooLong

/-- A character in lower case, if it is an ASCII letter. -/
def lower (text : List Char) : List Char := text.map Char.toLower

/-- Reads a scheme and the two slashes after it. -/
def scanScheme (text : List Char) : SchemeScan :=
  if lower (text.take 7) == "http://".toList then .scheme "http" (text.drop 7)
  else if lower (text.take 8) == "https://".toList then .scheme "https" (text.drop 8)
  else if text.length ≤ 3 then .none
  else
    let name := text.takeWhile isSchemeChar
    match text.drop name.length with
    | ':' :: '/' :: '/' :: rest =>
      if maxSchemeLength < name.length then .tooLong else .scheme (String.ofList name) rest
    | _ => .none

/-- Reads an authority and nothing else. -/
def readAuthority (text : List Char) : Except Defect Uri := do
  checkAuthority (text.takeWhile fun c => !endsAuthority c)
  if text.any endsAuthority then throw (if text.length = 1 then .badCharacter else .badForm)
  return ⟨none, some (String.ofList text), "", none⟩

/-- Reads what follows a scheme. -/
def readAfterScheme (scheme : String) (text : List Char) : Except Defect Uri := do
  let authority := text.takeWhile fun c => !endsAuthority c
  checkAuthority authority
  if authority.isEmpty then throw .badForm
  let (path, query) ← readPath (text.drop authority.length)
  return ⟨some scheme, some (String.ofList authority), path, query⟩

/-- Reads an identifier. -/
def read (text : String) : Except Defect Uri := do
  let chars := text.toList
  if maxLength < text.utf8ByteSize then throw .tooLong
  match chars with
  | [] => throw .empty
  | ['*'] => return ⟨none, none, "*", none⟩
  | '/' :: _ =>
    let (path, query) ← readPath chars
    return ⟨none, none, path, query⟩
  | _ =>
    match scanScheme chars with
    | .tooLong => throw .schemeTooLong
    | .none => readAuthority chars
    | .scheme scheme rest => readAfterScheme scheme rest

/-- Reads an identifier; none if the text is not one. -/
def parse? (text : String) : Option Uri := (read text).toOption

/-- The host of an identifier: its authority without user information and port. -/
def host? (uri : Uri) : Option String :=
  uri.authority.map fun authority =>
    let chars := authority.toList
    let host := (chars.reverse.takeWhile (· ≠ '@')).reverse
    if host.head? == some '[' then
      String.ofList (host.takeWhile (· ≠ ']') ++ (host.dropWhile (· ≠ ']')).take 1)
    else String.ofList (host.takeWhile (· ≠ ':'))

/-- The path that is requested: never empty where there is a scheme. -/
def requestPath (uri : Uri) : String :=
  if uri.path.isEmpty && uri.scheme.isSome then "/" else uri.path

/-- The text of an identifier. -/
def text (uri : Uri) : String :=
  (match uri.scheme with
    | some scheme => scheme ++ "://"
    | none => "") ++
    uri.authority.getD "" ++ uri.requestPath ++
    (match uri.query with
      | some query => "?" ++ query
      | none => "")

end Uri
end PodCommand
