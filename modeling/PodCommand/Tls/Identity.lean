import PodCommand.Pem
import PodCommand.Tls.Certificate

namespace PodCommand

/-- Why the material of a secure connection is not usable. -/
inductive TlsError
  | badRoot
  | badIdentity
  | unknownKeyFormat
  | noPrivateKey
  | noCertificate
  | badPrivateKey
  | badServerName
  deriving DecidableEq, Repr

namespace TlsError

/-- The error in words; what exactly is wrong with octets that cannot be read is left open. -/
def message : TlsError → String
  | badRoot => "failed to add a root certificate: <detail>"
  | badIdentity => "invalid identity PEM: <detail>"
  | unknownKeyFormat => "unknown private key format"
  | noPrivateKey =>
    "identity PEM is missing a private key: the key must be PKCS8 or RSA/PKCS1"
  | noCertificate => "identity PEM is missing certificate"
  | badPrivateKey => "invalid private key: <detail>"
  | badServerName => "invalid server name: <detail>"

end TlsError

namespace Identity

/-!
The identity of a client: a private key and the certificates for it, in textual armour.  Sections
are read line by line; a section of a kind that is unknown is passed over.
-/

/-- A kind of section. -/
inductive Kind
  | certificate
  | key
  | rsaKey
  | ecKey
  /-- A kind that has no place in an identity. -/
  | other
  deriving DecidableEq, Repr

/-- The kind of section that a label names. -/
def Kind.ofLabel? (label : String) : Option Kind :=
  if label = "CERTIFICATE" then some certificate
  else if label = "PRIVATE KEY" then some key
  else if label = "RSA PRIVATE KEY" then some rsaKey
  else if label = "EC PRIVATE KEY" then some ecKey
  else if ["PUBLIC KEY", "X509 CRL", "CERTIFICATE REQUEST", "ECHCONFIG"].contains label then
    some other
  else none

/-- The label of a line that begins or ends a section; an error for a beginning without its last
dashes. -/
def label? (mark : String) (line : List Char) : Option (Except TlsError String) :=
  if !mark.toList.isPrefixOf line then none
  else
    let rest := Text.trimEnd (line.drop mark.length)
    let dashes := "-----".toList
    if dashes.isSuffixOf rest then
      some (.ok (String.ofList (rest.take (rest.length - dashes.length))))
    else some (.error .badIdentity)

/-- Reads the sections of lines; sections are collected in reverse. -/
def sections (seen : List (Kind × Bytes)) (inside : Option (String × List Char)) :
    List (List Char) → Except TlsError (List (Kind × Bytes))
  | [] => if inside.isSome then .error .badIdentity else .ok seen.reverse
  | line :: rest =>
    match label? "-----BEGIN " line, inside with
    | some (.error error), _ => .error error
    | some (.ok label), _ => sections seen (some (label, [])) rest
    | none, none => sections seen none rest
    | none, some (label, body) =>
      if ("-----END " ++ label ++ "-----").toList.isPrefixOf line then
        match Text.Base64.decode? (body.filter fun c => !Text.isBlank c) with
        | none => .error .badIdentity
        | some content =>
          match Kind.ofLabel? label with
          | some kind => sections ((kind, content) :: seen) none rest
          | none => sections seen none rest
      else sections seen (some (label, body ++ line)) rest

/-- The identifiers of key algorithms: RSA, elliptic curves, and the curve of the twisted kind. -/
def rsaIdentifier : Bytes := [0x2A, 0x86, 0x48, 0x86, 0xF7, 0x0D, 0x01, 0x01, 0x01]
def curveIdentifier : Bytes := [0x2A, 0x86, 0x48, 0xCE, 0x3D, 0x02, 0x01]
def twistedIdentifier : Bytes := [0x2B, 0x65, 0x70]

/-- A key on a curve: the point that it belongs to, if that is written with it. -/
def curvePoint? (bytes : Bytes) : Option (Option Bytes) := do
  let content ← Der.only? Der.sequenceTag bytes
  let elements ← Der.elements? 4 content
  match elements with
  | version :: secret :: others =>
    if version.tag = Der.integerTag && version.content = [1] && secret.tag = Der.octetStringTag then
      return ((others.find? (·.tag = Der.contextTag 1)).bind fun element =>
        Der.only? Der.bitStringTag element.content)
    else none
  | _ => none

/-- A key for the oldest algorithm: nine numbers. -/
def isRsaKey (bytes : Bytes) : Bool :=
  match (Der.only? Der.sequenceTag bytes).bind (Der.elements? 16) with
  | some elements => elements.length = 9 && elements.all (·.tag = Der.integerTag)
  | none => false

/-- A private key that can be used: the point that it belongs to, if that is known. -/
def keyPoint? (kind : Kind) (bytes : Bytes) : Option (Option Bytes) :=
  match kind with
  | .rsaKey => if isRsaKey bytes then some none else none
  | .ecKey => curvePoint? bytes
  | .key => do
    let content ← Der.only? Der.sequenceTag bytes
    let (_, rest) ← Der.expect? Der.integerTag content
    let (algorithm, rest) ← Der.expect? Der.sequenceTag rest
    let (identifier, _) ← Der.expect? Der.identifierTag algorithm
    let (key, _) ← Der.expect? Der.octetStringTag rest
    if identifier = rsaIdentifier then if isRsaKey key then some none else none
    else if identifier = curveIdentifier then curvePoint? key
    else if identifier = twistedIdentifier then
      if (Der.only? Der.octetStringTag key).any (·.length = 32) then some none else none
    else none
  | _ => none

/-- Whether a key on a curve belongs to the public key of a certificate. -/
def belongs (point : Option Bytes) (publicKey : Bytes) : Bool :=
  match point with
  | none => true
  | some point =>
    match Der.elements? 4 publicKey with
    | some [_, key] => key.tag = Der.bitStringTag && key.content = point
    | _ => false

/-- Checks the identity that octets hold. -/
def check (bytes : Bytes) : Except TlsError Unit := do
  let found ← sections [] none (Pem.lines (Text.Utf8.decodeLossy bytes))
  if found.any (·.1 = .other) then throw .unknownKeyFormat
  let last (kind : Kind) := found.reverse.find? (·.1 = kind)
  match last .key <|> last .rsaKey <|> last .ecKey, found.find? (·.1 = .certificate) with
  | none, _ => throw .noPrivateKey
  | some _, none => throw .noCertificate
  | some (kind, key), some (_, certificate) =>
    match keyPoint? kind key, Certificate.publicKey? certificate with
    | some point, some publicKey =>
      if belongs point publicKey then return () else throw .badPrivateKey
    | _, _ => throw .badPrivateKey

end Identity
end PodCommand
