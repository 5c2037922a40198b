import PodCommand.Tls.Der

namespace PodCommand
namespace Certificate

/-!
Which octets are a certificate that can be trusted as a root.  The structure is checked and the
extensions are looked through; signatures and dates are not looked at.
-/

/-- The parts of a certificate that the checks need. -/
structure Parts where
  /-- The key of the certificate's subject, as it is encoded. -/
  publicKey : Bytes
  /-- What stands after the public key. -/
  rest : Bytes

/-- Skips the algorithm, the issuer, the validity and the subject; gives the algorithm and the
octets from the public key on. -/
def skipNames (bytes : Bytes) : Option (Bytes × Bytes) := do
  let (algorithm, rest) ← Der.expect? Der.sequenceTag bytes
  let (_, rest) ← Der.expect? Der.sequenceTag rest
  let (_, rest) ← Der.expect? Der.sequenceTag rest
  let (_, rest) ← Der.expect? Der.sequenceTag rest
  return (algorithm, rest)

/-- The last component of the identifiers of extensions that are understood. -/
def knownExtensions : List UInt8 := [15, 17, 19, 30, 31, 37]

/-- The known extension that an identifier names. -/
def known? (identifier : Bytes) : Option UInt8 :=
  match identifier with
  | [0x55, 0x1D, last] => if knownExtensions.contains last then some last else none
  | _ => none

/-- Looks through extensions: an unknown one must not be critical, a known one occurs once. -/
def checkExtensions (seen : List UInt8) : List Der.Element → Bool
  | [] => true
  | extension :: rest =>
    match Der.elements? 4 extension.content with
    | some (identifier :: fields) =>
      let (critical, value) :=
        match fields with
        | [value] => (some false, some value)
        | [flag, value] =>
          (if flag.tag = Der.booleanTag && flag.content = [0xFF] then some true
            else if flag.tag = Der.booleanTag && flag.content = [0] then some false else none,
            some value)
        | _ => (none, none)
      let tagged := extension.tag = Der.sequenceTag && identifier.tag = Der.identifierTag
      match critical, value, tagged with
      | some critical, some value, true =>
        if value.tag ≠ Der.octetStringTag then false
        else
          match known? identifier.content with
          | none => !critical && checkExtensions seen rest
          | some last =>
            let readable := last = 15 || (Der.only? Der.sequenceTag value.content).isSome
            !seen.contains last && readable && checkExtensions (last :: seen) rest
      | _, _, _ => false
    | _ => false

/-- The parts of a certificate of the third version. -/
def parts? (bytes : Bytes) : Option (Bytes × Parts) := do
  let (version, rest) ← Der.expect? (Der.contextTag 0) bytes
  let number ← Der.only? Der.integerTag version
  if number ≠ [2] then none
  let (_, rest) ← Der.expect? Der.integerTag rest
  let (algorithm, rest) ← skipNames rest
  let (publicKey, rest) ← Der.expect? Der.sequenceTag rest
  return (algorithm, ⟨publicKey, rest⟩)

/-- The signed part of a certificate, and the algorithm of the signature. -/
def signed? (bytes : Bytes) : Option (Bytes × Bytes) := do
  let content ← Der.only? Der.sequenceTag bytes
  let (signed, rest) ← Der.expect? Der.sequenceTag content
  let (algorithm, rest) ← Der.expect? Der.sequenceTag rest
  let signature ← Der.only? Der.bitStringTag rest
  if signature.head? ≠ some 0 then none
  return (signed, algorithm)

/-- The public key of a certificate of the third version, if it can be read. -/
def publicKey? (bytes : Bytes) : Option Bytes := do
  let (signed, algorithm) ← signed? bytes
  let (innerAlgorithm, parts) ← parts? signed
  if innerAlgorithm ≠ algorithm then none
  if parts.rest.isEmpty then return parts.publicKey
  let extensions ← Der.only? (Der.contextTag 3) parts.rest
  let list ← Der.only? Der.sequenceTag extensions
  if list.isEmpty then none
  let elements ← Der.elements? list.length list
  if checkExtensions [] elements then return parts.publicKey else none

/-- Whether octets are a certificate of the first version. -/
def isFirstVersion (bytes : Bytes) : Bool :=
  (do
    let (signed, _) ← signed? bytes
    let (_, rest) ← Der.expect? Der.integerTag signed
    let (_, rest) ← skipNames rest
    Der.only? Der.sequenceTag rest).isSome

/-- Whether octets are a certificate that can be trusted as a root. -/
def isRoot (bytes : Bytes) : Bool :=
  (publicKey? bytes).isSome || isFirstVersion bytes

end Certificate
end PodCommand
