import TrustPath.Certificate.Extension
import TrustPath.Der.Time
import TrustPath.Error

/-!
# Certificates

A certificate is decoded from its DER form, which is kept beside what was read of it. Octets
after the certificate are passed over. The accessors of extensions fail where the extension occurs
twice and, for some types, where its value could not be decoded.
-/

namespace TrustPath

/-- An algorithm with its parameters. -/
structure AlgorithmIdentifier where
  oid : Oid
  parameters : Option Der.Element
deriving Repr, DecidableEq

def AlgorithmIdentifier.read : Der.Reader AlgorithmIdentifier :=
  Der.sequence fun input => do
    let (oid, rest) ← Oid.read input
    if rest.isEmpty then return (⟨oid, none⟩, rest)
    else
      let (parameters, rest) ← Der.element rest
      return (⟨oid, some parameters⟩, rest)

/-- A public key: its algorithm and its bits. -/
structure PublicKey where
  algorithm : AlgorithmIdentifier
  bits : Octets
deriving Repr, DecidableEq

def PublicKey.read : Der.Reader PublicKey :=
  Der.sequence fun input => do
    let (algorithm, rest) ← AlgorithmIdentifier.read input
    let (bits, rest) ← Der.bitString rest
    return (⟨algorithm, bits⟩, rest)

/-- What was signed, with which algorithm, and the signature. -/
structure Signed where
  algorithm : AlgorithmIdentifier
  message : Octets
  signature : Octets
deriving Repr, DecidableEq

/-- A decoded certificate. -/
structure Certificate where
  der : Octets
  serial : Octets
  issuer : DistinguishedName
  notBefore : Time
  notAfter : Time
  subject : DistinguishedName
  publicKey : PublicKey
  extensions : List Extension
  signed : Signed
deriving Repr

/-- Why an extension cannot be used: it occurs twice, or its value does not decode. -/
inductive ExtensionFault
  | duplicate
  | invalid
deriving Repr, DecidableEq

def ExtensionFault.message : ExtensionFault → String
  | .duplicate => "duplicate extensions"
  | .invalid => "invalid extensions"

/-- The extension of a type, if there is one and only one. -/
def uniqueExtension (extensions : List Extension) (oid : Oid) :
    Except ExtensionFault (Option Extension) :=
  match extensions.filter (·.oid = oid) with
  | [] => .ok none
  | [ext] => .ok (some ext)
  | _ => .error .duplicate

namespace Certificate

/-! ## Reading -/

/-- Read the optional version in front of a certificate, a number under the tag 0. -/
def readVersion : Der.Reader Unit := fun input =>
  if input.isEmpty then .ok ((), input)
  else do
    let (e, rest) ← Der.element input
    if e.tag ≠ 0 then return ((), input)
    else if e.header.tagClass ≠ .contextSpecific then throw .malformed
    else
      let _ ← Der.word e.content
      return ((), rest)

/-- Pass over an optional identifier, which has a context-specific tag and is not empty. -/
def skipIdentifier (tag : Nat) : Der.Reader Unit := fun input =>
  match Der.header input with
  | .error _ => if input.isEmpty then .ok ((), input) else .error .malformed
  | .ok (header, _) =>
    if header.tag ≠ tag then .ok ((), input)
    else do
      let (e, rest) ← Der.element input
      if e.header.tagClass = .contextSpecific ∧ !e.content.isEmpty then return ((), rest)
      else throw .malformed

/-- What a certificate says apart from its signature. The octets that are signed run from the
start of this part to the end of what was read of it. -/
def readBody (der : Octets) : Der.Reader (AlgorithmIdentifier → Octets → Certificate) :=
  fun input => do
    let (e, rest) ← Der.elementOf 16 input
    let (_, body) ← readVersion e.content
    let (serial, body) ← Der.elementOf 2 body
    let (_, body) ← AlgorithmIdentifier.read body
    let (issuer, body) ← DistinguishedName.read body
    let ((notBefore, notAfter), body) ← (Der.sequence fun input => do
      let (notBefore, rest) ← Time.read input
      let (notAfter, rest) ← Time.read rest
      return ((notBefore, notAfter), rest)) body
    let (subject, body) ← DistinguishedName.read body
    let (publicKey, body) ← PublicKey.read body
    let (_, body) ← skipIdentifier 1 body
    let (_, body) ← skipIdentifier 2 body
    let (extensions, body) ← Extension.readTrailing 3 body
    let message := e.header.octets ++ e.content.take (e.content.length - body.length)
    return (fun algorithm signature =>
      ⟨der, serial.content, issuer, notBefore, notAfter, subject, publicKey, extensions,
        ⟨algorithm, message, signature⟩⟩, rest)

/-- Read a certificate that stands in the octets `der`. -/
def read (der : Octets) : Der.Reader Certificate :=
  Der.sequence fun input => do
    let (certificate, rest) ← readBody der input
    let (algorithm, rest) ← AlgorithmIdentifier.read rest
    let (signature, rest) ← Der.bitString rest
    return (certificate algorithm signature, rest)

def decode (der : Octets) : Except TrustError Certificate :=
  match read der der with
  | .ok (certificate, _) => .ok certificate
  | .error .truncated => .error (.invalidCertificate "the encoding ends too early")
  | .error _ => .error (.invalidCertificate "the encoding is malformed")

/-! ## Accessors -/

/-- Whether the certificate names itself as its issuer. -/
def isSelfIssued (c : Certificate) : Bool := c.subject == c.issuer

/-- The basic constraints; a value that does not decode counts as absent. -/
def basicConstraints (c : Certificate) : Except ExtensionFault (Option (Bool × Option Nat)) := do
  match ← uniqueExtension c.extensions Extension.basicConstraintsOid with
  | some ⟨_, _, .basicConstraints ca pathLength⟩ => return some (ca, pathLength)
  | _ => return none

/-- The usage of the key: whether it signs certificates, and whether it signs revocation lists. -/
def keyUsage (c : Certificate) : Except ExtensionFault (Option (Bool × Bool)) := do
  match ← uniqueExtension c.extensions Extension.keyUsageOid with
  | some ⟨_, _, .keyUsage certSign crlSign⟩ => return some (certSign, crlSign)
  | some _ => throw .invalid
  | none => return none

def subjectAltName (c : Certificate) : Except ExtensionFault (Option (List GeneralName)) := do
  match ← uniqueExtension c.extensions Extension.subjectAltNameOid with
  | some ⟨_, _, .subjectAltName names⟩ => return some names
  | some _ => throw .invalid
  | none => return none

def nameConstraints (c : Certificate) : Except ExtensionFault (Option NameConstraints) := do
  match ← uniqueExtension c.extensions Extension.nameConstraintsOid with
  | some ⟨_, _, .nameConstraints constraints⟩ => return some constraints
  | some _ => throw .invalid
  | none => return none

/-- The texts of the subject's common names, the most specific first. -/
def commonNames (c : Certificate) : List String := c.subject.valuesOf commonNameOid

/-- The string forms of the alternative names of the given kinds, in the order of the
certificate. -/
def altNames (c : Certificate) (types : List AltNameType) : Except TrustError (List String) :=
  match c.subjectAltName with
  | .error fault => .error (.invalidCertificate fault.message)
  | .ok none => .ok []
  | .ok (some names) =>
    .ok (names.filterMap fun name => if name.type ∈ types then name.text? else none)

/-- The first common name, then the alternative names of the given kinds. -/
def subjectNames (c : Certificate) (types : List AltNameType) :
    Except TrustError (List String) := do
  return c.commonNames.take 1 ++ (← c.altNames types)

end Certificate

end TrustPath
