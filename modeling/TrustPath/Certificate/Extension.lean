import TrustPath.Certificate.GeneralName

/-!
# Extensions

An extension has a type, a flag that says whether it may be ignored, and a value. The values that
path validation uses are decoded here. A value of one of those types that does not decode is kept
as such: the extension is there, but nothing can be read from it. Octets after a value are
passed over.
-/

namespace TrustPath

/-- Limits that a certification authority puts on the names below it, as lists of subtrees. -/
structure NameConstraints where
  permitted : Option (List GeneralName)
  excluded : Option (List GeneralName)
deriving Repr

/-- What an extension says. -/
inductive ExtensionContent
  | basicConstraints (ca : Bool) (pathLength : Option Nat)
  | keyUsage (certSign crlSign : Bool)
  | subjectAltName (names : List GeneralName)
  | nameConstraints (constraints : NameConstraints)
  | certificatePolicies (policies : List Oid)
  | policyMappings (mappings : List (Oid × Oid))
  | policyConstraints (requireExplicit inhibitMapping : Option Nat)
  | inhibitAnyPolicy (skip : Nat)
  | undecodable
  | other
deriving Repr

/-- An extension of a certificate or of a revocation list. -/
structure Extension where
  oid : Oid
  critical : Bool
  content : ExtensionContent
deriving Repr

namespace Extension

/-- The object identifier `2.5.29.n` of a standard extension, for `n` below 128. -/
def standard (n : UInt8) : Oid := ⟨[0x55, 0x1d, n]⟩

def keyUsageOid : Oid := standard 15
def subjectAltNameOid : Oid := standard 17
def basicConstraintsOid : Oid := standard 19
def nameConstraintsOid : Oid := standard 30
def certificatePoliciesOid : Oid := standard 32
def policyMappingsOid : Oid := standard 33
def policyConstraintsOid : Oid := standard 36
def inhibitAnyPolicyOid : Oid := standard 54

/-! ## Values -/

/-- The truth value that a constraint gives: one octet, any but zero meaning true. -/
def truth? (e : Der.Element) : Option Bool :=
  if e.tag = 1 ∧ e.header.tagClass = .universal then
    match e.content with
    | [b] => some (b != 0)
    | _ => none
  else none

def pathLength? (e : Der.Element) : Option Nat :=
  if e.tag = 2 ∧ e.header.tagClass = .universal then
    match e.content with
    | 0 :: 0 :: _ => none
    | content => Der.word? content
  else none

/-- Basic constraints: a flag, a path length, both or neither. -/
def readBasicConstraints : Der.Reader ExtensionContent :=
  Der.sequence fun input => do
    let (parts, rest) ← Der.whole (Der.many Der.element) input
    match parts with
    | [] => return (.basicConstraints false none, rest)
    | [e] => match truth? e, pathLength? e with
      | some ca, _ => return (.basicConstraints ca none, rest)
      | none, some n => return (.basicConstraints false (some n), rest)
      | none, none => throw .malformed
    | [e, f] => match truth? e, pathLength? f with
      | some ca, some n => return (.basicConstraints ca (some n), rest)
      | _, _ => throw .malformed
    | _ => throw .malformed

/-- The usage bits of a key: of the first octet, the bit for signing certificates and the bit for
signing revocation lists. The unused bits at the end are zero. -/
def keyUsageOf? (content : Octets) : Option ExtensionContent :=
  match content with
  | [] => none
  | unused :: bits =>
    let clean : Bool := match bits.getLast? with
      | some last => last.toNat % Nat.pow 2 unused.toNat == 0
      | none => true
    if unused.toNat ≤ 7 ∧ clean then
      let first := (bits.headD 0).toNat
      some (.keyUsage (first / 4 % 2 = 1) (first / 2 % 2 = 1))
    else none

def readKeyUsage : Der.Reader ExtensionContent :=
  Der.mapOption (fun e => keyUsageOf? e.content) (Der.primitiveOf 3)

/-- Alternative names of the subject; one that cannot be read spoils them all. -/
def readSubjectAltName : Der.Reader ExtensionContent :=
  Der.sequence fun input => do
    let (names, rest) ← Der.whole (Der.many GeneralName.read) input
    return (.subjectAltName names, rest)

/-- A list of subtrees under a tag. Only the base of a subtree counts. -/
def readSubtrees (tag : Nat) : Der.Reader (List GeneralName) :=
  Der.within tag (Der.whole (Der.many (Der.sequence GeneralName.read)))

/-- Name constraints: permitted and excluded subtrees. -/
def readNameConstraints : Der.Reader ExtensionContent :=
  Der.sequence fun input => do
    let (permitted, rest) ← Der.optional (readSubtrees 0) input
    let (excluded, rest) ← Der.optional (readSubtrees 1) rest
    return (.nameConstraints ⟨permitted, excluded⟩, rest)

/-- Policies; the qualifiers of a policy are passed over. -/
def readCertificatePolicies : Der.Reader ExtensionContent :=
  Der.sequence fun input => do
    let (policies, rest) ← Der.whole (Der.many (Der.sequence Oid.readTagged)) input
    return (.certificatePolicies policies, rest)

def readMapping : Der.Reader (Oid × Oid) :=
  Der.sequence fun input => do
    let (issuer, rest) ← Oid.readTagged input
    let (subject, rest) ← Der.whole Oid.readTagged rest
    return ((issuer, subject), rest)

def readPolicyMappings : Der.Reader ExtensionContent :=
  Der.sequence fun input => do
    let (mappings, rest) ← Der.whole (Der.many readMapping) input
    return (.policyMappings mappings, rest)

def readTaggedWord (tag : Nat) : Der.Reader Nat :=
  Der.mapOption (fun e => match e.content with
    | 0 :: 0 :: _ => none
    | content => Der.word? content) (Der.elementOf tag)

/-- Policy constraints: each part is a number or absent. -/
def readPolicyConstraints : Der.Reader ExtensionContent :=
  Der.sequence fun input => do
    let (requireExplicit, rest) ← Der.optional (readTaggedWord 0) input
    let (inhibitMapping, rest) ← Der.whole (Der.optional (readTaggedWord 1)) rest
    return (.policyConstraints requireExplicit inhibitMapping, rest)

/-- The number of certificates after which `anyPolicy` no longer counts. -/
def readInhibitAnyPolicy : Der.Reader ExtensionContent := fun input => do
  let (skip, rest) ← Der.word input
  return (.inhibitAnyPolicy skip, rest)

/-- The reader for values of an extension type that path validation uses. -/
def contentReader? (oid : Oid) : Option (Der.Reader ExtensionContent) :=
  if oid = basicConstraintsOid then some readBasicConstraints
  else if oid = keyUsageOid then some readKeyUsage
  else if oid = subjectAltNameOid then some readSubjectAltName
  else if oid = nameConstraintsOid then some readNameConstraints
  else if oid = certificatePoliciesOid then some readCertificatePolicies
  else if oid = policyMappingsOid then some readPolicyMappings
  else if oid = policyConstraintsOid then some readPolicyConstraints
  else if oid = inhibitAnyPolicyOid then some readInhibitAnyPolicy
  else none

def decode (oid : Oid) (value : Octets) : ExtensionContent :=
  match contentReader? oid with
  | none => .other
  | some read => match read value with
    | .ok (content, _) => content
    | .error _ => .undecodable

/-! ## Reading -/

def read : Der.Reader Extension :=
  Der.sequence fun input => do
    let (oid, rest) ← Oid.read input
    let (critical, rest) ← Der.optional Der.boolean rest
    let (value, rest) ← Der.octetString rest
    return (⟨oid, critical.getD false, decode oid value⟩, rest)

/-- Read a sequence of extensions that holds nothing else. -/
def readAll : Der.Reader (List Extension) := Der.sequence (Der.whole (Der.many read))

/-- Read the optional extensions at the end of a structure, under an explicit tag; nothing follows
them. -/
def readTrailing (tag : Nat) : Der.Reader (List Extension) := fun input =>
  if input.isEmpty then .ok ([], input)
  else do
    let (header, rest) ← Der.header input
    if header.tag = tag then Der.whole readAll rest else throw .malformed

end Extension

end TrustPath
