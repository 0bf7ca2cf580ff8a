import TrustPath.Certificate.Basic

/-!
# Revocation lists

A revocation list names its issuer, the time it was made, the time the next one is due, and the
serial numbers of revoked certificates.
-/

namespace TrustPath

/-- A decoded revocation list. -/
structure Crl where
  der : Octets
  issuer : DistinguishedName
  thisUpdate : Time
  nextUpdate : Option Time
  revoked : List Octets
  extensions : List Extension
  signed : Signed
deriving Repr

namespace Crl

/-- Read an entry: a serial number, a time and optional extensions, of which only the number is
kept. -/
def readEntry : Der.Reader Octets :=
  Der.sequence fun input => do
    let (serial, rest) ← Der.elementOf 2 input
    let (_, rest) ← Time.read rest
    let (_, rest) ← Der.optional Extension.readAll rest
    return (serial.content, rest)

def readEntries : Der.Reader (List Octets) := Der.sequence (Der.whole (Der.many readEntry))

/-- Read the optional time of the next list: another element means there is none, a time that
makes no sense is a fault. -/
def readNextUpdate : Der.Reader (Option Time) := fun input =>
  if input.isEmpty then .ok (none, input)
  else match Time.read input with
    | .ok (t, rest) => .ok (some t, rest)
    | .error e => match Der.header input with
      | .ok (header, _) => if header.tag = 23 ∨ header.tag = 24 then .error e else .ok (none, input)
      | .error e => .error e

def readBody (der : Octets) : Der.Reader (AlgorithmIdentifier → Octets → Crl) := fun input => do
  let (e, rest) ← Der.elementOf 16 input
  let (_, body) ← Der.optional Der.word e.content
  let (_, body) ← AlgorithmIdentifier.read body
  let (issuer, body) ← DistinguishedName.read body
  let (thisUpdate, body) ← Time.read body
  let (nextUpdate, body) ← readNextUpdate body
  let (revoked, body) ← Der.optional readEntries body
  let (extensions, body) ← Extension.readTrailing 0 body
  let message := e.header.octets ++ e.content.take (e.content.length - body.length)
  return (fun algorithm signature =>
    ⟨der, issuer, thisUpdate, nextUpdate, revoked.getD [], extensions,
      ⟨algorithm, message, signature⟩⟩, rest)

def read (der : Octets) : Der.Reader Crl :=
  Der.sequence fun input => do
    let (crl, rest) ← readBody der input
    let (algorithm, rest) ← AlgorithmIdentifier.read rest
    let (signature, rest) ← Der.bitString rest
    return (crl algorithm signature, rest)

def decode (der : Octets) : Except TrustError Crl :=
  match read der der with
  | .ok (crl, _) => .ok crl
  | .error .truncated => .error (.invalidCrl "the encoding ends too early")
  | .error _ => .error (.invalidCrl "the encoding is malformed")

def isExpired (crl : Crl) (now : Int) : Bool := crl.nextUpdate.any (·.timestamp < now)

end Crl

end TrustPath
