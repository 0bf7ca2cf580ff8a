import TrustPath.Crl
import TrustPath.Log

/-!
# Revocation

The status of a certificate under its issuer is read off the revocation lists at hand. A list
counts if it names the issuer, is current, has no critical extension that is not understood, and
is signed by the issuer's key. A certificate is revoked if a list that counts names its serial
number, good if some list counts and none names it, and undetermined if no list counts.

How a signature is checked is a parameter (`holds`), so that what is said here holds for every way
of checking.
-/

namespace TrustPath

/-- What revocation lists say about a certificate. -/
inductive RevocationStatus
  | good
  | revoked
  | undetermined
deriving Repr, DecidableEq

/-- Why a list that names the issuer does not count. -/
inductive CrlObstacle
  | notYetValid
  | outdated
  | unsupportedCritical (oid : Oid)
  | badSignature
deriving Repr, DecidableEq

def CrlObstacle.message : CrlObstacle → String
  | .notYetValid => "skipping CRL that is not yet valid"
  | .outdated => "skipping CRL whose nextUpdate is in the past"
  | .unsupportedCritical oid =>
    "skipping CRL with unsupported critical extension " ++ oid.dotted
  | .badSignature => "skipping CRL whose signature does not verify under the issuer's key"

namespace Crl

/-- The extensions of a list that may be critical: its number and the issuer's key identifier. -/
def supportedCritical : List String := ["2.5.29.20", "2.5.29.35"]

/-- The first critical extension that is not understood. -/
def unsupported? (crl : Crl) : Option Extension :=
  crl.extensions.find? fun ext => ext.critical && !supportedCritical.contains ext.oid.dotted

/-- The first obstacle to using a list at a time under a key. -/
def obstacle? (holds : Signed → PublicKey → Bool) (crl : Crl) (key : PublicKey) (now : Int) :
    Option CrlObstacle :=
  if now < crl.thisUpdate.timestamp then some .notYetValid
  else if crl.isExpired now then some .outdated
  else match crl.unsupported? with
    | some ext => some (.unsupportedCritical ext.oid)
    | none => if holds crl.signed key then none else some .badSignature

def revokes (crl : Crl) (serial : Octets) : Bool := crl.revoked.contains serial

end Crl

namespace Revocation

/-- Whether the issuer's key may sign revocation lists; usage that cannot be read allows it. -/
def maySignCrls (issuer : Certificate) : Bool :=
  match issuer.keyUsage with
  | .ok (some (_, crlSign)) => crlSign
  | _ => true

/-- Go through the lists with the status found so far. The first list that counts and names the
serial number ends the search. -/
def statusFrom (holds : Signed → PublicKey → Bool) (c issuer : Certificate) (now : Int)
    (status : RevocationStatus) : List Crl → RevocationStatus × List LogLine
  | [] => (status, [])
  | crl :: rest =>
    if crl.issuer == c.issuer then
      match crl.obstacle? holds issuer.publicKey now with
      | some obstacle =>
        let (final, lines) := statusFrom holds c issuer now status rest
        (final, ⟨.trace, obstacle.message⟩ :: lines)
      | none =>
        if crl.revokes c.serial then (.revoked, [])
        else statusFrom holds c issuer now .good rest
    else statusFrom holds c issuer now status rest

/-- The status of a certificate under its issuer, with the lines that say which lists were passed
over. -/
def status (holds : Signed → PublicKey → Bool) (c issuer : Certificate) (crls : List Crl)
    (now : Int) : RevocationStatus × List LogLine :=
  if maySignCrls issuer then statusFrom holds c issuer now .undetermined crls
  else (.undetermined, [⟨.trace, "issuer key usage does not permit CRL signing"⟩])

end Revocation

end TrustPath
