import TrustPath.NameConstraint.Check
import TrustPath.Policy.Processing
import TrustPath.Revocation

/-!
# Candidate paths

A candidate is a list of certificates that leads from one that an anchor issued down to the
target. Here is what makes a candidate acceptable: every certificate is valid at the time and has
no critical extension that is not understood; every one above the target may sign certificates and
keeps the limits on the length of the path; names keep the constraints set above them; the
policies are acceptable; and, if revocation is checked, no certificate is revoked or of
undetermined status. The first fault is the reason for rejecting the candidate.
-/

namespace TrustPath

/-- What the search for a path and the checks of candidates depend on besides the material. A
negative length sets no limit. -/
structure PathParameters where
  maxPathLength : Int
  revocationEnabled : Bool
  policy : PolicyParameters
  now : Int

/-- The limit on the number of issuers between target and anchor that did not issue themselves, if
there is one. -/
def PathParameters.lengthLimit (p : PathParameters) : Option Nat :=
  if p.maxPathLength < 0 then none else some p.maxPathLength.toNat

/-- What is wrong with a certificate in a candidate. -/
inductive CertificateFault
  | notYetValid
  | expired
  | unsupportedCritical (oid : Oid)
  | notAuthority
  | invalidBasicConstraints (fault : ExtensionFault)
  | pathTooLong
  | mayNotSign
  | invalidKeyUsage (fault : ExtensionFault)
  | invalidNameConstraints (fault : ExtensionFault)
  | name (violation : NameViolation)
  | policy (fault : PolicyFault)
  | revoked
  | undetermined

def CertificateFault.message : CertificateFault → String
  | .notYetValid => "certificate is not yet valid"
  | .expired => "certificate has expired"
  | .unsupportedCritical oid => "unsupported critical extension " ++ oid.dotted
  | .notAuthority => "issuer is not a CA certificate"
  | .invalidBasicConstraints fault => "invalid basic constraints: " ++ fault.message
  | .pathTooLong => "path length constraint exceeded"
  | .mayNotSign => "key usage does not permit certificate signing"
  | .invalidKeyUsage fault => "invalid key usage: " ++ fault.message
  | .invalidNameConstraints fault => "invalid name constraints: " ++ fault.message
  | .name violation => violation.message
  | .policy fault => fault.message
  | .revoked => "certificate has been revoked"
  | .undetermined => "could not determine revocation status"

/-- Why a candidate, or a partial path, is rejected. -/
inductive Rejection
  | pathTooLong
  | certificate (subject : DistinguishedName) (fault : CertificateFault)

/-- The rejection in words, with the subject of the certificate at fault. -/
def Rejection.message : Rejection → String
  | .pathTooLong => "maximum path length exceeded"
  | .certificate subject fault => fault.message ++ " (" ++ toString subject ++ ")"

namespace Certificate

/-- The rejection of a candidate for a fault of this certificate. -/
def rejectFor (c : Certificate) (fault : CertificateFault) : Except Rejection Unit :=
  .error (.certificate c.subject fault)

/-- The extensions that path validation understands. -/
def supportedCritical : List String :=
  ["2.5.29.14", "2.5.29.15", "2.5.29.17", "2.5.29.19", "2.5.29.30", "2.5.29.32", "2.5.29.33",
   "2.5.29.35", "2.5.29.36", "2.5.29.37", "2.5.29.54"]

/-- The first critical extension that is not understood. -/
def unsupported? (c : Certificate) : Option Extension :=
  c.extensions.find? fun ext => ext.critical && !supportedCritical.contains ext.oid.dotted

def checkValidity (c : Certificate) (now : Int) : Except Rejection Unit :=
  if now < c.notBefore.timestamp then c.rejectFor .notYetValid
  else if c.notAfter.timestamp < now then c.rejectFor .expired
  else .ok ()

/-- Check that every critical extension is understood. -/
def checkCritical (c : Certificate) : Except Rejection Unit :=
  match c.unsupported? with
  | some ext => c.rejectFor (.unsupportedCritical ext.oid)
  | none => .ok ()

/-- Check what every certificate of a path has to satisfy on its own. -/
def checkAlone (c : Certificate) (now : Int) : Except Rejection Unit := do
  c.checkValidity now
  c.checkCritical

/-- Check that a key may sign certificates, unless its usage is not restricted. -/
def checkMaySign (c : Certificate) : Except Rejection Unit :=
  match c.keyUsage with
  | .ok (some (certSign, _)) => if certSign then .ok () else c.rejectFor .mayNotSign
  | .ok none => .ok ()
  | .error fault => c.rejectFor (.invalidKeyUsage fault)

/-- Check that a certificate belongs to a certification authority; the answer is its limit on the
authorities below it, if it sets one. -/
def checkAuthority (c : Certificate) : Except Rejection (Option Nat) :=
  match c.basicConstraints with
  | .ok (some (true, limit)) => .ok limit
  | .ok _ => .error (.certificate c.subject .notAuthority)
  | .error fault => .error (.certificate c.subject (.invalidBasicConstraints fault))

end Certificate

namespace Candidate

/-- The stricter of two limits, of which none is the laxest. -/
def stricter : Option Nat → Option Nat → Option Nat
  | none, limit => limit
  | limit, none => limit
  | some a, some b => some (min a b)

/-- Use up one step of what remains, unless the certificate issued itself. -/
def spend (remaining : Option Nat) (c : Certificate) : Except Rejection (Option Nat) :=
  if c.isSelfIssued then .ok remaining
  else match remaining with
    | some 0 => .error (.certificate c.subject .pathTooLong)
    | some (n + 1) => .ok (some n)
    | none => .ok none

/-- Check the certificates above the target, the anchor's side first, with the number of
authorities that may still follow. -/
def checkAuthorities (remaining : Option Nat) : List Certificate → Except Rejection Unit
  | [] => .ok ()
  | ca :: rest => do
    let limit ← ca.checkAuthority
    let remaining ← spend remaining ca
    ca.checkMaySign
    checkAuthorities (stricter remaining limit) rest

/-- Check the names of the certificates below an authority: those that issued themselves are
exempt, but not the target, which is the last. -/
def checkNames (constraints : NameConstraints) : List Certificate → Except Rejection Unit
  | [] => .ok ()
  | c :: rest =>
    if c.isSelfIssued && !rest.isEmpty then checkNames constraints rest
    else match constraints.violation? c with
      | some violation => c.rejectFor (.name violation)
      | none => checkNames constraints rest

/-- Check the constraints that the certificates above the target set on the names below them. -/
def checkAllNames : List Certificate → Except Rejection Unit
  | [] => .ok ()
  | [_] => .ok ()
  | ca :: below => do
    match ca.nameConstraints with
    | .ok (some constraints) => checkNames constraints below
    | .ok none => pure ()
    | .error fault => ca.rejectFor (.invalidNameConstraints fault)
    checkAllNames below

/-- Check the policies; a fault counts against the target. -/
def checkPolicies (path : List Certificate) (target : Certificate) (parameters : PolicyParameters) :
    Except Rejection Unit :=
  match processPolicies (path.map PolicyStatement.ofCertificate) parameters with
  | .ok _ => .ok ()
  | .error fault => target.rejectFor (.policy fault)

/-- Check the revocation status of every certificate of a path, the target first, each under the
next one and the last one under the anchor. -/
def checkRevocation (holds : Signed → PublicKey → Bool) (crls : List Crl) (now : Int)
    (anchor : Certificate) : List Certificate → Except Rejection Unit × List LogLine
  | [] => (.ok (), [])
  | c :: rest =>
    let (status, lines) := Revocation.status holds c (rest.headD anchor) crls now
    match status with
    | .revoked => (c.rejectFor .revoked, lines)
    | .undetermined => (c.rejectFor .undetermined, lines)
    | .good =>
      let (result, more) := checkRevocation holds crls now anchor rest
      (result, lines ++ more)

/-- The checks that do not log: everything but revocation. The candidate is the list of the
certificates above the target, the anchor's side first, and the target. -/
def checkPath (above : List Certificate) (target : Certificate) (parameters : PathParameters) :
    Except Rejection Unit := do
  let path := above ++ [target]
  path.forM (·.checkAlone parameters.now)
  checkAuthorities parameters.lengthLimit above
  checkAllNames path
  checkPolicies path target parameters.policy

def check (holds : Signed → PublicKey → Bool) (crls : List Crl) (parameters : PathParameters)
    (above : List Certificate) (target anchor : Certificate) :
    Except Rejection Unit × List LogLine :=
  match checkPath above target parameters with
  | .error rejection => (.error rejection, [])
  | .ok _ =>
    if parameters.revocationEnabled then
      checkRevocation holds crls parameters.now anchor (target :: above.reverse)
    else (.ok (), [])

end Candidate

end TrustPath
