/-!
# Errors

The ways in which the evaluation of trust can fail. A negative decision is not among them: names
that do not match, or a path that cannot be built, are answers.
-/

namespace TrustPath

/-- A failure, with a detail in words where the cause has one. -/
inductive TrustError
  | noTrustAnchors
  | invalidCertificate (detail : String)
  | invalidCrl (detail : String)
  | resolutionFailed (detail : String)
  | cryptoLibrary (detail : String)
  | badParam (detail : String)
deriving Repr, DecidableEq

namespace TrustError

def message : TrustError → String
  | .noTrustAnchors => "no trust anchors were found in the PKIX validation information"
  | .invalidCertificate detail => "the certificate is invalid: " ++ detail
  | .invalidCrl detail => "the CRL is invalid: " ++ detail
  | .resolutionFailed detail => "unable to resolve trust information: " ++ detail
  | .cryptoLibrary detail => "an error was reported by the cryptography library: " ++ detail
  | .badParam detail => "bad parameter: " ++ detail

/-- Whether the failure only spoils the validation information it arose from, so that another
set of information may still be tried. -/
def isRecoverable : TrustError → Bool
  | .noTrustAnchors | .invalidCertificate _ | .invalidCrl _ => true
  | .resolutionFailed _ | .cryptoLibrary _ | .badParam _ => false

end TrustError

end TrustPath
