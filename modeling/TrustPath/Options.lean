import TrustPath.TextSet

/-!
# Options of path validation

The options govern how long a path may be, which revocation lists are used, whether revocation is
checked, and how policies are processed. They start from defaults and are changed one at a time.
-/

namespace TrustPath

/-- The options of path validation. A negative depth sets no limit. Revocation is checked as
`revocationEnabled` says if that is forced, and otherwise if there are revocation lists. -/
structure ValidationOptions where
  defaultVerificationDepth : Int := 1
  processEmptyCrls : Bool := true
  processExpiredCrls : Bool := true
  processCredentialCrls : Bool := true
  forceRevocationEnabled : Bool := false
  revocationEnabled : Bool := true
  policyMappingInhibited : Bool := false
  anyPolicyInhibited : Bool := false
  initialPolicies : TextSet := .empty
deriving Repr, DecidableEq

/-- Check revocation always or never, whatever lists there are. -/
def ValidationOptions.forceRevocation (options : ValidationOptions) (enabled : Bool) :
    ValidationOptions :=
  { options with forceRevocationEnabled := true, revocationEnabled := enabled }

end TrustPath
