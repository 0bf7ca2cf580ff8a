import TrustPath.Octets

/-!
# Validation information

A set of validation information is what a credential is validated against: the encodings of trust
anchors and revocation lists, and possibly a limit on the length of paths. The encodings are read
when the information is used, so that malformed ones spoil no other set.
-/

namespace TrustPath

/-- Trust anchors, revocation lists and a greatest depth, negative for no limit. -/
structure ValidationInfo where
  anchors : List Octets
  crls : List Octets
  depth : Option Int
deriving Repr, DecidableEq

end TrustPath
