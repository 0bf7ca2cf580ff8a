import TrustPath.TextSet

/-!
# Criteria

The criteria of a request say who the entity is and which names are trusted for this request. The
engine only hands them on to the resolver.
-/

namespace TrustPath

/-- The criteria of a request, each of which may be missing. -/
structure Criteria where
  entityId : Option String := none
  trustedNames : Option TextSet := none
deriving Repr, DecidableEq

def Criteria.isEmpty (criteria : Criteria) : Bool :=
  criteria.entityId.isNone && criteria.trustedNames.isNone

end TrustPath
