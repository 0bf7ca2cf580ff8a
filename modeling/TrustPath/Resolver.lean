import TrustPath.Criteria
import TrustPath.Log
import TrustPath.ValidationInfo

/-!
# Resolving trust information

A resolver supplies the sets of validation information for a request and the names that a
credential has to match. The one here always gives the same information. Its trusted names are
joined by the entity's identifier and, if it is set up for that, by the names of the request.
-/

namespace TrustPath

/-- A resolver with fixed material. -/
structure StaticResolver where
  infos : List ValidationInfo
  trustedNames : TextSet
  supportsDynamicTrustedNames : Bool := false
deriving Repr, DecidableEq

namespace StaticResolver

/-- The sets of information, in the order in which they are tried. -/
def resolve (resolver : StaticResolver) (_criteria : Criteria) : List ValidationInfo :=
  resolver.infos

def resolveSingle? (resolver : StaticResolver) (criteria : Criteria) : Option ValidationInfo :=
  (resolver.resolve criteria).head?

def dynamicNames? (resolver : StaticResolver) (criteria : Criteria) : Option TextSet :=
  if resolver.supportsDynamicTrustedNames then criteria.trustedNames else none

def trustedNamesFor (resolver : StaticResolver) (criteria : Criteria) : TextSet :=
  let names := match resolver.dynamicNames? criteria with
    | some dynamic => resolver.trustedNames.union dynamic
    | none => resolver.trustedNames
  match criteria.entityId with
  | some id => names.insert id
  | none => names

/-- The lines about names that are added for a request. -/
def nameLines (resolver : StaticResolver) (criteria : Criteria) : List LogLine :=
  (match resolver.dynamicNames? criteria with
    | some dynamic =>
      [⟨.trace, "adding " ++ toString dynamic.size ++ " dynamically supplied trusted names"⟩]
    | none => [])
  ++ (match criteria.entityId with
    | some id => [⟨.trace, "adding entity ID " ++ id ++ " as a trusted name"⟩]
    | none => [])

def resolveTrustedNames (resolver : StaticResolver) (criteria : Criteria) : Logging TextSet := do
  Logging.lines (resolver.nameLines criteria)
  return resolver.trustedNamesFor criteria

end StaticResolver

end TrustPath
