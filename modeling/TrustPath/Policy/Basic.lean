import TrustPath.Certificate.Basic
import TrustPath.TextSet

/-!
# Certificate policies

What a certificate says about policies, read from its extensions: the policies it asserts, how
the policies of its issuer map to those of its subject, and when an explicit policy is required,
mapping is inhibited or `anyPolicy` no longer counts. A policy is the dotted form of an object
identifier.
-/

namespace TrustPath

/-- The policy that stands for every policy. -/
def anyPolicy : String := "2.5.29.32.0"

/-- Where processing starts from: the acceptable policies (none given means every policy) and
three switches. -/
structure PolicyParameters where
  initialPolicies : TextSet
  explicitPolicyRequired : Bool
  policyMappingInhibited : Bool
  anyPolicyInhibited : Bool

/-- Why processing of policies fails. -/
inductive PolicyFault
  | undecodable
  | anyPolicyMapped
  | noneAt (position : Nat)
  | noneAcceptable
deriving Repr, DecidableEq

def PolicyFault.message : PolicyFault → String
  | .undecodable => "invalid certificate policies extension: the value is malformed"
  | .anyPolicyMapped => "policy mapping to or from anyPolicy"
  | .noneAt position =>
    "no acceptable policy at certificate " ++ toString position ++ " of the path"
  | .noneAcceptable => "no valid policy satisfies the acceptable initial policies"

/-- Mappings by policy of the issuer, in the order of those policies. -/
abbrev PolicyMappings := List (String × TextSet)

namespace PolicyMappings

/-- Group pairs by their first policy. -/
def ofPairs (pairs : List (String × String)) : PolicyMappings :=
  (TextSet.ofList (pairs.map (·.1))).toList.map fun issuer =>
    (issuer, TextSet.ofList ((pairs.filter (·.1 = issuer)).map (·.2)))

def maps (mappings : PolicyMappings) (policy : String) : Bool := mappings.any (·.1 = policy)

end PolicyMappings

/-- What a certificate says about policies. -/
structure PolicyStatement where
  selfIssued : Bool
  policies : Except PolicyFault (Option (List String))
  mappings : Except PolicyFault PolicyMappings
  requireExplicit : Option Nat
  inhibitMapping : Option Nat
  inhibitAnyPolicy : Option Nat

namespace PolicyStatement

/-- The policies that extensions assert, if they assert any. The first extension that holds
policies decides, whether they can be read or not. -/
def policiesOf : List Extension → Except PolicyFault (Option (List String))
  | [] => .ok none
  | ext :: rest =>
    match ext.content with
    | .certificatePolicies policies => .ok (some (policies.map Oid.dotted))
    | .undecodable =>
      if ext.oid = Extension.certificatePoliciesOid then .error .undecodable else policiesOf rest
    | _ => policiesOf rest

/-- The pairs of mapped policies in all extensions. -/
def pairsOf (extensions : List Extension) : List (String × String) :=
  extensions.flatMap fun ext => match ext.content with
    | .policyMappings mappings =>
      mappings.map fun (issuer, subject) => (issuer.dotted, subject.dotted)
    | _ => []

/-- The mappings in all extensions; none may be from or to `anyPolicy`. -/
def mappingsOf (extensions : List Extension) : Except PolicyFault PolicyMappings :=
  let pairs := pairsOf extensions
  if pairs.any fun (issuer, subject) => issuer == anyPolicy || subject == anyPolicy then
    .error .anyPolicyMapped
  else .ok (PolicyMappings.ofPairs pairs)

/-- The two constraints of the first extension that has them. -/
def constraintsOf (extensions : List Extension) : Option Nat × Option Nat :=
  (extensions.findSome? fun ext => match ext.content with
    | .policyConstraints requireExplicit inhibitMapping => some (requireExplicit, inhibitMapping)
    | _ => none).getD (none, none)

/-- The count after which `anyPolicy` is inhibited, from the first extension that has one. -/
def inhibitAnyPolicyOf (extensions : List Extension) : Option Nat :=
  extensions.findSome? fun ext => match ext.content with
    | .inhibitAnyPolicy skip => some skip
    | _ => none

def ofCertificate (c : Certificate) : PolicyStatement :=
  { selfIssued := c.isSelfIssued
    policies := policiesOf c.extensions
    mappings := mappingsOf c.extensions
    requireExplicit := (constraintsOf c.extensions).1
    inhibitMapping := (constraintsOf c.extensions).2
    inhibitAnyPolicy := inhibitAnyPolicyOf c.extensions }

end PolicyStatement

end TrustPath
