import TrustPath.Policy.Tree

/-!
# Processing of policies

Policies are processed along a path from the anchor's side down to the target. The state is the
tree of valid policies, which is gone once it is empty, and three counters: how many more
certificates may pass before an explicit policy is required, before policy mapping is inhibited,
and before `anyPolicy` is inhibited. Certificates that their subject issued itself do not count.
-/

namespace TrustPath

/-- The state between two certificates. -/
structure PolicyState where
  tree : Option PolicyTree
  explicitPolicy : Nat
  policyMapping : Nat
  inhibitAnyPolicy : Nat

namespace PolicyState

/-- The tree, unless it is empty. -/
def kept (tree : PolicyTree) : Option PolicyTree := if tree.isEmpty then none else some tree

/-- The state in front of a path of `n` certificates: a counter that is not set from the start
exceeds the length of the path. -/
def start (parameters : PolicyParameters) (n : Nat) : PolicyState :=
  { tree := some .initial
    explicitPolicy := if parameters.explicitPolicyRequired then 0 else n + 1
    policyMapping := if parameters.policyMappingInhibited then 0 else n + 1
    inhibitAnyPolicy := if parameters.anyPolicyInhibited then 0 else n + 1 }

/-- Whether `anyPolicy` in a certificate counts: a self-issued one above the target may always
use it. -/
def anyAllowed (s : PolicyState) (statement : PolicyStatement) (isTarget : Bool) : Bool :=
  decide (0 < s.inhibitAnyPolicy) || (!isTarget && statement.selfIssued)

/-- Grow the tree by the policies of a certificate; without policies the tree is gone. -/
def assert (s : PolicyState) (statement : PolicyStatement) (isTarget : Bool)
    (policies : Option (List String)) : PolicyState :=
  let grow (policies : List String) (tree : PolicyTree) : Option PolicyTree :=
    kept (tree.addLevel policies (s.anyAllowed statement isTarget)).prune
  { s with tree := policies.bind fun ps => s.tree.bind (grow ps) }

def lacksPolicy (s : PolicyState) : Bool := s.explicitPolicy = 0 && s.tree.isNone

def map (s : PolicyState) (mappings : PolicyMappings) : PolicyState :=
  let apply (tree : PolicyTree) : Option PolicyTree :=
    kept (tree.applyMappings mappings (decide (0 < s.policyMapping)))
  if mappings.isEmpty then s else { s with tree := s.tree.bind apply }

def limit (counter : Nat) (bound : Option Nat) : Nat :=
  match bound with
  | some b => min counter b
  | none => counter

def count (s : PolicyState) (statement : PolicyStatement) : PolicyState :=
  let step := if statement.selfIssued then 0 else 1
  { s with
    explicitPolicy := limit (s.explicitPolicy - step) statement.requireExplicit
    policyMapping := limit (s.policyMapping - step) statement.inhibitMapping
    inhibitAnyPolicy := limit (s.inhibitAnyPolicy - step) statement.inhibitAnyPolicy }

/-- Process the policies of the certificate at a position. -/
def enter (s : PolicyState) (statement : PolicyStatement) (position : Nat) (isTarget : Bool) :
    Except PolicyFault PolicyState := do
  let s := s.assert statement isTarget (← statement.policies)
  if s.lacksPolicy then throw (.noneAt position) else return s

def leave (s : PolicyState) (statement : PolicyStatement) : Except PolicyFault PolicyState := do
  return (s.map (← statement.mappings)).count statement

/-- Process the certificates of a path, the first of which stands at a position. The last one is
the target, and after it the state is left as it is. -/
def run (s : PolicyState) (position : Nat) :
    List PolicyStatement → Except PolicyFault PolicyState
  | [] => .ok s
  | [target] => s.enter target position true
  | statement :: rest => do
    let s ← s.enter statement position false
    (← s.leave statement).run (position + 1) rest

/-- Whether the final state is acceptable: no explicit policy is required, or the tree outlives
the intersection with the acceptable policies. -/
def isAcceptable (s : PolicyState) (acceptable : TextSet) (target : Option PolicyStatement) :
    Bool :=
  let demanded := s.explicitPolicy - 1 = 0 ∨ target.any (·.requireExplicit = some 0)
  let tree := s.tree.bind fun tree => kept (tree.intersect acceptable)
  !demanded || tree.isSome

end PolicyState

/-- Process the policies of a path, the anchor's side first. -/
def processPolicies (path : List PolicyStatement) (parameters : PolicyParameters) :
    Except PolicyFault Unit := do
  let s ← (PolicyState.start parameters path.length).run 1 path
  if s.isAcceptable parameters.initialPolicies path.getLast? then return ()
  else throw .noneAcceptable

end TrustPath
