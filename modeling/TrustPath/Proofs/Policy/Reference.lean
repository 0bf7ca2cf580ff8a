import Mathlib.Data.Finset.Card
import Mathlib.Data.Finset.Union
import TrustPath.Policy.Basic

/-!
# The reference for policy processing

Sections 6.1.2 to 6.1.5 of RFC 5280 step by step, as far as they are
about policies, over what certificates say about policies. The valid
policy tree is an ordinary rooted tree and nothing else: a finite set of
nodes, each with the policies that lie above it. So the nodes under one
parent form a set, and to ask for a parent is to ask for a node with a
given place. The NULL tree is the empty set. Qualifiers are left out.

Every step is the one of the text. In particular childless nodes are
deleted round after round until there are none (`prune`), the mappings
are applied one issuer policy after another (`mapAll`), and deleting a
node deletes what hangs below it (`intersect`). That the indexed levels
of `PolicyTree` compute the same is the subject of
`TrustPath.Proofs.Policy.Simulation`.
-/

namespace TrustPath

instance (s : String) (set : TextSet) : Decidable (s ∈ set) :=
  inferInstanceAs (Decidable (s ∈ set.toList))

namespace Rfc5280

/-! ## The tree -/

/-- A node: its valid policy, those of the nodes above it with its
parent's first, and the policies expected below it. -/
structure Node where
  policy : String
  above : List String
  expected : TextSet
deriving DecidableEq

namespace Node

def depth (v : Node) : Nat := v.above.length

/-- The policies from the node up to the root. -/
def place (v : Node) : List String := v.policy :: v.above

/-- A node below this one. -/
def child (v : Node) (policy : String) (expected : TextSet) : Node := ⟨policy, v.place, expected⟩

/-- A node below this one that expects just its own policy. -/
def leaf (v : Node) (policy : String) : Node := v.child policy (.singleton policy)

end Node

/-- The valid policy tree, empty if it is NULL. -/
abbrev Tree := Finset Node

/-- Section 6.1.2 (a): the root alone. -/
def initial : Tree := {⟨anyPolicy, [], .singleton anyPolicy⟩}

/-- The nodes of a depth. -/
def level (t : Tree) (d : Nat) : Tree := t.filter (·.depth = d)

/-- The nodes for `anyPolicy` of a depth. -/
def anyNodes (t : Tree) (d : Nat) : Tree := (level t d).filter (·.policy = anyPolicy)

/-- Section 6.1.3 (d)(1): a policy goes below the nodes of a depth that
expect it and, if there is none, below a node for `anyPolicy`. -/
def named (t : Tree) (d : Nat) (policy : String) : Tree :=
  let expecting := (level t d).filter (policy ∈ ·.expected)
  (if expecting.Nonempty then expecting else anyNodes t d).image (·.leaf policy)

/-- Section 6.1.3 (d)(2) for one node: it gets a child for every policy
it expects that does not appear in a child of it. -/
def unmatched (t : Tree) (v : Node) : Tree :=
  (v.expected.toList.toFinset.filter fun policy =>
    ∀ w ∈ t, w.above = v.place → w.policy ≠ policy).image v.leaf

/-- Section 6.1.3 (d)(1) and (2): grow the tree below a depth by the
policies of a certificate. -/
def grow (t : Tree) (d : Nat) (policies : Finset String) (anyAllowed : Bool) : Tree :=
  let grown := t ∪ (policies.erase anyPolicy).biUnion (named t d)
  if anyAllowed = true ∧ anyPolicy ∈ policies then
    grown ∪ (level t d).biUnion (unmatched grown)
  else grown

/-- The nodes above a depth without any child. -/
def childless (t : Tree) (d : Nat) : Tree :=
  t.filter fun v => v.depth < d ∧ ∀ w ∈ t, w.above ≠ v.place

/-- Section 6.1.3 (d)(3): delete the nodes above a depth without any
child, and repeat until there are none. -/
def prune (t : Tree) (d : Nat) : Tree :=
  if childless t d = ∅ then t else prune (t \ childless t d) d
termination_by t.card
decreasing_by
  refine Finset.card_lt_card (Finset.sdiff_ssubset (Finset.filter_subset _ _) ?_)
  exact Finset.nonempty_iff_ne_empty.mpr ‹_›

/-- Section 6.1.4 (b) for one issuer policy at the depth below `d`: its
nodes expect the subject policies, or one is put below the node for
`anyPolicy` where its sibling is for `anyPolicy`; or, where mapping is
inhibited, its nodes are deleted. -/
def mapOne (d : Nat) (allowed : Bool) (t : Tree) (mapping : String × TextSet) : Tree :=
  if allowed = true then
    if ∃ v ∈ level t (d + 1), v.policy = mapping.1 then
      t.image fun v =>
        if v.depth = d + 1 ∧ v.policy = mapping.1 then { v with expected := mapping.2 } else v
    else if (anyNodes t (d + 1)).Nonempty then
      t ∪ (anyNodes t d).image (·.child mapping.1 mapping.2)
    else t
  else prune (t.filter fun v => ¬ (v.depth = d + 1 ∧ v.policy = mapping.1)) (d + 1)

/-- Section 6.1.4 (b): one issuer policy after another. -/
def mapAll (t : Tree) (d : Nat) (allowed : Bool) (mappings : PolicyMappings) : Tree :=
  mappings.foldl (mapOne d allowed) t

/-- Section 6.1.5 (g)(iii)1: the nodes whose parent is for `anyPolicy`. -/
def nodeSet (t : Tree) : Tree :=
  t.filter fun v => ∃ u ∈ t, u.policy = anyPolicy ∧ v.above = u.place

/-- Section 6.1.5 (g)(iii)2: delete the nodes of that set that are not
acceptable, with everything below them. -/
def deleteForeign (t : Tree) (acceptable : TextSet) : Tree :=
  let foreign := (nodeSet t).filter fun v => v.policy ∉ acceptable ∧ v.policy ≠ anyPolicy
  t.filter fun v => ∀ u ∈ foreign, ¬ u.place <:+ v.place

/-- The acceptable policies that no node of that set has. -/
def missing (t : Tree) (acceptable : TextSet) : Finset String :=
  acceptable.toList.toFinset.filter fun policy => ∀ v ∈ nodeSet t, v.policy ≠ policy

/-- Section 6.1.5 (g)(iii)3: replace a node for `anyPolicy` at the depth
below `d` by nodes for policies. -/
def replaceAny (t : Tree) (d : Nat) (policies : Finset String) : Tree :=
  if (anyNodes t (d + 1)).Nonempty then
    (t ∪ (anyNodes t d).biUnion fun u => policies.image u.leaf) \ anyNodes t (d + 1)
  else t

/-- Section 6.1.5 (g): the intersection with the acceptable policies at
the depth of the target, which is the one below `d`. -/
def intersect (t : Tree) (d : Nat) (acceptable : TextSet) : Tree :=
  if acceptable.toList = [] ∨ anyPolicy ∈ acceptable then t
  else prune (replaceAny (deleteForeign t acceptable) d (missing t acceptable)) (d + 1)

/-! ## The path -/

/-- The state between two certificates. -/
structure State where
  tree : Tree
  explicitPolicy : Nat
  policyMapping : Nat
  inhibitAnyPolicy : Nat

/-- Section 6.1.2 (a), (d), (e) and (f). -/
def start (parameters : PolicyParameters) (n : Nat) : State :=
  { tree := initial
    explicitPolicy := if parameters.explicitPolicyRequired then 0 else n + 1
    policyMapping := if parameters.policyMappingInhibited then 0 else n + 1
    inhibitAnyPolicy := if parameters.anyPolicyInhibited then 0 else n + 1 }

/-- A counter is set to a bound that is present and less. -/
def bounded (counter : Nat) : Option Nat → Nat
  | some bound => if bound < counter then bound else counter
  | none => counter

namespace State

/-- Section 6.1.3 (d) and (e) below a depth. -/
def assert (s : State) (d : Nat) (statement : PolicyStatement) (isTarget : Bool) :
    Option (List String) → State
  | some policies =>
    let anyAllowed := decide (0 < s.inhibitAnyPolicy) || (!isTarget && statement.selfIssued)
    { s with tree := prune (grow s.tree d policies.toFinset anyAllowed) (d + 1) }
  | none => { s with tree := ∅ }

/-- Section 6.1.3 (d), (e) and (f) below a depth. Policies that cannot be
read end the processing. -/
def enter (s : State) (d : Nat) (statement : PolicyStatement) (isTarget : Bool) : Option State :=
  match statement.policies with
  | .error _ => none
  | .ok policies =>
    let s := s.assert d statement isTarget policies
    if 0 < s.explicitPolicy ∨ s.tree ≠ ∅ then some s else none

/-- Section 6.1.4 (h). -/
def count (s : State) (selfIssued : Bool) : State :=
  if selfIssued then s
  else
    { s with
      explicitPolicy := if s.explicitPolicy ≠ 0 then s.explicitPolicy - 1 else 0
      policyMapping := if s.policyMapping ≠ 0 then s.policyMapping - 1 else 0
      inhibitAnyPolicy := if s.inhibitAnyPolicy ≠ 0 then s.inhibitAnyPolicy - 1 else 0 }

/-- Section 6.1.4 (i) and (j). -/
def constrain (s : State) (statement : PolicyStatement) : State :=
  { s with
    explicitPolicy := bounded s.explicitPolicy statement.requireExplicit
    policyMapping := bounded s.policyMapping statement.inhibitMapping
    inhibitAnyPolicy := bounded s.inhibitAnyPolicy statement.inhibitAnyPolicy }

/-- Section 6.1.4 (a), (b), (h), (i) and (j). Mappings from or to
`anyPolicy` end the processing. -/
def leave (s : State) (d : Nat) (statement : PolicyStatement) : Option State :=
  match statement.mappings with
  | .error _ => none
  | .ok mappings =>
    let s := { s with tree := mapAll s.tree d (decide (0 < s.policyMapping)) mappings }
    some ((s.count statement.selfIssued).constrain statement)

/-- The certificates of a path, of which the last one is the target,
below a depth. -/
def run (s : State) (d : Nat) : List PolicyStatement → Option State
  | [] => some s
  | [target] => s.enter d target true
  | statement :: rest => do
    let s ← s.enter d statement false
    (← s.leave d statement).run (d + 1) rest

/-- Section 6.1.5 (a) and (b). -/
def finalExplicit (s : State) (target : Option PolicyStatement) : Nat :=
  if target.any (·.requireExplicit = some 0) then 0
  else if s.explicitPolicy ≠ 0 then s.explicitPolicy - 1 else 0

end State

/-- Whether the processing of a path succeeds, the anchor's side first. -/
def succeeds (path : List PolicyStatement) (parameters : PolicyParameters) : Bool :=
  match (start parameters path.length).run 0 path with
  | none => false
  | some s =>
    decide (0 < s.finalExplicit path.getLast?)
      || decide (intersect s.tree (path.length - 1) parameters.initialPolicies ≠ ∅)

end Rfc5280

end TrustPath
