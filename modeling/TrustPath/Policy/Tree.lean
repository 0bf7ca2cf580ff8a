import TrustPath.Policy.Basic

/-!
# The tree of valid policies

The tree is kept level by level, one level for each certificate and one for the root. A node
knows its policy, the policies that are expected below it, and the position of its parent in the
level above. Deleting nodes of a level deletes what hangs below them and renumbers the parents in
the next level.
-/

namespace TrustPath

/-- A node of the tree. The root has no parent. -/
structure PolicyNode where
  policy : String
  expected : TextSet
  parent : Option Nat
deriving Repr, DecidableEq

namespace PolicyNode

/-- The root stands for every policy and expects every policy. -/
def root : PolicyNode := ⟨anyPolicy, .singleton anyPolicy, none⟩

/-- A node for a policy that expects just that policy. -/
def leaf (policy : String) (parent : Option Nat) : PolicyNode := ⟨policy, .singleton policy, parent⟩

def isAny (node : PolicyNode) : Bool := node.policy = anyPolicy

end PolicyNode

abbrev PolicyLevel := List PolicyNode

/-- The tree, the level of the root first. -/
structure PolicyTree where
  levels : List PolicyLevel
deriving Repr, DecidableEq

/-- The members of a list at the positions where a mask is true. -/
def selectMask {α : Type} : List Bool → List α → List α
  | true :: keep, a :: as => a :: selectMask keep as
  | false :: keep, _ :: as => selectMask keep as
  | _, _ => []

/-- The place of a position after the positions that a mask leaves out are gone. -/
def newPlace? (keep : List Bool) (i : Nat) : Option Nat :=
  if keep.getD i false then some ((keep.take i).count true) else none

namespace PolicyTree

def initial : PolicyTree := ⟨[[.root]]⟩

/-- Whether even the root is gone. -/
def isEmpty (tree : PolicyTree) : Bool := (tree.levels.headD []).isEmpty

/-- The number of the deepest level; the level of the root is number zero. -/
def depth (tree : PolicyTree) : Nat := tree.levels.length - 1

def level (tree : PolicyTree) (n : Nat) : PolicyLevel := tree.levels.getD n []

def deepest (tree : PolicyTree) : PolicyLevel := tree.level tree.depth

/-! ## Deletion -/

/-- Keep the nodes whose parent has a place, and write down that place. -/
def relink (place? : Nat → Option Nat) (nodes : PolicyLevel) : PolicyLevel :=
  nodes.filterMap fun node => (node.parent.bind place?).map fun p => { node with parent := some p }

/-- Which nodes have a parent with a place. -/
def linked (place? : Nat → Option Nat) (nodes : PolicyLevel) : List Bool :=
  nodes.map fun node => (node.parent.bind place?).isSome

/-- Carry a deletion down the levels below it. -/
def relinkBelow (place? : Nat → Option Nat) : List PolicyLevel → List PolicyLevel
  | [] => []
  | nodes :: deeper => relink place? nodes :: relinkBelow (newPlace? (linked place? nodes)) deeper

/-- Keep of a level only the nodes that a mask marks. Nodes below a deleted one go with it. -/
def retainMask (tree : PolicyTree) (n : Nat) (keep : List Bool) : PolicyTree :=
  match tree.levels.drop n with
  | [] => tree
  | nodes :: deeper =>
    ⟨tree.levels.take n ++ selectMask keep nodes :: relinkBelow (newPlace? keep) deeper⟩

def parentMask (tree : PolicyTree) (n : Nat) : List Bool :=
  (List.range (tree.level n).length).map fun i => (tree.level (n + 1)).any (·.parent = some i)

/-- Delete the childless nodes above the deepest level, from the bottom up. -/
def prune (tree : PolicyTree) : PolicyTree :=
  (List.range tree.depth).reverse.foldl (fun t n => t.retainMask n (t.parentMask n)) tree

/-! ## Growth -/

/-- The positions in a level of the nodes with a property. -/
def positions (p : PolicyNode → Bool) (nodes : PolicyLevel) : List Nat :=
  (nodes.zipIdx.filter fun (node, _) => p node).map (·.2)

/-- The nodes that a named policy gets below a level: one under each node that expects it, or, if
none does, one under each node for every policy. -/
def nodesFor (above : PolicyLevel) (policy : String) : PolicyLevel :=
  let expecting := positions (·.expected.contains policy) above
  let parents := if expecting.isEmpty then positions (·.isAny) above else expecting
  parents.map fun p => .leaf policy (some p)

/-- The nodes that `anyPolicy` adds: under every node those it expects and does not have yet. -/
def nodesForAny (above named : PolicyLevel) : PolicyLevel :=
  above.zipIdx.flatMap fun (node, i) =>
    (node.expected.toList.filter fun policy =>
      !named.any fun child => child.parent == some i && child.policy == policy).map
        fun policy => .leaf policy (some i)

/-- The level below a level, given the policies of a certificate. -/
def nextLevel (above : PolicyLevel) (policies : List String) (anyAllowed : Bool) : PolicyLevel :=
  let named := (policies.filter (· ≠ anyPolicy)).flatMap (nodesFor above)
  if anyAllowed && policies.contains anyPolicy then named ++ nodesForAny above named else named

def addLevel (tree : PolicyTree) (policies : List String) (anyAllowed : Bool) : PolicyTree :=
  ⟨tree.levels ++ [nextLevel (tree.levels.getLastD []) policies anyAllowed]⟩

/-! ## Mapping -/

/-- Let the nodes for an issuer's policy expect the subject's policies. Without such a node one is
put beside the node for every policy, if there is one. -/
def mapLevel (nodes : PolicyLevel) (mapping : String × TextSet) : PolicyLevel :=
  if nodes.any (·.policy = mapping.1) then
    nodes.map fun node =>
      if node.policy = mapping.1 then { node with expected := mapping.2 } else node
  else match nodes.find? (·.isAny) with
    | some any => nodes ++ [⟨mapping.1, mapping.2, any.parent⟩]
    | none => nodes

/-- Apply mappings to the deepest level. Where mapping is not allowed, the nodes for mapped
policies are deleted instead. -/
def applyMappings (tree : PolicyTree) (mappings : PolicyMappings) (allowed : Bool) : PolicyTree :=
  if allowed then
    ⟨tree.levels.modify tree.depth fun nodes => mappings.foldl mapLevel nodes⟩
  else
    (tree.retainMask tree.depth
      (tree.deepest.map fun node => !mappings.maps node.policy)).prune

/-! ## Intersection with the acceptable policies -/

/-- Whether a node of a level hangs below a node for every policy: its policy was named by a
certificate itself. -/
def isUnderAny (tree : PolicyTree) (n : Nat) (node : PolicyNode) : Bool :=
  match n, node.parent with
  | above + 1, some p => ((tree.level above)[p]?).any (·.isAny)
  | _, _ => false

/-- Delete from a level the nodes below a node for every policy that are not acceptable. -/
def intersectLevel (acceptable : TextSet) (tree : PolicyTree) (n : Nat) : PolicyTree :=
  tree.retainMask n ((tree.level n).map fun node =>
    !tree.isUnderAny n node || node.isAny || acceptable.contains node.policy)

/-- The policies below nodes for every policy at a level. -/
def policiesUnderAny (tree : PolicyTree) (n : Nat) : List String :=
  ((tree.level n).filter (tree.isUnderAny n)).map (·.policy)

/-- Intersect level by level, and collect the policies that were found below nodes for every
policy. -/
def intersectLevels (acceptable : TextSet) (tree : PolicyTree) : PolicyTree × List String :=
  (List.range tree.depth).foldl
    (fun (t, found) n =>
      (intersectLevel acceptable t (n + 1), found ++ t.policiesUnderAny (n + 1)))
    (tree, [])

/-- Replace the node for every policy in the deepest level by nodes for the acceptable policies
that were not found. -/
def expandAny (acceptable : TextSet) (found : List String) (nodes : PolicyLevel) : PolicyLevel :=
  match nodes.find? (·.isAny) with
  | none => nodes
  | some any =>
    (nodes ++ (acceptable.toList.filter (! found.contains ·)).map
      fun policy => PolicyNode.leaf policy any.parent).filter (! ·.isAny)

/-- Leave only what is acceptable. The empty set, and one with `anyPolicy`, accept everything. -/
def intersect (tree : PolicyTree) (acceptable : TextSet) : PolicyTree :=
  if acceptable.isEmpty || acceptable.contains anyPolicy then tree
  else
    let (t, found) := intersectLevels acceptable tree
    PolicyTree.prune ⟨t.levels.modify t.depth (expandAny acceptable found)⟩

end PolicyTree

end TrustPath
