import Mathlib.Logic.Relation
import TrustPath.Proofs.Policy.Restriction
import TrustPath.Proofs.Policy.TreeSteps

/-!
# What a deletion leaves

A node is named by its position, the number of its level and its place
in it; going down from parents to children is a relation between
positions (`Descends`). Which nodes a deletion leaves is said with that
relation: those below a node that is marked (`Stays`), and those above a
node of the deepest level (`Reaches`). The loops are not mentioned, and
`deletion_exact` says that they leave just these nodes.

Pruning runs its deletions on a tree that each of them changes. Its
invariant names the part of the first tree that is left after the levels
from one on downwards are done (`prune_step`), so positions are always
those of the first tree.
-/

namespace TrustPath

namespace PolicyTree

variable {tree : PolicyTree} {kept : Nat → Nat → Bool} {n k i j m p : Nat} {keep : List Bool}
  {node : PolicyNode} {u v w : Nat × Nat}

/-! ## Going down -/

/-- The second position can be reached from the first one by following
children. -/
def Descends (tree : PolicyTree) : Nat × Nat → Nat × Nat → Prop :=
  Relation.ReflTransGen (IsChild tree)

/-- A node above a level, marked in it, or below a node that is marked. -/
def Stays (tree : PolicyTree) (n : Nat) (keep : List Bool) (v : Nat × Nat) : Prop :=
  v.1 < n ∨ ∃ j, keep[j]? = some true ∧ Descends tree (n, j) v

/-- The deepest level can be reached from a node. -/
def Reaches (tree : PolicyTree) (v : Nat × Nat) : Prop :=
  ∃ j < tree.deepest.length, Descends tree v (tree.depth, j)

theorem Descends.level_le (h : Descends tree u w) : u.1 ≤ w.1 := by
  induction h with
  | refl => exact Nat.le_refl _
  | tail _ hchild ih => rw [hchild.1]; exact Nat.le_succ_of_le ih

/-- A child is below what its parent is below, and below itself. -/
theorem descends_child_iff (h : IsChild tree v w) :
    Descends tree u w ↔ u = w ∨ Descends tree u v := by
  constructor
  · intro hdown
    rcases Relation.ReflTransGen.cases_tail hdown with rfl | ⟨x, hx, hchild⟩
    · exact Or.inl rfl
    · rw [h.unique hchild]
      exact Or.inr hx
  · rintro (rfl | hdown)
    · exact .refl
    · exact .tail hdown h

open Classical in
theorem closed_of {P : Nat × Nat → Prop} (h : ∀ u w, IsChild tree u w → P w → P u) :
    Closed tree fun k i => decide (P (k, i)) :=
  fun u w hchild hw => decide_eq_true (h u w hchild (of_decide_eq_true hw))

/-! ## Marked nodes and what is below them -/

theorem stays_above (h : k < n) : Stays tree n keep (k, i) := Or.inl h

theorem stays_here : Stays tree n keep (n, i) ↔ keep[i]? = some true := by
  constructor
  · rintro (hlt | ⟨j, hkeep, hdown⟩)
    · exact absurd hlt (Nat.lt_irrefl n)
    · rcases Relation.ReflTransGen.cases_tail hdown with heq | ⟨x, hx, hchild⟩
      · obtain rfl : i = j := congrArg Prod.snd heq
        exact hkeep
      · have hle := Descends.level_le hx
        have hlevel := hchild.1
        exact absurd hlevel (by simp only at hle ⊢; omega)
  · exact fun hkeep => Or.inr ⟨i, hkeep, .refl⟩

theorem stays_below (hn : n ≤ v.1) (h : IsChild tree v w) :
    Stays tree n keep w ↔ Stays tree n keep v := by
  have hlevel := h.1
  have hw : ¬ w.1 < n := by omega
  have hv : ¬ v.1 < n := by omega
  rw [Stays, or_iff_right hw, Stays, or_iff_right hv]
  refine exists_congr fun j => and_congr_right fun _ => ?_
  rw [descends_child_iff h, or_iff_right]
  rintro rfl
  exact absurd hn (by simp only at hlevel ⊢; omega)

theorem IsChild.stays (h : IsChild tree v w) (hw : Stays tree n keep w) : Stays tree n keep v := by
  rcases Nat.lt_or_ge v.1 n with hlt | hge
  · exact Or.inl hlt
  · exact (stays_below hge h).mp hw

section Marked

open Classical

/-- A deletion leaves the nodes that are not below the level, those that
are marked in it, and what is below these. -/
theorem retainMask_eq (h : Parented tree) (n : Nat) (keep : List Bool) :
    tree.retainMask n keep = tree.restrict fun k i => decide (Stays tree n keep (k, i)) := by
  refine retainMask_eq_restrict h (fun k hk i => decide_eq_true (stays_above hk)) ?_ ?_
  · intro i _
    rw [List.getD_eq_getElem?_getD, Bool.eq_iff_iff, decide_eq_true_iff, stays_here]
    cases keep[i]? with
    | none => simp
    | some marked => simp
  · intro k hk i node p hi hp
    rw [Bool.eq_iff_iff, decide_eq_true_iff, decide_eq_true_iff]
    exact stays_below hk (isChild_of hi hp)

end Marked

/-! ## Pruning -/

theorem reaches_deepest (hi : i < (tree.level tree.depth).length) : Reaches tree (tree.depth, i) :=
  ⟨i, hi, .refl⟩

theorem IsChild.reaches (h : IsChild tree v w) : Reaches tree w → Reaches tree v
  | ⟨j, hj, hdown⟩ => ⟨j, hj, .head h hdown⟩

/-- Above the deepest level only nodes with a child that reaches it do. -/
theorem reaches_iff (hm : m < tree.depth) :
    Reaches tree (m, i) ↔ ∃ w, IsChild tree (m, i) w ∧ Reaches tree w := by
  constructor
  · rintro ⟨j, hj, hdown⟩
    rcases Relation.ReflTransGen.cases_head hdown with heq | ⟨w, hchild, hrest⟩
    · exact absurd (congrArg Prod.fst heq) (Nat.ne_of_lt hm)
    · exact ⟨w, hchild, j, hj, hrest⟩
  · rintro ⟨w, hchild, hw⟩
    exact hchild.reaches hw

/-- What is left when the levels from one on downwards are done. -/
def PrunedFrom (tree : PolicyTree) (m : Nat) (v : Nat × Nat) : Prop := v.1 < m ∨ Reaches tree v

section Pruning

open Classical

theorem closed_prunedFrom : Closed tree fun k i => decide (PrunedFrom tree m (k, i)) := by
  intro u w hchild hw
  have hlevel := hchild.1
  refine decide_eq_true ((of_decide_eq_true hw).imp (fun hlt => ?_) hchild.reaches)
  simp only at hlt
  omega

theorem restrict_prunedFrom_depth (h : Parented tree) :
    tree.restrict (fun k i => decide (PrunedFrom tree tree.depth (k, i))) = tree := by
  refine restrict_all h fun k i hi => decide_eq_true ?_
  rcases Nat.lt_trichotomy k tree.depth with hlt | rfl | hgt
  · exact Or.inl hlt
  · exact Or.inr (reaches_deepest hi)
  · rw [level_of_ge (by rw [depth] at hgt; omega)] at hi
    exact absurd hi (Nat.not_lt_zero i)

/-- The nodes of the level above those that are done that have a child
are those that reach the deepest level. -/
theorem getD_parentMask (hm : m < tree.depth) (hi : i < (tree.level m).length) :
    ((tree.restrict fun k i => decide (PrunedFrom tree (m + 1) (k, i))).parentMask m).getD i false
      = decide (Reaches tree (m, i)) := by
  have hall : ∀ i, decide (PrunedFrom tree (m + 1) (m, i)) = true :=
    fun i => decide_eq_true (Or.inl (Nat.lt_succ_self m))
  have hlength : ((tree.restrict fun k i => decide (PrunedFrom tree (m + 1) (k, i))).level m).length
      = (tree.level m).length := by
    rw [level_restrict, List.length_map, selected_of_all fun i _ => hall i]
  rw [List.getD_eq_getElem?_getD, getElem?_parentMask (by rwa [hlength]), Option.getD_some,
    Bool.eq_iff_iff, List.any_eq_true, decide_eq_true_iff, reaches_iff hm]
  constructor
  · rintro ⟨node, hnode, hp⟩
    obtain ⟨j, old, hkept, hj, rfl⟩ := mem_level_restrict.mp hnode
    obtain ⟨p, hp', hplace⟩ := Option.map_eq_some_iff.mp (of_decide_eq_true hp)
    rw [Nat.add_sub_cancel, shifted_of_all fun i _ => hall i] at hplace
    subst hplace
    refine ⟨(m + 1, j), isChild_of hj hp', ?_⟩
    exact (of_decide_eq_true hkept).resolve_left (Nat.lt_irrefl (m + 1))
  · rintro ⟨⟨k, j⟩, ⟨hlevel, old, hj, hp⟩, hreaches⟩
    obtain rfl : k = m + 1 := hlevel
    refine ⟨_, mem_level_restrict.mpr ⟨j, old, decide_eq_true (Or.inr hreaches), hj, rfl⟩, ?_⟩
    refine decide_eq_true ?_
    rw [PolicyNode.moved, hp, Nat.add_sub_cancel, Option.map_some, shifted_of_all fun i _ => hall i]

/-- Deleting the childless nodes of the level above those that are done. -/
theorem prune_step (h : Parented tree) (hm : m < tree.depth) :
    let t := tree.restrict fun k i => decide (PrunedFrom tree (m + 1) (k, i))
    t.retainMask m (t.parentMask m)
      = tree.restrict fun k i => decide (PrunedFrom tree m (k, i)) := by
  intro t
  have ht : Parented t := h.restrict closed_prunedFrom
  have hmark : t.retainMask m (t.parentMask m)
      = t.restrict fun k i => k ≠ m || (t.parentMask m).getD i false := by
    refine retainMask_eq_restrict ht (fun k hk i => ?_) (fun i _ => ?_) ?_
    · rw [decide_eq_true (Nat.ne_of_lt hk), Bool.true_or]
    · rw [decide_eq_false (not_not_intro rfl), Bool.false_or]
    · intro k hk i node p hi hp
      rw [decide_eq_true (by omega), Bool.true_or]
      by_cases heq : k = m
      · subst heq
        obtain ⟨p', hlt, hp'⟩ := ht.below k node (List.mem_of_getElem? hi)
        obtain rfl : p = p' := Option.some.inj (hp.symm.trans hp')
        have hany : (t.level (k + 1)).any (·.parent = some p) = true :=
          List.any_eq_true.mpr ⟨node, List.mem_of_getElem? hi, decide_eq_true hp⟩
        rw [List.getD_eq_getElem?_getD, getElem?_parentMask hlt, hany, Option.getD_some,
          Bool.or_true]
      · rw [decide_eq_true heq, Bool.true_or]
  rw [hmark, restrict_restrict]
  refine restrict_congr h fun k i hi => ?_
  by_cases heq : k = m
  · subst heq
    have hall : ∀ i, decide (PrunedFrom tree (k + 1) (k, i)) = true :=
      fun i => decide_eq_true (Or.inl (Nat.lt_succ_self k))
    rw [hall, shifted_of_all fun i _ => hall i, decide_eq_false (not_not_intro rfl), Bool.false_or,
      Bool.true_and, getD_parentMask hm hi, decide_eq_decide]
    exact (or_iff_right (Nat.lt_irrefl k)).symm
  · rw [decide_eq_true heq, Bool.true_or, Bool.and_true, decide_eq_decide]
    have hlevel : k < m + 1 ↔ k < m := by omega
    exact or_congr_left hlevel

/-- The levels are done one after another, from the bottom up. -/
theorem prune_levels (h : Parented tree) : ∀ m ≤ tree.depth,
    (List.range m).reverse.foldl (fun t n => t.retainMask n (t.parentMask n))
        (tree.restrict fun k i => decide (PrunedFrom tree m (k, i)))
      = tree.restrict fun k i => decide (Reaches tree (k, i))
  | 0, _ => restrict_congr h fun k i _ =>
      decide_eq_decide.mpr (or_iff_right (Nat.not_lt_zero k))
  | m + 1, hm => by
      rw [List.range_succ, List.reverse_append, List.reverse_singleton, List.singleton_append,
        List.foldl_cons, prune_step h hm]
      exact prune_levels h m (Nat.le_of_succ_le hm)

/-- Pruning leaves the nodes from which the deepest level can be reached. -/
theorem prune_eq (h : Parented tree) :
    tree.prune = tree.restrict fun k i => decide (Reaches tree (k, i)) := by
  have hlevels := prune_levels h tree.depth (Nat.le_refl _)
  rwa [restrict_prunedFrom_depth h] at hlevels

theorem parented_prune (h : Parented tree) : Parented tree.prune := by
  rw [prune_eq h]
  exact h.restrict (closed_of fun _ _ hchild => hchild.reaches)

/-! ## Emptiness -/

theorem isEmpty_iff_level : tree.isEmpty = true ↔ tree.level 0 = [] := by
  obtain ⟨levels⟩ := tree
  cases levels with
  | nil => exact iff_of_true rfl rfl
  | cons nodes deeper => exact List.isEmpty_iff

/-- Below an empty level every level is empty. -/
theorem Parented.level_eq_nil (h : Parented tree) (hnil : tree.level k = []) :
    ∀ d, tree.level (k + d) = []
  | 0 => hnil
  | d + 1 => by
      refine List.eq_nil_iff_forall_not_mem.mpr fun node hnode => ?_
      obtain ⟨p, hlt, -⟩ := h.below (k + d) node hnode
      rw [h.level_eq_nil hnil d] at hlt
      exact Nat.not_lt_zero p hlt

theorem isEmpty_prune_iff (h : Parented tree) :
    tree.prune.isEmpty = true ↔ tree.prune.deepest = [] := by
  rw [isEmpty_iff_level]
  constructor
  · intro hnil
    have hdeep := (parented_prune h).level_eq_nil hnil tree.prune.depth
    rwa [Nat.zero_add] at hdeep
  · intro hnil
    refine List.eq_nil_iff_forall_not_mem.mpr fun node hnode => ?_
    rw [prune_eq h] at hnode hnil
    obtain ⟨i, old, hkept, -, -⟩ := mem_level_restrict.mp hnode
    obtain ⟨j, hj, -⟩ := of_decide_eq_true hkept
    rw [deepest, depth_restrict, level_restrict, List.map_eq_nil_iff] at hnil
    have hlt : shifted (fun i => decide (Reaches tree (tree.depth, i))) j
        < (selected (fun i => decide (Reaches tree (tree.depth, i)))
          (tree.level tree.depth)).length :=
      shifted_lt_length (decide_eq_true (reaches_deepest hj)) hj
    rw [hnil] at hlt
    exact Nat.not_lt_zero _ hlt

/-! ## Exactness -/

/-- What is left of a tree are the nodes with a property: in their order,
with their policies and what they expect, and below the same parents. -/
structure Leaves (tree : PolicyTree) (P : Nat × Nat → Prop) (rest : PolicyTree) : Prop where
  eq : rest = tree.restrict fun k i => decide (P (k, i))
  parented : Parented rest
  parents : ∀ u w, IsChild tree u w → P w →
    P u ∧ IsChild rest (placed (fun k i => decide (P (k, i))) u)
      (placed (fun k i => decide (P (k, i))) w)

theorem leaves_restrict {P : Nat × Nat → Prop} (h : Parented tree)
    (hclosed : ∀ u w, IsChild tree u w → P w → P u) :
    Leaves tree P (tree.restrict fun k i => decide (P (k, i))) where
  eq := rfl
  parented := h.restrict (closed_of hclosed)
  parents u w hchild hw := ⟨hclosed u w hchild hw, hchild.placed (decide_eq_true hw)⟩

/-- A deletion leaves the nodes above its level, the marked ones in it
and those whose ancestors in it are marked; pruning leaves the nodes
above a node of the deepest level, and nothing just if that level is
empty. -/
theorem deletion_exact (h : Parented tree) :
    (∀ n keep, Leaves tree (Stays tree n keep) (tree.retainMask n keep))
      ∧ Leaves tree (Reaches tree) tree.prune
      ∧ (tree.prune.isEmpty = true ↔ tree.prune.deepest = []) := by
  refine ⟨fun n keep => ?_, ?_, isEmpty_prune_iff h⟩
  · rw [retainMask_eq h]
    exact leaves_restrict h fun _ _ hchild => hchild.stays
  · rw [prune_eq h]
    exact leaves_restrict h fun _ _ hchild => hchild.reaches

end Pruning

/-- A policy without a child beside one that has a child. -/
def twoBranches : PolicyTree :=
  ⟨[[.root], [.leaf "1.1" (some 0), .leaf "1.2" (some 0)], [.leaf "1.3" (some 1)]]⟩

/-- The branch that is left, with its positions renumbered. -/
def oneBranch : PolicyTree :=
  ⟨[[.root], [.leaf "1.2" (some 0)], [.leaf "1.3" (some 0)]]⟩

theorem parented_twoBranches : Parented twoBranches where
  root := by decide
  below
    | 0 => by decide
    | 1 => by decide
    | _ + 2 => fun _ hnode => absurd hnode List.not_mem_nil

theorem deletion_exact_twoBranches :
    Parented twoBranches
      ∧ Leaves twoBranches (Stays twoBranches 1 [false, true]) oneBranch
      ∧ Leaves twoBranches (Reaches twoBranches) oneBranch
      ∧ (twoBranches.prune.isEmpty = true ↔ twoBranches.prune.deepest = []) := by
  have hretain : twoBranches.retainMask 1 [false, true] = oneBranch := by decide
  have hprune : twoBranches.prune = oneBranch := by decide
  obtain ⟨hmarked, hreached, hempty⟩ := deletion_exact parented_twoBranches
  exact ⟨parented_twoBranches, hretain ▸ hmarked 1 [false, true], hprune ▸ hreached, hempty⟩

end PolicyTree

end TrustPath
