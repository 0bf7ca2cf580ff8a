import TrustPath.Proofs.Policy.Deletion

/-!
# Levels with one node for every policy

A level has at most one node for `anyPolicy`, which hangs below the one of
the level above, and no other node expects `anyPolicy` (`Continues`). The
reference tree has this by its places, where equal nodes are one; here it
is shown of the levels themselves, in which a policy that a certificate
repeats stands more than once.

The invariant relates a level to the one above it, so an operation has to
be looked at only where it changes a level: growth, mapping and expansion
each get one lemma about the new level. Deletions leave a part of the
tree, and a part of a tree whose levels follow each other is one as well
(`Chained.restrict`).
-/

namespace TrustPath

namespace PolicyTree

open Rfc5280 (Proper)

variable {tree : PolicyTree} {above nodes new : PolicyLevel} {node any : PolicyNode} {k d : Nat}
  {acceptable : TextSet}

/-! ## One level and the next -/

/-- A level as it follows another one: the nodes have their parents there,
at most one is for `anyPolicy`, below such a node, and only that one
expects `anyPolicy`. -/
structure Continues (above nodes : PolicyLevel) : Prop where
  parents : ∀ node ∈ nodes, ∃ p < above.length, node.parent = some p
  single : nodes.countP (·.isAny) ≤ 1
  below : ∀ node ∈ nodes, node.isAny = true →
    ∃ p u, node.parent = some p ∧ above[p]? = some u ∧ u.isAny = true
  expects : ∀ node ∈ nodes, anyPolicy ∈ node.expected → node.isAny = true

/-- A node that is not for `anyPolicy` and does not expect it. -/
structure Named (above : PolicyLevel) (node : PolicyNode) : Prop where
  parent : ∃ p < above.length, node.parent = some p
  notAny : node.isAny = false
  expects : anyPolicy ∉ node.expected

theorem continues_nil : Continues above [] :=
  ⟨nofun, Nat.zero_le 1, nofun, nofun⟩

namespace Continues

theorem sublist (h : Continues above nodes) (hsub : new.Sublist nodes) : Continues above new where
  parents node hnode := h.parents node (hsub.subset hnode)
  single := Nat.le_trans hsub.countP_le h.single
  below node hnode := h.below node (hsub.subset hnode)
  expects node hnode := h.expects node (hsub.subset hnode)

theorem append (h : Continues above nodes) (hnew : ∀ node ∈ new, Named above node) :
    Continues above (nodes ++ new) where
  parents node hnode := (List.mem_append.mp hnode).elim (h.parents node) fun hin =>
    (hnew node hin).parent
  single := by
    have hnone : new.countP (·.isAny) = 0 :=
      List.countP_eq_zero.mpr fun node hin => Bool.eq_false_iff.mp (hnew node hin).notAny
    rw [List.countP_append, hnone, Nat.add_zero]
    exact h.single
  below node hnode hany := (List.mem_append.mp hnode).elim (h.below node · hany) fun hin =>
    absurd hany (Bool.eq_false_iff.mp (hnew node hin).notAny)
  expects node hnode hexp := (List.mem_append.mp hnode).elim (h.expects node · hexp) fun hin =>
    absurd hexp (hnew node hin).expects

/-- Nodes may expect something else, as long as it is not `anyPolicy`. -/
theorem map (h : Continues above nodes) {f : PolicyNode → PolicyNode}
    (hpolicy : ∀ node, (f node).policy = node.policy)
    (hparent : ∀ node, (f node).parent = node.parent)
    (hexpected : ∀ node, anyPolicy ∈ (f node).expected → anyPolicy ∈ node.expected) :
    Continues above (nodes.map f) := by
  have hany : ∀ node, (f node).isAny = node.isAny := fun node => by
    rw [PolicyNode.isAny, hpolicy, PolicyNode.isAny]
  refine ⟨?_, ?_, ?_, ?_⟩
  · intro _ hmapped
    obtain ⟨node, hnode, rfl⟩ := List.mem_map.mp hmapped
    rw [hparent]
    exact h.parents node hnode
  · rw [List.countP_map]
    exact (List.countP_congr fun node _ => by rw [Function.comp_apply, hany]).trans_le h.single
  · intro _ hmapped his
    obtain ⟨node, hnode, rfl⟩ := List.mem_map.mp hmapped
    rw [hparent]
    exact h.below node hnode (hany node ▸ his)
  · intro _ hmapped hexp
    obtain ⟨node, hnode, rfl⟩ := List.mem_map.mp hmapped
    rw [hany]
    exact h.expects node hnode (hexpected node hexp)

/-- What is found for `anyPolicy` is all there is. -/
theorem filter_isAny (h : Continues above nodes) (hfind : nodes.find? (·.isAny) = some any) :
    nodes.filter (·.isAny) = [any] := by
  have hin : any ∈ nodes.filter (·.isAny) :=
    List.mem_filter.mpr ⟨List.mem_of_find?_eq_some hfind, List.find?_some hfind⟩
  have hone : (nodes.filter (·.isAny)).length ≤ 1 := by
    rw [← List.countP_eq_length_filter]
    exact h.single
  obtain ⟨only, honly⟩ := List.length_eq_one_iff.mp
    (Nat.le_antisymm hone (List.length_pos_of_mem hin))
  rw [honly, List.mem_singleton] at hin
  rw [honly, hin]

/-- A part of a level follows the part of the level above that has the
parents. -/
theorem selected (h : Continues above nodes) {here below : Nat → Bool} {place : Nat → Nat}
    (hclosed : ∀ i node p, nodes[i]? = some node → node.parent = some p → below i = true →
      here p = true) :
    Continues ((selected here above).map (·.moved place))
      ((TrustPath.selected below nodes).map (·.moved (shifted here))) := by
  have hpart : ∀ node ∈ (TrustPath.selected below nodes).map (·.moved (shifted here)),
      ∃ old ∈ nodes, old.moved (shifted here) = node
        ∧ ∀ p, old.parent = some p → here p = true := by
    intro node hnode
    obtain ⟨old, hold, rfl⟩ := List.mem_map.mp hnode
    obtain ⟨i, hkept, hi⟩ := mem_selected.mp hold
    exact ⟨old, List.mem_of_getElem? hi, rfl, fun p hp => hclosed i old p hi hp hkept⟩
  refine ⟨?_, ?_, ?_, ?_⟩
  · intro node hnode
    obtain ⟨old, hold, rfl, hhere⟩ := hpart node hnode
    obtain ⟨p, hlt, hp⟩ := h.parents old hold
    refine ⟨shifted here p, ?_, by rw [PolicyNode.moved, hp]; rfl⟩
    rw [List.length_map]
    exact shifted_lt_length (hhere p hp) hlt
  · rw [List.countP_map]
    exact Nat.le_trans (selected_sublist below nodes).countP_le h.single
  · intro node hnode hany
    obtain ⟨old, hold, rfl, hhere⟩ := hpart node hnode
    obtain ⟨p, u, hp, hu, huany⟩ := h.below old hold hany
    refine ⟨shifted here p, u.moved place, by rw [PolicyNode.moved, hp]; rfl, ?_, huany⟩
    rw [List.getElem?_map, getElem?_selected (hhere p hp), hu]
    rfl
  · intro node hnode hexp
    obtain ⟨old, hold, rfl, -⟩ := hpart node hnode
    exact h.expects old hold hexp

end Continues

/-! ### Growth -/

theorem countP_flatMap_le {α β : Type} {p : β → Bool} {q : α → Bool} {f : α → List β} :
    ∀ {as : List α}, (∀ a ∈ as, (f a).countP p ≤ if q a then 1 else 0) →
      (as.flatMap f).countP p ≤ as.countP q
  | [], _ => Nat.le_refl 0
  | a :: as, h => by
      rw [List.flatMap_cons, List.countP_append, List.countP_cons, Nat.add_comm]
      exact Nat.add_le_add (countP_flatMap_le fun b hb => h b (List.mem_cons_of_mem _ hb))
        (h a List.mem_cons_self)

theorem isAny_leaf {policy : String} {parent : Option Nat} :
    (PolicyNode.leaf policy parent).isAny = true ↔ policy = anyPolicy :=
  decide_eq_true_iff

/-- Below every node for `anyPolicy`, and below no other, there is at most
one: what a node expects is a set. -/
theorem countP_nodesForAny (hexpects : ∀ u ∈ above, anyPolicy ∈ u.expected → u.isAny = true)
    (named : PolicyLevel) :
    (nodesForAny above named).countP (·.isAny) ≤ above.countP (·.isAny) := by
  have hzip : above.zipIdx.countP (fun pair => pair.1.isAny) = above.countP (·.isAny) := by
    conv_rhs => rw [← List.zipIdx_map_fst 0 above, List.countP_map]
    rfl
  rw [← hzip]
  refine countP_flatMap_le fun pair hpair => ?_
  obtain ⟨u, i⟩ := pair
  have hin : u ∈ above := List.mem_of_getElem? (List.mem_zipIdx_iff_getElem?.mp hpair)
  rw [List.countP_map]
  refine Nat.le_trans (List.Sublist.countP_le List.filter_sublist) ?_
  show _ ≤ if u.isAny = true then 1 else 0
  split
  · have honce := List.nodup_iff_count_le_one.mp u.expected.nodup anyPolicy
    exact Nat.le_trans (List.countP_mono_left fun policy _ hany =>
      beq_iff_eq.mpr (isAny_leaf.mp hany)) honce
  · next hnot =>
    refine (List.countP_eq_zero.mpr fun policy hpolicy hany => hnot ?_).le
    exact hexpects u hin (isAny_leaf.mp hany ▸ hpolicy)

theorem continues_nextLevel (hsingle : above.countP (·.isAny) ≤ 1)
    (hexpects : ∀ u ∈ above, anyPolicy ∈ u.expected → u.isAny = true) (policies : List String)
    (anyAllowed : Bool) : Continues above (nextLevel above policies anyAllowed) where
  parents node hnode := by
    obtain ⟨i, u, hu, policy, rfl, -⟩ := mem_nextLevel.mp hnode
    exact ⟨i, (List.getElem?_eq_some_iff.mp hu).1, rfl⟩
  single := by
    have hnamed : ((policies.filter (· ≠ anyPolicy)).flatMap (nodesFor above)).countP (·.isAny)
        = 0 := by
      refine List.countP_eq_zero.mpr fun node hnode hany => ?_
      obtain ⟨policy, hpolicy, hnode⟩ := List.mem_flatMap.mp hnode
      obtain ⟨i, u, -, rfl, -⟩ := mem_nodesFor.mp hnode
      exact of_decide_eq_true (List.mem_filter.mp hpolicy).2 (isAny_leaf.mp hany)
    unfold nextLevel
    dsimp only
    split
    · rw [List.countP_append, hnamed, Nat.zero_add]
      exact Nat.le_trans (countP_nodesForAny hexpects _) hsingle
    · rw [hnamed]
      exact Nat.zero_le 1
  below node hnode hany := by
    obtain ⟨i, u, hu, policy, rfl, ⟨-, hne, -⟩ | ⟨-, -, hexp⟩⟩ := mem_nextLevel.mp hnode
    · exact absurd (isAny_leaf.mp hany) hne
    · obtain rfl := isAny_leaf.mp hany
      exact ⟨i, u, rfl, hu, hexpects u (List.mem_of_getElem? hu) hexp⟩
  expects node hnode hexp := by
    obtain ⟨i, u, -, policy, rfl, -⟩ := mem_nextLevel.mp hnode
    exact isAny_leaf.mpr (TextSet.mem_singleton.mp hexp).symm

/-! ### Mapping and expansion -/

/-- A node that is put beside the one for `anyPolicy`. -/
theorem Continues.named_beside (h : Continues above nodes) (hany : any ∈ nodes) {policy : String}
    {expected : TextSet} (hpolicy : policy ≠ anyPolicy) (hexpected : anyPolicy ∉ expected) :
    Named above ⟨policy, expected, any.parent⟩ :=
  ⟨h.parents any hany, decide_eq_false hpolicy, hexpected⟩

theorem Continues.mapLevel (h : Continues above nodes) {mapping : String × TextSet}
    (hproper : Proper mapping) : Continues above (mapLevel nodes mapping) := by
  unfold PolicyTree.mapLevel
  split
  · refine h.map (fun node => ?_) (fun node => ?_) (fun node hexp => ?_)
    · split <;> rfl
    · split <;> rfl
    · split at hexp
      · exact absurd hexp hproper.2
      · exact hexp
  · split
    · next any hfind =>
      refine h.append fun node hnode => ?_
      obtain rfl := List.mem_singleton.mp hnode
      exact h.named_beside (List.mem_of_find?_eq_some hfind) hproper.1 hproper.2
    · exact h

theorem Continues.mapLevels (h : Continues above nodes) {mappings : PolicyMappings}
    (hproper : ∀ mapping ∈ mappings, Proper mapping) :
    Continues above (mappings.foldl PolicyTree.mapLevel nodes) := by
  induction mappings generalizing nodes with
  | nil => exact h
  | cons mapping rest ih =>
      exact ih (h.mapLevel (hproper mapping List.mem_cons_self)) fun m hm =>
        hproper m (List.mem_cons_of_mem _ hm)

theorem Continues.expandAny (h : Continues above nodes) (acceptable : TextSet)
    (found : List String) : Continues above (expandAny acceptable found nodes) := by
  unfold PolicyTree.expandAny
  split
  · exact h
  · next any hfind =>
    rw [List.filter_append]
    refine (h.sublist List.filter_sublist).append fun node hnode => ?_
    obtain ⟨hnode, hnot⟩ := List.mem_filter.mp hnode
    obtain ⟨policy, -, rfl⟩ := List.mem_map.mp hnode
    have hne : policy ≠ anyPolicy := fun heq =>
      Bool.eq_false_iff.mp (Bool.not_eq_true' _ ▸ hnot) (isAny_leaf.mpr heq)
    exact h.named_beside (List.mem_of_find?_eq_some hfind) hne
      fun hin => hne (TextSet.mem_singleton.mp hin).symm

/-! ## The tree -/

/-- Every level follows the one above it, and the topmost one has nothing
but a node for `anyPolicy`. -/
structure Chained (tree : PolicyTree) : Prop where
  top : ∀ node ∈ tree.level 0, node.parent = none ∧ node.isAny = true
  topSingle : (tree.level 0).countP (·.isAny) ≤ 1
  continues : ∀ k, Continues (tree.level k) (tree.level (k + 1))
  someLevel : 0 < tree.levels.length

theorem chained_initial : Chained .initial where
  top := by decide
  topSingle := by decide
  continues _ := continues_nil
  someLevel := by decide

namespace Chained

theorem parented (h : Chained tree) : Parented tree where
  root node hnode := (h.top node hnode).1
  below k := (h.continues k).parents

theorem single (h : Chained tree) : ∀ k, (tree.level k).countP (·.isAny) ≤ 1
  | 0 => h.topSingle
  | k + 1 => (h.continues k).single

theorem expects (h : Chained tree) : ∀ k, ∀ node ∈ tree.level k,
    anyPolicy ∈ node.expected → node.isAny = true
  | 0 => fun node hnode _ => (h.top node hnode).2
  | k + 1 => (h.continues k).expects

theorem restrict (h : Chained tree) {kept : Nat → Nat → Bool} (hclosed : Closed tree kept) :
    Chained (tree.restrict kept) where
  top node hnode := by
    obtain ⟨i, old, -, hi, rfl⟩ := mem_level_restrict.mp hnode
    obtain ⟨hparent, hany⟩ := h.top old (List.mem_of_getElem? hi)
    exact ⟨by rw [PolicyNode.moved, hparent]; rfl, hany⟩
  topSingle := by
    rw [level_restrict, List.countP_map]
    exact Nat.le_trans (selected_sublist _ _).countP_le h.topSingle
  continues k := by
    rw [level_restrict, level_restrict, Nat.add_sub_cancel]
    exact (h.continues k).selected fun i node p hi hp hkept => hclosed _ _ (isChild_of hi hp) hkept
  someLevel := by
    rw [length_restrict]
    exact h.someLevel

theorem retainMask (h : Chained tree) (n : Nat) (keep : List Bool) :
    Chained (tree.retainMask n keep) := by
  rw [retainMask_eq h.parented]
  exact h.restrict (closed_of fun _ _ hchild => hchild.stays)

theorem prune (h : Chained tree) : Chained tree.prune := by
  rw [prune_eq h.parented]
  exact h.restrict (closed_of fun _ _ hchild => hchild.reaches)

theorem depth_retainMask (h : Chained tree) (n : Nat) (keep : List Bool) :
    (tree.retainMask n keep).depth = tree.depth := by
  rw [retainMask_eq h.parented, depth_restrict]

theorem depth_prune (h : Chained tree) : tree.prune.depth = tree.depth := by
  rw [prune_eq h.parented, depth_restrict]

end Chained

/-! ### Changed levels -/

theorem getLastD_levels (tree : PolicyTree) : tree.levels.getLastD [] = tree.deepest := by
  rw [List.getLastD_eq_getLast?, List.getLast?_eq_getElem?, deepest, level,
    List.getD_eq_getElem?_getD,
    depth]

theorem level_addLevel (policies : List String) (anyAllowed : Bool) (k : Nat) :
    (tree.addLevel policies anyAllowed).level k
      = if k = tree.levels.length then nextLevel tree.deepest policies anyAllowed
        else tree.level k := by
  rw [addLevel, getLastD_levels, level, List.getD_eq_getElem?_getD]
  rcases Nat.lt_trichotomy k tree.levels.length with hlt | rfl | hgt
  · rw [if_neg (Nat.ne_of_lt hlt), List.getElem?_append_left hlt, level, List.getD_eq_getElem?_getD]
  · rw [if_pos rfl, List.getElem?_concat_length]
    rfl
  · rw [if_neg (Nat.ne_of_gt hgt), level_of_ge (Nat.le_of_lt hgt), List.getElem?_eq_none]
    · rfl
    · rw [List.length_append, List.length_singleton]
      exact hgt

theorem depth_addLevel (h : 0 < tree.levels.length) (policies : List String) (anyAllowed : Bool) :
    (tree.addLevel policies anyAllowed).depth = tree.depth + 1 := by
  rw [depth, addLevel, List.length_append, List.length_singleton, depth]
  omega

theorem deepest_addLevel (tree : PolicyTree) (policies : List String) (anyAllowed : Bool) :
    (tree.addLevel policies anyAllowed).deepest = nextLevel tree.deepest policies anyAllowed := by
  have hdepth : (tree.addLevel policies anyAllowed).depth = tree.levels.length := by
    rw [depth, addLevel, List.length_append, List.length_singleton, Nat.add_sub_cancel]
  rw [deepest, hdepth, level_addLevel, if_pos rfl]

theorem Chained.addLevel (h : Chained tree) (policies : List String) (anyAllowed : Bool) :
    Chained (tree.addLevel policies anyAllowed) := by
  have hsome := h.someLevel
  have htop : (tree.addLevel policies anyAllowed).level 0 = tree.level 0 := by
    rw [level_addLevel, if_neg (Nat.ne_of_lt hsome)]
  refine ⟨htop ▸ h.top, htop ▸ h.topSingle, fun k => ?_, ?_⟩
  · rw [level_addLevel, level_addLevel]
    rcases Nat.lt_trichotomy (k + 1) tree.levels.length with hlt | heq | hgt
    · rw [if_neg (by omega), if_neg (by omega)]
      exact h.continues k
    · have hdeepest : tree.deepest = tree.level k := by
        rw [deepest, depth, ← heq, Nat.add_sub_cancel]
      rw [if_neg (by omega), if_pos heq, hdeepest]
      exact continues_nextLevel (h.single k) (h.expects k) policies anyAllowed
    · rw [if_neg (Nat.ne_of_gt hgt), level_of_ge (Nat.le_of_lt hgt)]
      exact continues_nil
  · rw [PolicyTree.addLevel, List.length_append]
    exact Nat.add_pos_left hsome _

theorem level_modifyDeepest (h : 0 < tree.levels.length) (f : PolicyLevel → PolicyLevel) (k : Nat) :
    (tree.modifyDeepest f).level k = if k = tree.depth then f tree.deepest else tree.level k := by
  rw [modifyDeepest, level, List.getD_eq_getElem?_getD, List.getElem?_modify]
  by_cases hk : k = tree.depth
  · subst hk
    have hlt : tree.depth < tree.levels.length := by rw [depth]; omega
    rw [if_pos rfl, deepest, level_of_lt hlt, List.getElem?_eq_getElem hlt]
    exact if_pos rfl
  · rw [if_neg hk, level, List.getD_eq_getElem?_getD]
    cases tree.levels[k]? with
    | none => rfl
    | some nodes => exact if_neg (Ne.symm hk)

theorem depth_modifyDeepest (f : PolicyLevel → PolicyLevel) :
    (tree.modifyDeepest f).depth = tree.depth := by
  rw [depth, modifyDeepest, List.length_modify, depth]

theorem Chained.modifyDeepest (h : Chained tree) (hd : tree.depth = d + 1)
    {f : PolicyLevel → PolicyLevel} (hf : Continues (tree.level d) (f tree.deepest)) :
    Chained (tree.modifyDeepest f) := by
  have htop : (tree.modifyDeepest f).level 0 = tree.level 0 := by
    rw [level_modifyDeepest h.someLevel, if_neg (by omega)]
  refine ⟨htop ▸ h.top, htop ▸ h.topSingle, fun k => ?_, ?_⟩
  · rw [level_modifyDeepest h.someLevel, level_modifyDeepest h.someLevel]
    rcases Nat.lt_trichotomy (k + 1) tree.depth with hlt | heq | hgt
    · rw [if_neg (by omega), if_neg (by omega)]
      exact h.continues k
    · obtain rfl : k = d := by omega
      rw [if_neg (by omega), if_pos heq]
      exact hf
    · have hgone : tree.level (k + 1) = [] := level_of_ge (by rw [depth] at hgt; omega)
      rw [if_neg (Nat.ne_of_gt hgt), hgone]
      exact continues_nil
  · rw [PolicyTree.modifyDeepest, List.length_modify]
    exact h.someLevel

theorem Chained.continues_deepest (h : Chained tree) (hd : tree.depth = d + 1) :
    Continues (tree.level d) tree.deepest := by
  rw [deepest, hd]
  exact h.continues d

/-! ### The operations -/

theorem Chained.applyMappings (h : Chained tree) (hd : tree.depth = d + 1)
    {mappings : PolicyMappings}
    (hproper : ∀ mapping ∈ mappings, Proper mapping) (allowed : Bool) :
    Chained (tree.applyMappings mappings allowed)
      ∧ (tree.applyMappings mappings allowed).depth = tree.depth := by
  cases allowed with
  | true =>
      exact ⟨h.modifyDeepest hd ((h.continues_deepest hd).mapLevels hproper), depth_modifyDeepest _⟩
  | false =>
      have hretained := h.retainMask tree.depth
        (tree.deepest.map fun node => !mappings.maps node.policy)
      exact ⟨hretained.prune, hretained.depth_prune.trans (h.depth_retainMask _ _)⟩

theorem Chained.intersectLevels (h : Chained tree) (acceptable : TextSet) :
    Chained (intersectLevels acceptable tree).1
      ∧ (intersectLevels acceptable tree).1.depth = tree.depth := by
  refine List.foldlRecOn _ _ (motive := fun (passed : PolicyTree × List String) =>
    Chained passed.1 ∧ passed.1.depth = tree.depth) ⟨h, rfl⟩ ?_
  rintro ⟨t, found⟩ ⟨ht, hdepth⟩ n -
  exact ⟨ht.retainMask _ _, (ht.depth_retainMask _ _).trans hdepth⟩

theorem Chained.intersect (h : Chained tree) (hd : tree.depth = d + 1) (acceptable : TextSet) :
    Chained (tree.intersect acceptable) := by
  unfold PolicyTree.intersect
  split
  · exact h
  · obtain ⟨hpassed, hdepth⟩ := h.intersectLevels acceptable
    have hd' := hdepth.trans hd
    exact (hpassed.modifyDeepest hd' ((hpassed.continues_deepest hd').expandAny _ _)).prune

end PolicyTree

end TrustPath
