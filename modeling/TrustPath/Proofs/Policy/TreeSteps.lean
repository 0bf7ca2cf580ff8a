import TrustPath.Proofs.Policy.Levels

/-!
# The operations on the levels

Each operation of `PolicyTree` does to the nodes what the step of the
reference does (`nodes_prune`, `nodes_addLevel`, `nodes_applyMappings`)
and keeps the levels well formed. The reference tree is `Rooted`
throughout, which is what makes the levels and the set agree: equal
places are one node, and the node for `anyPolicy` of a level and its
parent are the only ones of their depths. The intersection has a file of
its own.

Pruning goes through the levels one by one from the bottom up. The
invariant of the loop says which nodes are left after so many levels
(`nodes_pruneBelow`).
-/

namespace TrustPath

namespace PolicyTree

open Rfc5280 (Node Rooted Alive Proper)

variable {tree : PolicyTree} {d n : Nat}

/-! ## Pruning -/

theorem getElem?_parentMask {p : Nat} (hp : p < (tree.level n).length) :
    (tree.parentMask n)[p]? = some ((tree.level (n + 1)).any (·.parent = some p)) := by
  rw [parentMask, List.getElem?_map, List.getElem?_range hp]
  rfl

section

variable {upper rest : List PolicyLevel} {here next : PolicyLevel}

/-- The parent of a node is marked. -/
theorem Split.parent_marked (h : Split tree n upper here (next :: rest)) {node : PolicyNode}
    (hnode : node ∈ next) :
    ∃ p u, node.parent = some p ∧ (here.map (seat (lastLevel none upper)))[p]? = some u
      ∧ (tree.parentMask n)[p]? = some true := by
  obtain ⟨p, u, hp, hu⟩ := (h.hangsBelow.1 node hnode).exists_parent
  have hlt : p < (tree.level n).length := by
    rw [h.level_eq, ← List.length_map (seat (lastLevel none upper))]
    exact (List.getElem?_eq_some_iff.mp hu).1
  refine ⟨p, u, hp, hu, ?_⟩
  rw [getElem?_parentMask hlt, h.succ.level_eq]
  exact congrArg some (List.any_eq_true.mpr ⟨node, hnode, decide_eq_true hp⟩)

/-- The nodes of a level that are marked are those with a child. -/
theorem Split.mem_parents (h : Split tree n upper here (next :: rest))
    (hunique : ∀ u ∈ tree.nodes, ∀ v ∈ tree.nodes, u.place = v.place → u = v) {v : Node} :
    v ∈ selectMask (tree.parentMask n) (here.map (seat (lastLevel none upper))) ↔
      v ∈ here.map (seat (lastLevel none upper)) ∧ ∃ w ∈ tree.nodes, w.above = v.place := by
  rw [mem_selectMask]
  constructor
  · rintro ⟨i, hkeep, hi⟩
    have hlt : i < (tree.level n).length := by
      rw [h.level_eq, ← List.length_map (seat (lastLevel none upper))]
      exact (List.getElem?_eq_some_iff.mp hi).1
    rw [getElem?_parentMask hlt, h.succ.level_eq] at hkeep
    obtain ⟨node, hnode, hp⟩ := List.any_eq_true.mp (Option.some.inj hkeep)
    refine ⟨List.mem_of_getElem? hi, seat (some _) node, ?_,
      by rw [seat_some (of_decide_eq_true hp) hi]⟩
    exact h.mem_nodes.mpr (Or.inr (Or.inr (List.mem_append_left _ (List.mem_map_of_mem hnode))))
  · rintro ⟨hv, w, hw, habove⟩
    have hdepth : w.depth = n + 1 := by
      rw [Rfc5280.depth_of_above_eq habove, h.depth_here hv]
    have hnext := h.succ.mem_here.mpr (Rfc5280.mem_level.mpr ⟨hw, hdepth⟩)
    obtain ⟨node, hnode, rfl⟩ := List.mem_map.mp hnext
    obtain ⟨p, u, hp, hu, hkeep⟩ := h.parent_marked hnode
    rw [lastLevel_concat, seat_some hp hu] at habove
    have hin : u ∈ here.map (seat (lastLevel none upper)) := List.mem_of_getElem? hu
    obtain rfl : u = v := hunique u (h.mem_nodes.mpr (Or.inr (Or.inl hin))) v
      (h.mem_nodes.mpr (Or.inr (Or.inl hv))) habove
    exact ⟨p, hkeep, hu⟩

/-- The nodes below a level are read as before when only childless nodes
of the level go. -/
theorem Split.view_parents (h : Split tree n upper here (next :: rest)) :
    view (some (selectMask (tree.parentMask n) (here.map (seat (lastLevel none upper)))))
        (relinkBelow (newPlace? (tree.parentMask n)) (next :: rest))
      = view (some (here.map (seat (lastLevel none upper)))) (next :: rest) := by
  refine view_relinkBelow_of_linked h.hangsBelow fun nodes hnodes k hk => ?_
  obtain rfl : next = nodes := Option.some.inj hnodes
  obtain ⟨node, hnode, rfl⟩ := List.mem_map.mp hk
  obtain ⟨p, -, hp, -, hkeep⟩ := h.parent_marked hnode
  rw [hp, Option.bind_some, newPlace?_isSome, List.getD_eq_getElem?_getD, hkeep]
  rfl

end

/-- Deleting the childless nodes of a level deletes them and no others. -/
theorem mem_nodes_retainParents (h : WellFormed tree d) (hn : n < d)
    (hunique : ∀ u ∈ tree.nodes, ∀ v ∈ tree.nodes, u.place = v.place → u = v) {v : Node} :
    v ∈ (tree.retainMask n (tree.parentMask n)).nodes ↔
      v ∈ tree.nodes ∧ (v.depth = n → ∃ w ∈ tree.nodes, w.above = v.place) := by
  obtain ⟨upper, here, deeper, hsplit⟩ := h.split (Nat.le_of_lt hn)
  obtain ⟨next, rest, rfl⟩ : ∃ next rest, deeper = next :: rest := by
    refine List.exists_cons_of_length_pos ?_
    have hlength := h.length
    rw [hsplit.levels, List.length_append, List.length_cons, hsplit.length] at hlength
    omega
  rw [(hsplit.retainMask _).mem_nodes, ← selectMask_map, hsplit.view_parents,
    hsplit.mem_parents hunique, hsplit.mem_nodes]
  constructor
  · rintro (hv | ⟨hv, hhas⟩ | hv)
    · exact ⟨Or.inl hv, fun hdepth => absurd hdepth (Nat.ne_of_lt (hsplit.depth_upper hv))⟩
    · exact ⟨Or.inr (Or.inl hv), fun _ => hhas⟩
    · exact ⟨Or.inr (Or.inr hv), fun hdepth => absurd hdepth (Nat.ne_of_gt (hsplit.depth_deeper hv))⟩
  · rintro ⟨hv | hv | hv, hhas⟩
    · exact Or.inl hv
    · exact Or.inr (Or.inl ⟨hv, hhas (hsplit.depth_here hv)⟩)
    · exact Or.inr (Or.inr hv)

/-- After the levels from one on downwards are pruned, what is left are
the nodes above it and those that are alive. -/
theorem nodes_pruneBelow {t : Rfc5280.Tree} (ht : Rooted t d) : ∀ {n : Nat} {tree : PolicyTree},
    n ≤ d → WellFormed tree d → (∀ v, v ∈ tree.nodes ↔ v ∈ t ∧ (v.depth < n ∨ Alive t d v)) →
    let pruned := (List.range n).reverse.foldl (fun t n => t.retainMask n (t.parentMask n)) tree
    WellFormed pruned d ∧ ∀ v, v ∈ pruned.nodes ↔ v ∈ t ∧ Alive t d v
  | 0, tree, _, h, hnodes => by
      refine ⟨h, fun v => (hnodes v).trans (and_congr_right fun _ => or_iff_right (Nat.not_lt_zero _))⟩
  | n + 1, tree, hn, h, hnodes => by
      rw [List.range_succ, List.reverse_append, List.reverse_singleton, List.singleton_append,
        List.foldl_cons]
      refine nodes_pruneBelow ht (Nat.le_of_succ_le hn) (h.retainMask (Nat.le_of_succ_le hn) _)
        fun v => ?_
      have hunique : ∀ u ∈ tree.nodes, ∀ v ∈ tree.nodes, u.place = v.place → u = v :=
        fun u hu v hv => ht.unique u ((hnodes u).mp hu).1 v ((hnodes v).mp hv).1
      rw [mem_nodes_retainParents h hn hunique, hnodes]
      constructor
      · rintro ⟨⟨hv, hless | halive⟩, hhas⟩
        · refine ⟨hv, ?_⟩
          rcases Nat.lt_succ_iff_lt_or_eq.mp hless with hless | hdepth
          · exact Or.inl hless
          · right
            obtain ⟨w, hw, habove⟩ := hhas hdepth
            obtain ⟨-, hwless | ⟨x, hx, hxdepth, hsuffix⟩⟩ := (hnodes w).mp hw
            · have hwdepth := Rfc5280.depth_of_above_eq habove
              omega
            · refine ⟨x, hx, hxdepth, List.IsSuffix.trans ?_ hsuffix⟩
              rw [← habove]
              exact List.suffix_cons ..
        · exact ⟨hv, Or.inr halive⟩
      · rintro ⟨hv, hless | halive⟩
        · exact ⟨⟨hv, Or.inl (Nat.lt_succ_of_lt hless)⟩,
            fun hdepth => absurd hdepth (Nat.ne_of_lt hless)⟩
        · refine ⟨⟨hv, Or.inr halive⟩, fun hdepth => ?_⟩
          obtain ⟨x, hx, hxdepth, hsuffix⟩ := halive
          obtain ⟨u, hu, habove, hbelow⟩ := ht.child_of_suffix hx hsuffix (by omega)
          exact ⟨u, (hnodes u).mpr ⟨hu, Or.inr ⟨x, hx, hxdepth, hbelow⟩⟩, habove⟩

theorem nodes_prune (h : WellFormed tree d) (ht : Rooted tree.nodes d) :
    WellFormed tree.prune d ∧ tree.prune.nodes = Rfc5280.prune tree.nodes d := by
  have hstart : ∀ v, v ∈ tree.nodes ↔ v ∈ tree.nodes ∧ (v.depth < d ∨ Alive tree.nodes d v) := by
    refine fun v => ⟨fun hv => ⟨hv, ?_⟩, And.left⟩
    rcases Nat.lt_or_eq_of_le (ht.shallow v hv) with hless | hdepth
    · exact Or.inl hless
    · exact Or.inr ⟨v, hv, hdepth, List.suffix_refl _⟩
  obtain ⟨hwell, hnodes⟩ := nodes_pruneBelow ht (Nat.le_refl d) h hstart
  rw [prune, h.depth_eq]
  exact ⟨hwell, Finset.ext fun v => (hnodes v).trans (Rfc5280.mem_prune ht).symm⟩

/-! ## Growth -/

theorem mem_positions {p : PolicyNode → Bool} {level : PolicyLevel} {i : Nat} :
    i ∈ positions p level ↔ ∃ u, level[i]? = some u ∧ p u = true := by
  simp only [positions, List.mem_map, List.mem_filter, Prod.exists, List.mem_zipIdx_iff_getElem?]
  constructor
  · rintro ⟨u, j, ⟨hu, hp⟩, rfl⟩
    exact ⟨u, hu, hp⟩
  · rintro ⟨u, hu, hp⟩
    exact ⟨u, i, ⟨hu, hp⟩, rfl⟩

theorem mem_nodesFor {above : PolicyLevel} {policy : String} {node : PolicyNode} :
    node ∈ nodesFor above policy ↔ ∃ i u, above[i]? = some u ∧ .leaf policy (some i) = node
      ∧ (policy ∈ u.expected ∨ ¬ (∃ u ∈ above, policy ∈ u.expected) ∧ u.policy = anyPolicy) := by
  have hempty : (positions (·.expected.contains policy) above).isEmpty = true
      ↔ ¬ ∃ u ∈ above, policy ∈ u.expected := by
    rw [List.isEmpty_iff, List.eq_nil_iff_forall_not_mem]
    simp only [mem_positions, TextSet.contains_iff, not_exists, not_and]
    exact ⟨fun h u hu hexp => (List.getElem?_of_mem hu).elim fun i hi => h i u hi hexp,
      fun h i u hi => h u (List.mem_of_getElem? hi)⟩
  unfold nodesFor
  dsimp only
  rw [List.mem_map]
  split
  · next hnone =>
    have hnone := hempty.mp hnone
    simp only [mem_positions, PolicyNode.isAny, decide_eq_true_eq]
    constructor
    · rintro ⟨i, ⟨u, hu, hany⟩, rfl⟩
      exact ⟨i, u, hu, rfl, Or.inr ⟨hnone, hany⟩⟩
    · rintro ⟨i, u, hu, rfl, hexp | ⟨-, hany⟩⟩
      · exact absurd ⟨u, List.mem_of_getElem? hu, hexp⟩ hnone
      · exact ⟨i, ⟨u, hu, hany⟩, rfl⟩
  · next hsome =>
    have hsome := mt hempty.mpr hsome
    simp only [mem_positions, TextSet.contains_iff]
    constructor
    · rintro ⟨i, ⟨u, hu, hexp⟩, rfl⟩
      exact ⟨i, u, hu, rfl, Or.inl hexp⟩
    · rintro ⟨i, u, hu, rfl, hexp | ⟨hnone, -⟩⟩
      · exact ⟨i, ⟨u, hu, hexp⟩, rfl⟩
      · exact absurd hnone hsome

theorem mem_nodesForAny {above named : PolicyLevel} {node : PolicyNode} :
    node ∈ nodesForAny above named ↔ ∃ i u, above[i]? = some u ∧ ∃ policy ∈ u.expected,
      .leaf policy (some i) = node
        ∧ ∀ child ∈ named, child.parent = some i → child.policy ≠ policy := by
  simp only [nodesForAny, List.mem_flatMap, List.mem_map, List.mem_filter, Prod.exists,
    List.mem_zipIdx_iff_getElem?, Bool.not_eq_true', List.any_eq_false, Bool.and_eq_true,
    beq_iff_eq, not_and]
  constructor
  · rintro ⟨u, i, hu, policy, ⟨hexp, hnot⟩, rfl⟩
    exact ⟨i, u, hu, policy, hexp, rfl, hnot⟩
  · rintro ⟨i, u, hu, policy, hexp, rfl, hnot⟩
    exact ⟨u, i, hu, policy, ⟨hexp, hnot⟩, rfl⟩

/-- What a level gets below it, from the point of view of one node. -/
theorem mem_nextLevel {above : PolicyLevel} {policies : List String} {anyAllowed : Bool}
    {node : PolicyNode} :
    node ∈ nextLevel above policies anyAllowed ↔ ∃ i u, above[i]? = some u ∧ ∃ policy,
      .leaf policy (some i) = node
        ∧ Rfc5280.Gets (∃ u ∈ above, policy ∈ u.expected) policies.toFinset anyAllowed u.policy
            u.expected policy := by
  have hnamed : ∀ {node}, node ∈ (policies.filter (· ≠ anyPolicy)).flatMap (nodesFor above) ↔
      ∃ i u, above[i]? = some u ∧ ∃ policy, .leaf policy (some i) = node ∧ policy ∈ policies
        ∧ policy ≠ anyPolicy
        ∧ (policy ∈ u.expected ∨ ¬ (∃ u ∈ above, policy ∈ u.expected) ∧ u.policy = anyPolicy) := by
    intro node
    simp only [List.mem_flatMap, List.mem_filter, decide_eq_true_eq, mem_nodesFor]
    constructor
    · rintro ⟨policy, ⟨hin, hne⟩, i, u, hu, rfl, hgets⟩
      exact ⟨i, u, hu, policy, rfl, hin, hne, hgets⟩
    · rintro ⟨i, u, hu, policy, rfl, hin, hne, hgets⟩
      exact ⟨policy, ⟨hin, hne⟩, i, u, hu, rfl, hgets⟩
  unfold nextLevel
  dsimp only
  simp only [Rfc5280.Gets, List.mem_toFinset]
  split
  · next hany =>
    rw [Bool.and_eq_true, List.contains_iff_mem] at hany
    rw [List.mem_append, hnamed, mem_nodesForAny]
    constructor
    · rintro (⟨i, u, hu, policy, hleaf, hin, hne, hgets⟩ | ⟨i, u, hu, policy, hexp, hleaf, -⟩)
      · exact ⟨i, u, hu, policy, hleaf, Or.inl ⟨hin, hne, hgets⟩⟩
      · exact ⟨i, u, hu, policy, hleaf, Or.inr ⟨hany.1, hany.2, hexp⟩⟩
    · rintro ⟨i, u, hu, policy, hleaf, hnamed' | ⟨-, -, hexp⟩⟩
      · exact Or.inl ⟨i, u, hu, policy, hleaf, hnamed'⟩
      · by_cases happears : ∃ child ∈ (policies.filter (· ≠ anyPolicy)).flatMap (nodesFor above),
            child.parent = some i ∧ child.policy = policy
        · -- the child that is there is the one to put there
          left
          obtain ⟨child, hchild, hparent, hpolicy⟩ := happears
          obtain ⟨j, w, hw, policy', rfl, hgets⟩ := hnamed.mp hchild
          obtain rfl : j = i := Option.some.inj hparent
          obtain rfl : policy' = policy := hpolicy
          exact ⟨j, w, hw, policy', hleaf, hgets⟩
        · right
          refine ⟨i, u, hu, policy, hexp, hleaf, fun child hchild hparent hpolicy => ?_⟩
          exact happears ⟨child, hchild, hparent, hpolicy⟩
  · next hany =>
    rw [Bool.and_eq_true, List.contains_iff_mem] at hany
    rw [hnamed]
    refine exists_congr fun i => exists_congr fun u => and_congr_right fun _ =>
      exists_congr fun policy => and_congr_right fun _ => ⟨Or.inl, fun hgets => ?_⟩
    exact hgets.resolve_right fun hall => hany ⟨hall.1, hall.2.1⟩

theorem nodes_addLevel (h : WellFormed tree d) (ht : Rooted tree.nodes d) (policies : List String)
    (anyAllowed : Bool) :
    WellFormed (tree.addLevel policies anyAllowed) (d + 1)
      ∧ (tree.addLevel policies anyAllowed).nodes
          = Rfc5280.grow tree.nodes d policies.toFinset anyAllowed := by
  obtain ⟨upper, here, hsplit⟩ := h.split_deepest
  have hgrown : (tree.addLevel policies anyAllowed).levels
      = upper ++ here :: [nextLevel here policies anyAllowed] := by
    rw [addLevel, hsplit.levels, List.getLastD_concat, List.append_assoc]
    rfl
  have hseat : ∀ {i u policy}, here[i]? = some u →
      seat (some (here.map (seat (lastLevel none upper)))) (.leaf policy (some i))
        = (seat (lastLevel none upper) u).leaf policy := by
    intro i u policy hu
    have hparent : (PolicyNode.leaf policy (some i)).parent = some i := rfl
    rw [seat_some hparent (List.getElem?_map .. |>.trans (congrArg _ hu))]
    rfl
  have hsplit' : Split (tree.addLevel policies anyAllowed) d upper here
      [nextLevel here policies anyAllowed] := by
    refine ⟨hgrown, hsplit.length, hsplit.hangsAbove, hsplit.sits, fun node hnode => ?_, trivial⟩
    obtain ⟨i, u, hu, policy, rfl, -⟩ := mem_nextLevel.mp hnode
    refine ⟨i, ?_, rfl⟩
    rw [List.length_map]
    exact (List.getElem?_eq_some_iff.mp hu).1
  refine ⟨hsplit'.wellFormed rfl, Finset.ext fun v => ?_⟩
  have hexpects : ∀ policy, (∃ u ∈ here, policy ∈ u.expected) ↔
      Rfc5280.Expects tree.nodes d policy := by
    intro policy
    simp only [Rfc5280.Expects, ← hsplit.mem_here, List.mem_map]
    constructor
    · rintro ⟨u, hu, hexp⟩
      exact ⟨_, ⟨u, hu, rfl⟩, hexp⟩
    · rintro ⟨_, ⟨u, hu, rfl⟩, hexp⟩
      exact ⟨u, hu, hexp⟩
  have hnew : v ∈ (view (some (here.map (seat (lastLevel none upper))))
        [nextLevel here policies anyAllowed]).flatten ↔
      ∃ u ∈ Rfc5280.level tree.nodes d, ∃ policy, u.leaf policy = v
        ∧ Rfc5280.Gets (Rfc5280.Expects tree.nodes d policy) policies.toFinset anyAllowed u.policy
            u.expected policy := by
    rw [view, view, List.flatten_cons, List.flatten_nil, List.append_nil, List.mem_map]
    simp only [mem_nextLevel, ← hsplit.mem_here, List.mem_map]
    constructor
    · rintro ⟨_, ⟨i, u, hu, policy, rfl, hgets⟩, rfl⟩
      refine ⟨_, ⟨u, List.mem_of_getElem? hu, rfl⟩, policy, (hseat hu).symm, ?_⟩
      rwa [hexpects] at hgets
    · rintro ⟨_, ⟨u, hu, rfl⟩, policy, rfl, hgets⟩
      obtain ⟨i, hi⟩ := List.getElem?_of_mem hu
      refine ⟨_, ⟨i, u, hi, policy, rfl, ?_⟩, hseat hi⟩
      rwa [hexpects]
  rw [hsplit'.mem_nodes, hnew, Rfc5280.mem_grow ht, hsplit.mem_nodes, view, List.flatten_nil, ← or_assoc,
    or_iff_left List.not_mem_nil]

/-! ## Changes of the deepest level -/

/-- Change the deepest level. -/
def modifyDeepest (f : PolicyLevel → PolicyLevel) (tree : PolicyTree) : PolicyTree :=
  ⟨tree.levels.modify tree.depth f⟩

/-- A changed deepest level hangs below the same levels, if its nodes do. -/
theorem Split.modifyDeepest {upper : List PolicyLevel} {here : PolicyLevel}
    (h : Split tree d upper here []) {f : PolicyLevel → PolicyLevel}
    (hsits : ∀ node ∈ f here, Sits (lastLevel none upper) node) :
    Split (tree.modifyDeepest f) d upper (f here) [] := by
  refine ⟨?_, h.length, h.hangsAbove, hsits, trivial⟩
  have hdepth : tree.depth = upper.length + 0 := by
    rw [(h.wellFormed rfl).depth_eq, h.length]
    rfl
  rw [PolicyTree.modifyDeepest, hdepth, h.levels]
  exact List.modifyTailIdx_add _ 0 upper [here]

/-- What a change of the deepest level does to the nodes. -/
theorem Split.mem_nodes_deepest {upper : List PolicyLevel} {here : PolicyLevel}
    (h : Split tree d upper here []) {v : Node} :
    v ∈ tree.nodes ↔ v ∈ (view none upper).flatten ∨ v ∈ here.map (seat (lastLevel none upper)) := by
  rw [h.mem_nodes, view, List.flatten_nil, or_iff_left List.not_mem_nil]

/-- The first node for every policy of a level is one of the reference. -/
theorem Split.find?_isAny {upper deeper : List PolicyLevel} {here : PolicyLevel} {any : PolicyNode}
    (h : Split tree n upper here deeper) (hany : here.find? (·.isAny) = some any) :
    seat (lastLevel none upper) any ∈ Rfc5280.anyNodes tree.nodes n := by
  obtain ⟨hmem, hdepth⟩ := Rfc5280.mem_level.mp
    (h.mem_here.mp (List.mem_map_of_mem (List.mem_of_find?_eq_some hany)))
  have hisAny : any.isAny = true := List.find?_some hany
  exact Rfc5280.mem_anyNodes.mpr ⟨hmem, hdepth, of_decide_eq_true hisAny⟩

theorem Split.anyNodes_empty {upper deeper : List PolicyLevel} {here : PolicyLevel}
    (h : Split tree n upper here deeper) (hany : here.find? (·.isAny) = none) :
    ¬ (Rfc5280.anyNodes tree.nodes n).Nonempty := by
  rintro ⟨u, hu⟩
  obtain ⟨hut, hdepth, hpolicy⟩ := Rfc5280.mem_anyNodes.mp hu
  obtain ⟨node, hnode, rfl⟩ :=
    List.mem_map.mp (h.mem_here.mpr (Rfc5280.mem_level.mpr ⟨hut, hdepth⟩))
  exact List.find?_eq_none.mp hany node hnode (decide_eq_true hpolicy)

/-! ## Mapping -/

theorem sits_mapLevel {above : Option (List Node)} {here : PolicyLevel}
    (h : ∀ node ∈ here, Sits above node) (mapping : String × TextSet) :
    ∀ node ∈ mapLevel here mapping, Sits above node := by
  unfold mapLevel
  split
  · intro node hnode
    obtain ⟨old, hold, rfl⟩ := List.mem_map.mp hnode
    split
    · exact h old hold
    · exact h old hold
  · split
    · next any hany =>
      intro node hnode
      rcases List.mem_append.mp hnode with hold | hnew
      · exact h node hold
      · rw [List.mem_singleton.mp hnew]
        exact h any (List.mem_of_find?_eq_some hany)
    · exact h

/-- The nodes for the policy expect something else. -/
theorem mem_map_seat_expected {above : Option (List Node)} {here : PolicyLevel}
    (mapping : String × TextSet) {v : Node} :
    v ∈ (here.map fun node =>
        if node.policy = mapping.1 then { node with expected := mapping.2 } else node).map (seat above)
      ↔ ∃ u ∈ here.map (seat above),
          (if u.policy = mapping.1 then { u with expected := mapping.2 } else u) = v := by
  have hseat : ∀ node : PolicyNode,
      seat above (if node.policy = mapping.1 then { node with expected := mapping.2 } else node)
        = if (seat above node).policy = mapping.1 then { seat above node with expected := mapping.2 }
          else seat above node :=
    fun node => apply_ite (seat above) ..
  rw [List.map_map, ← List.mem_map, List.map_map]
  exact iff_of_eq (congrArg (v ∈ ·) (List.map_congr_left fun node _ => hseat node))

/-- One mapping of the deepest level is one of the reference. -/
theorem nodes_mapLevel {upper : List PolicyLevel} {here : PolicyLevel}
    (h : Split tree (d + 1) upper here []) (ht : Rooted tree.nodes (d + 1))
    (mapping : String × TextSet) :
    (tree.modifyDeepest (mapLevel · mapping)).nodes
      = Rfc5280.mapOne d true tree.nodes mapping := by
  have hmapped := h.modifyDeepest (f := (mapLevel · mapping)) (sits_mapLevel h.sits mapping)
  have hhas : here.any (·.policy = mapping.1) = true ↔
      ∃ v ∈ Rfc5280.level tree.nodes (d + 1), v.policy = mapping.1 := by
    simp only [List.any_eq_true, decide_eq_true_eq, ← h.mem_here, List.mem_map]
    constructor
    · rintro ⟨node, hnode, hpolicy⟩
      exact ⟨_, ⟨node, hnode, rfl⟩, hpolicy⟩
    · rintro ⟨_, ⟨node, hnode, rfl⟩, hpolicy⟩
      exact ⟨node, hnode, hpolicy⟩
  refine Finset.ext fun v => ?_
  rw [hmapped.mem_nodes_deepest, Rfc5280.mapOne, if_pos rfl]
  unfold mapLevel
  by_cases hpolicy : here.any (·.policy = mapping.1) = true
  · rw [if_pos hpolicy, if_pos (hhas.mp hpolicy), Finset.mem_image, mem_map_seat_expected]
    have hupper : ∀ u ∈ (view none upper).flatten, ¬ (u.depth = d + 1 ∧ u.policy = mapping.1) :=
      fun u hu hdeep => absurd hdeep.1 (Nat.ne_of_lt (h.depth_upper hu))
    have hhere : ∀ u ∈ here.map (seat (lastLevel none upper)),
        (u.depth = d + 1 ∧ u.policy = mapping.1 ↔ u.policy = mapping.1) :=
      fun u hu => and_iff_right (h.depth_here hu)
    constructor
    · rintro (hv | ⟨u, hu, rfl⟩)
      · exact ⟨v, h.mem_nodes_deepest.mpr (Or.inl hv), if_neg (hupper v hv)⟩
      · exact ⟨u, h.mem_nodes_deepest.mpr (Or.inr hu), if_congr (hhere u hu) rfl rfl⟩
    · rintro ⟨u, hu, rfl⟩
      rcases h.mem_nodes_deepest.mp hu with hu | hu
      · left
        rw [if_neg (hupper u hu)]
        exact hu
      · exact Or.inr ⟨u, hu, (if_congr (hhere u hu) rfl rfl).symm⟩
  · rw [if_neg hpolicy, if_neg (mt hhas.mpr hpolicy)]
    cases hany : here.find? (·.isAny) with
    | some any =>
        -- a node for the policy is put beside that for every policy
        have hin := h.find?_isAny hany
        obtain ⟨u, hu, hplace⟩ := ht.anyNodes_above hin
        rw [if_pos ⟨_, hin⟩, hu, Finset.image_singleton, Finset.mem_union, Finset.mem_singleton,
          h.mem_nodes_deepest, List.map_append, List.mem_append, List.map_singleton,
          List.mem_singleton, or_assoc, Node.child, hplace]
        exact Iff.rfl
    | none => rw [if_neg (h.anyNodes_empty hany), h.mem_nodes_deepest]

theorem modifyDeepest_modifyDeepest (f g : PolicyLevel → PolicyLevel) (tree : PolicyTree) :
    (tree.modifyDeepest f).modifyDeepest g = tree.modifyDeepest (g ∘ f) := by
  unfold modifyDeepest depth
  rw [List.length_modify, List.modify_modify_eq]

/-- The mappings of the deepest level are those of the reference. -/
theorem nodes_foldl_mapLevel {upper : List PolicyLevel} : ∀ {mappings : PolicyMappings}
    {tree : PolicyTree} {here : PolicyLevel}, Split tree (d + 1) upper here [] →
      Rooted tree.nodes (d + 1) → (∀ mapping ∈ mappings, Proper mapping) →
      WellFormed (tree.modifyDeepest fun nodes => mappings.foldl mapLevel nodes) (d + 1)
        ∧ (tree.modifyDeepest fun nodes => mappings.foldl mapLevel nodes).nodes
            = Rfc5280.mapAll tree.nodes d true mappings
  | [], tree, here, h, _, _ => by
      have hsame : tree.modifyDeepest (fun nodes => [].foldl mapLevel nodes) = tree := by
        unfold modifyDeepest
        exact congrArg PolicyTree.mk (List.modify_id _ _)
      rw [hsame]
      exact ⟨h.wellFormed rfl, rfl⟩
  | mapping :: rest, tree, here, h, ht, hproper => by
      obtain ⟨hfirst, hrest⟩ := List.forall_mem_cons.mp hproper
      have hone := nodes_mapLevel h ht mapping
      have hroot : Rooted (tree.modifyDeepest (mapLevel · mapping)).nodes (d + 1) := by
        rw [hone]
        exact ht.mapOne true hfirst
      have hall := nodes_foldl_mapLevel
        (h.modifyDeepest (f := (mapLevel · mapping)) (sits_mapLevel h.sits mapping)) hroot hrest
      rw [modifyDeepest_modifyDeepest, hone] at hall
      exact hall

/-- Deletion in the deepest level by policy. -/
theorem nodes_retainDeepest {upper : List PolicyLevel} {here : PolicyLevel}
    (h : Split tree d upper here []) (P : String → Prop) [DecidablePred P] :
    (tree.retainMask d (here.map fun node => !decide (P node.policy))).nodes
      = tree.nodes.filter fun v => ¬ (v.depth = d ∧ P v.policy) := by
  have hselect : (selectMask (here.map fun node => !decide (P node.policy)) here).map
      (seat (lastLevel none upper))
        = (here.map (seat (lastLevel none upper))).filter fun v => !decide (P v.policy) := by
    rw [← selectMask_map, ← selectMask_eq_filter, List.map_map]
    rfl
  refine Finset.ext fun v => ?_
  rw [(h.retainMask _).mem_nodes_deepest, hselect, List.mem_filter, Finset.mem_filter,
    h.mem_nodes_deepest, Bool.not_eq_true', decide_eq_false_iff_not]
  constructor
  · rintro (hv | ⟨hv, hP⟩)
    · exact ⟨Or.inl hv, fun hdeep => absurd hdeep.1 (Nat.ne_of_lt (h.depth_upper hv))⟩
    · exact ⟨Or.inr hv, fun hdeep => hP hdeep.2⟩
  · rintro ⟨hv | hv, hkept⟩
    · exact Or.inl hv
    · exact Or.inr ⟨hv, fun hP => hkept ⟨h.depth_here hv, hP⟩⟩

/-- Applying mappings is section 6.1.4 (b). -/
theorem nodes_applyMappings (h : WellFormed tree (d + 1)) (ht : Rooted tree.nodes (d + 1))
    (halive : ∀ v ∈ tree.nodes, Alive tree.nodes (d + 1) v) {mappings : PolicyMappings}
    (hproper : ∀ mapping ∈ mappings, Proper mapping) (allowed : Bool) :
    WellFormed (tree.applyMappings mappings allowed) (d + 1)
      ∧ (tree.applyMappings mappings allowed).nodes
          = Rfc5280.mapAll tree.nodes d allowed mappings := by
  obtain ⟨upper, here, hsplit⟩ := h.split_deepest
  cases allowed with
  | true => exact nodes_foldl_mapLevel hsplit ht hproper
  | false =>
      have hdeepest : tree.deepest = here := by rw [deepest, h.depth_eq, hsplit.level_eq]
      have hmaps : ∀ node : PolicyNode, mappings.maps node.policy
          = decide (∃ mapping ∈ mappings, mapping.1 = node.policy) := fun node => by
        rw [PolicyMappings.maps, Bool.eq_iff_iff, List.any_eq_true, decide_eq_true_iff]
        simp only [decide_eq_true_iff]
      have hcut := nodes_retainDeepest hsplit fun policy => ∃ mapping ∈ mappings, mapping.1 = policy
      rw [applyMappings, if_neg Bool.false_ne_true, h.depth_eq, hdeepest]
      simp only [hmaps]
      have hwell := h.retainMask (Nat.le_refl _)
        (here.map fun node => !decide (∃ mapping ∈ mappings, mapping.1 = node.policy))
      obtain ⟨hpruned, hnodes⟩ := nodes_prune hwell (by rw [hcut]; exact ht.filter_deepest _)
      refine ⟨hpruned, Finset.ext fun v => ?_⟩
      rw [hnodes, hcut, Rfc5280.mem_prune_filter_deepest ht
        fun policy => ∃ mapping ∈ mappings, mapping.1 = policy, Rfc5280.mem_mapAll_inhibited ht halive]
      simp only [not_exists, not_and, ne_eq, eq_comm]

end PolicyTree

end TrustPath
