import TrustPath.Proofs.Policy.TreeSteps

/-!
# The intersection on the levels

`PolicyTree.intersect` is section 6.1.5 (g). The reference deletes what
is foreign anywhere in the tree; the levels are gone through from the
top down, each one once, and the policies found below the nodes for
`anyPolicy` are collected on the way. A node has passed down to a level
when none of the places down to there on its way is foreign
(`intersectLevels_spec`).
-/

namespace TrustPath

namespace PolicyTree

open Rfc5280 (Node Rooted Foreign)

variable {tree : PolicyTree} {d n : Nat}

/-! ## One level -/

theorem isUnderAny_eq {upper deeper : List PolicyLevel} {here : PolicyLevel}
    (h : Split tree (n + 1) upper here deeper) {node : PolicyNode} (hnode : node ∈ here) :
    tree.isUnderAny (n + 1) node
      = decide ((seat (lastLevel none upper) node).above.head? = some anyPolicy) := by
  obtain ⟨init, prev, rfl⟩ : ∃ init prev, upper = init ++ [prev] := by
    rcases List.eq_nil_or_concat upper with rfl | ⟨init, prev, rfl⟩
    · exact absurd h.length (Nat.succ_ne_zero n).symm
    · exact ⟨init, prev, List.concat_eq_append⟩
  have hlevel : tree.level n = prev := by
    have hlength := h.length
    rw [List.length_append, List.length_singleton] at hlength
    rw [level, h.levels, List.append_assoc, List.getD_eq_getElem?_getD, ← Nat.succ.inj hlength,
      List.singleton_append, List.getElem?_append_right (Nat.le_refl _), Nat.sub_self]
    rfl
  have hsits := h.sits node hnode
  rw [lastLevel_concat] at hsits ⊢
  obtain ⟨p, u, hp, hu⟩ := hsits.exists_parent
  obtain ⟨old, hold, rfl⟩ := Option.map_eq_some_iff.mp (List.getElem?_map .. ▸ hu)
  rw [seat_some hp hu]
  unfold isUnderAny
  rw [hp]
  dsimp only
  rw [hlevel, hold, Option.any_some, PolicyNode.isAny, Node.place, List.head?_cons]
  simp only [Option.some.injEq]
  rfl

/-- The place of a depth on the way to a node is not foreign. -/
def Passes (acceptable : TextSet) (n : Nat) (v : Node) : Prop :=
  ∀ s, s <:+ v.place → s.length = n + 1 → ¬ Foreign acceptable s

/-- Below the depth a node passes just if its parent does. -/
theorem passes_child {acceptable : TextSet} {u w : Node} (hle : n ≤ u.depth)
    (habove : w.above = u.place) : Passes acceptable n w ↔ Passes acceptable n u := by
  refine forall_congr' fun s => ⟨fun hw hs => hw ?_, fun hu hs hlength => ?_⟩
  · rw [Node.place, habove]
    exact hs.trans (List.suffix_cons ..)
  · rcases List.suffix_cons_iff.mp hs with rfl | hs
    · rw [List.length_cons, habove] at hlength
      have hdepth : u.place.length = u.depth + 1 := rfl
      omega
    · exact hu (habove ▸ hs) hlength

/-- At the depth the place is the node's own. -/
theorem passes_self {acceptable : TextSet} {v : Node} (hdepth : v.depth = n) :
    Passes acceptable n v ↔ ¬ Foreign acceptable v.place := by
  have hlength : v.place.length = n + 1 := congrArg (· + 1) hdepth
  refine ⟨fun hall => hall _ (List.suffix_refl _) hlength, fun hnot s hs hslength => ?_⟩
  rwa [hs.eq_of_length (hslength.trans hlength.symm)]

theorem passes_above {acceptable : TextSet} {v : Node} (hdepth : v.depth < n) :
    Passes acceptable n v := by
  intro s hs hlength
  have hle := hs.length_le
  have hplace : v.place.length = v.depth + 1 := rfl
  omega

/-- The mask of a level marks the nodes that pass. -/
theorem Split.intersectMask_eq {upper deeper : List PolicyLevel} {here : PolicyLevel}
    (h : Split tree (n + 1) upper here deeper) (acceptable : TextSet) {f : Node → Bool}
    (hf : ∀ v, f v = true ↔ Passes acceptable (n + 1) v) :
    (tree.level (n + 1)).map (fun node =>
        !tree.isUnderAny (n + 1) node || node.isAny || acceptable.contains node.policy)
      = (here.map (seat (lastLevel none upper))).map f := by
  rw [h.level_eq, List.map_map]
  refine List.map_congr_left fun node hnode => ?_
  have hdepth := h.depth_here (List.mem_map_of_mem hnode)
  rw [isUnderAny_eq h hnode, Function.comp_apply, Bool.eq_iff_iff, hf, passes_self hdepth,
    Rfc5280.foreign_place, Bool.or_eq_true, Bool.or_eq_true, Bool.not_eq_true',
    decide_eq_false_iff_not, TextSet.contains_iff, PolicyNode.isAny, decide_eq_true_iff]
  show _ ↔ ¬ (_ ∧ node.policy ∉ acceptable ∧ node.policy ≠ anyPolicy)
  tauto

/-- Deleting what is foreign at a level, with all that hangs below. -/
theorem mem_nodes_intersectLevel (h : WellFormed tree d) (hn : n < d) {acceptable : TextSet}
    {v : Node} :
    v ∈ (intersectLevel acceptable tree (n + 1)).nodes ↔
      v ∈ tree.nodes ∧ Passes acceptable (n + 1) v := by
  classical
  obtain ⟨upper, here, deeper, hsplit⟩ := h.split hn
  have hinherit : ∀ u w : Node, n + 1 ≤ u.depth → w.above = u.place →
      decide (Passes acceptable (n + 1) w) = decide (Passes acceptable (n + 1) u) :=
    fun u w hle habove => decide_eq_decide.mpr (passes_child hle habove)
  have hdepth : ∀ u ∈ here.map (seat (lastLevel none upper)), n + 1 ≤ u.depth :=
    fun u hu => Nat.le_of_eq (hsplit.depth_here hu).symm
  rw [intersectLevel, hsplit.intersectMask_eq acceptable fun _ => decide_eq_true_iff,
    (hsplit.retainMask _).mem_nodes, ← selectMask_map, selectMask_eq_filter,
    view_relinkBelow_filter hinherit hdepth hsplit.hangsBelow, ← List.filter_flatten,
    hsplit.mem_nodes, List.mem_filter, List.mem_filter, decide_eq_true_iff]
  constructor
  · rintro (hv | ⟨hv, hpasses⟩ | ⟨hv, hpasses⟩)
    · exact ⟨Or.inl hv, passes_above (hsplit.depth_upper hv)⟩
    · exact ⟨Or.inr (Or.inl hv), hpasses⟩
    · exact ⟨Or.inr (Or.inr hv), hpasses⟩
  · rintro ⟨hv | hv | hv, hpasses⟩
    · exact Or.inl hv
    · exact Or.inr (Or.inl ⟨hv, hpasses⟩)
    · exact Or.inr (Or.inr ⟨hv, hpasses⟩)

theorem mem_policiesUnderAny (h : WellFormed tree d) (hn : n < d) {policy : String} :
    policy ∈ tree.policiesUnderAny (n + 1) ↔
      ∃ v ∈ Rfc5280.level tree.nodes (n + 1), v.above.head? = some anyPolicy
        ∧ v.policy = policy := by
  obtain ⟨upper, here, deeper, hsplit⟩ := h.split hn
  rw [policiesUnderAny, hsplit.level_eq]
  simp only [List.mem_map, List.mem_filter, ← hsplit.mem_here]
  constructor
  · rintro ⟨node, ⟨hnode, hunder⟩, rfl⟩
    rw [isUnderAny_eq hsplit hnode] at hunder
    exact ⟨_, ⟨node, hnode, rfl⟩, of_decide_eq_true hunder, rfl⟩
  · rintro ⟨_, ⟨node, hnode, rfl⟩, hunder, rfl⟩
    refine ⟨node, ⟨hnode, ?_⟩, rfl⟩
    rw [isUnderAny_eq hsplit hnode]
    exact decide_eq_true hunder

/-! ## All levels -/

/-- What has passed when the intersection has gone down to a level: the
nodes without a foreign place of that depth on their way, and the
policies found below the nodes for `anyPolicy`. -/
theorem intersectLevels_spec (h : WellFormed tree d) (ht : Rooted tree.nodes d)
    (acceptable : TextSet) : ∀ n ≤ d,
      let passed := (List.range n).foldl (fun (t, found) n =>
        (intersectLevel acceptable t (n + 1), found ++ t.policiesUnderAny (n + 1))) (tree, [])
      WellFormed passed.1 d
        ∧ (∀ v, v ∈ passed.1.nodes ↔
            v ∈ tree.nodes ∧ ∀ s, s <:+ v.place → s.length ≤ n + 1 → ¬ Foreign acceptable s)
        ∧ ∀ policy, policy ∈ passed.2 ↔
            ∃ v ∈ Rfc5280.nodeSet tree.nodes, v.depth ≤ n ∧ v.policy = policy
  | 0, _ => by
      refine ⟨h, fun v => ⟨fun hv => ⟨hv, ?_⟩, And.left⟩, fun policy => ⟨nofun, ?_⟩⟩
      · rintro s - hlength ⟨p, above, rfl, -⟩
        rw [List.length_cons, List.length_cons] at hlength
        omega
      · rintro ⟨v, hv, hdepth, -⟩
        obtain ⟨-, hhead⟩ := (Rfc5280.mem_nodeSet ht).mp hv
        rw [List.length_eq_zero_iff.mp (Nat.le_zero.mp hdepth)] at hhead
        cases hhead
  | n + 1, hn => by
      obtain ⟨hwell, hnodes, hfound⟩ := intersectLevels_spec h ht acceptable n (Nat.le_of_succ_le hn)
      rw [List.range_succ, List.foldl_append]
      generalize (List.range n).foldl (fun (t, found) n =>
        (intersectLevel acceptable t (n + 1), found ++ t.policiesUnderAny (n + 1))) (tree, [])
          = passed at hwell hnodes hfound
      refine ⟨hwell.retainMask hn _, fun v => ?_, fun policy => ?_⟩
      · refine (mem_nodes_intersectLevel hwell hn).trans ?_
        rw [hnodes, and_assoc]
        refine and_congr_right fun _ => ⟨fun hall s hs hlength => ?_, fun hall => ?_⟩
        · rcases Nat.le_succ_iff.mp hlength with hless | heq
          · exact hall.1 s hs hless
          · exact hall.2 s hs heq
        · exact ⟨fun s hs hlength => hall s hs (Nat.le_succ_of_le hlength),
            fun s hs hlength => hall s hs (Nat.le_of_eq hlength)⟩
      · refine List.mem_append.trans ?_
        rw [hfound, mem_policiesUnderAny hwell hn]
        have hstays : ∀ v ∈ Rfc5280.nodeSet tree.nodes, v.depth = n + 1 →
            v ∈ passed.1.nodes := by
          intro v hv hdepth
          refine (hnodes v).mpr ⟨(Finset.mem_filter.mp hv).1, fun s hs hlength => ?_⟩
          refine ht.not_foreign_above hv ((List.suffix_cons_iff.mp hs).resolve_left fun hown => ?_)
          have hfull : v.above.length = n + 1 := hdepth
          rw [hown, List.length_cons] at hlength
          omega
        constructor
        · rintro (⟨v, hv, hdepth, hpolicy⟩ | ⟨v, hv, hhead, hpolicy⟩)
          · exact ⟨v, hv, Nat.le_succ_of_le hdepth, hpolicy⟩
          · obtain ⟨hv, hdepth⟩ := Rfc5280.mem_level.mp hv
            exact ⟨v, (Rfc5280.mem_nodeSet ht).mpr ⟨((hnodes v).mp hv).1, hhead⟩,
              Nat.le_of_eq hdepth, hpolicy⟩
        · rintro ⟨v, hv, hdepth, hpolicy⟩
          rcases Nat.le_succ_iff.mp hdepth with hless | heq
          · exact Or.inl ⟨v, hv, hless, hpolicy⟩
          · exact Or.inr ⟨v, Rfc5280.mem_level.mpr ⟨hstays v hv heq, heq⟩,
              ((Rfc5280.mem_nodeSet ht).mp hv).2, hpolicy⟩

/-! ## The node for every policy -/

theorem sits_expandAny {above : Option (List Node)} {here : PolicyLevel}
    (h : ∀ node ∈ here, Sits above node) (acceptable : TextSet) (found : List String) :
    ∀ node ∈ expandAny acceptable found here, Sits above node := by
  unfold expandAny
  split
  · exact h
  · next any hany =>
    intro node hnode
    rcases List.mem_append.mp (List.mem_filter.mp hnode).1 with hold | hnew
    · exact h node hold
    · obtain ⟨policy, -, rfl⟩ := List.mem_map.mp hnew
      exact h any (List.mem_of_find?_eq_some hany)

/-- The expansion of the node for every policy is section 6.1.5
(g)(iii)3. -/
theorem nodes_expandAny (h : WellFormed tree (d + 1)) (ht : Rooted tree.nodes (d + 1))
    {acceptable : TextSet} {found : List String} {policies : Finset String}
    (hnot : anyPolicy ∉ policies)
    (hpolicies : ∀ policy, policy ∈ policies ↔ policy ∈ acceptable ∧ policy ∉ found) :
    WellFormed (tree.modifyDeepest (expandAny acceptable found)) (d + 1)
      ∧ (tree.modifyDeepest (expandAny acceptable found)).nodes
          = Rfc5280.replaceAny tree.nodes d policies := by
  obtain ⟨upper, here, hsplit⟩ := h.split_deepest
  have hexpanded := hsplit.modifyDeepest (sits_expandAny hsplit.sits acceptable found)
  refine ⟨hexpanded.wellFormed rfl, Finset.ext fun v => ?_⟩
  rw [hexpanded.mem_nodes_deepest, Rfc5280.mem_replaceAny hnot, hsplit.mem_nodes_deepest]
  have hupper : v ∈ (view none upper).flatten → ¬ (v.depth = d + 1 ∧ v.policy = anyPolicy) :=
    fun hv hdeep => absurd hdeep.1 (Nat.ne_of_lt (hsplit.depth_upper hv))
  unfold expandAny
  cases hany : here.find? (·.isAny) with
  | none =>
      have hnone := hsplit.anyNodes_empty hany
      constructor
      · intro hv
        refine Or.inl ⟨hv, fun hdeep => hnone ⟨v, Rfc5280.mem_anyNodes.mpr ⟨?_, hdeep⟩⟩⟩
        exact hsplit.mem_nodes_deepest.mpr hv
      · rintro (⟨hv, -⟩ | ⟨hsome, -⟩)
        · exact hv
        · exact absurd hsome hnone
  | some any =>
      have hin := hsplit.find?_isAny hany
      obtain ⟨u, hu, hplace⟩ := ht.anyNodes_above hin
      have hleaf : ∀ policy, seat (lastLevel none upper) (.leaf policy any.parent) = u.leaf policy := by
        intro policy
        rw [Node.leaf, Node.child, hplace]
        rfl
      simp only [hu, Finset.mem_singleton, exists_eq_left, List.mem_map, List.mem_filter,
        List.mem_append, PolicyNode.isAny, Bool.not_eq_true', decide_eq_false_iff_not,
        List.contains_eq_mem, hpolicies]
      constructor
      · rintro (hv | ⟨_, ⟨hold | ⟨policy, ⟨hin', hnew⟩, rfl⟩, hnotAny⟩, rfl⟩)
        · exact Or.inl ⟨Or.inl hv, hupper hv⟩
        · exact Or.inl ⟨Or.inr ⟨_, hold, rfl⟩, fun hdeep => hnotAny hdeep.2⟩
        · exact Or.inr ⟨⟨_, hin⟩, policy, ⟨hin', hnew⟩, (hleaf policy).symm⟩
      · rintro (⟨hv | ⟨node, hnode, rfl⟩, hkept⟩ | ⟨-, policy, ⟨hin', hnew⟩, rfl⟩)
        · exact Or.inl hv
        · refine Or.inr ⟨node, ⟨Or.inl hnode, fun hpolicy => hkept ⟨?_, hpolicy⟩⟩, rfl⟩
          exact hsplit.depth_here (List.mem_map_of_mem hnode)
        · refine Or.inr ⟨_, ⟨Or.inr ⟨policy, ⟨hin', hnew⟩, rfl⟩, fun heq => hnot ?_⟩, hleaf policy⟩
          obtain rfl : policy = anyPolicy := heq
          exact (hpolicies _).mpr ⟨hin', hnew⟩

/-- The intersection with the acceptable policies is section 6.1.5 (g). -/
theorem nodes_intersect (h : WellFormed tree (d + 1)) (ht : Rooted tree.nodes (d + 1))
    (acceptable : TextSet) :
    WellFormed (tree.intersect acceptable) (d + 1)
      ∧ (tree.intersect acceptable).nodes = Rfc5280.intersect tree.nodes d acceptable := by
  have hall : (acceptable.isEmpty || acceptable.contains anyPolicy) = true
      ↔ acceptable.toList = [] ∨ anyPolicy ∈ acceptable := by
    rw [Bool.or_eq_true, TextSet.contains_iff, TextSet.isEmpty, List.isEmpty_iff]
  unfold intersect Rfc5280.intersect
  by_cases hany : acceptable.toList = [] ∨ anyPolicy ∈ acceptable
  · rw [if_pos (hall.mpr hany), if_pos hany]
    exact ⟨h, rfl⟩
  · rw [if_neg (mt hall.mp hany), if_neg hany]
    have hnotAny : anyPolicy ∉ acceptable := fun hin => hany (Or.inr hin)
    obtain ⟨hwell, hnodes, hfound⟩ := intersectLevels_spec h ht acceptable (d + 1) (Nat.le_refl _)
    unfold intersectLevels
    rw [h.depth_eq]
    generalize (List.range (d + 1)).foldl (fun (t, found) n =>
      (intersectLevel acceptable t (n + 1), found ++ t.policiesUnderAny (n + 1))) (tree, [])
        = passed at hwell hnodes hfound
    have hkept : passed.1.nodes = Rfc5280.deleteForeign tree.nodes acceptable := by
      refine Finset.ext fun v => ?_
      rw [hnodes, Rfc5280.mem_deleteForeign ht]
      refine and_congr_right fun hv => forall_congr' fun s => forall_congr' fun hs =>
        ⟨fun hnone => hnone ?_, fun hnone _ => hnone⟩
      have hshallow := ht.shallow v hv
      have hle := hs.length_le
      have hplace : v.place.length = v.depth + 1 := rfl
      omega
    have hmissing : ∀ policy, policy ∈ Rfc5280.missing tree.nodes acceptable ↔
        policy ∈ acceptable ∧ policy ∉ passed.2 := by
      intro policy
      rw [Rfc5280.mem_missing, hfound]
      refine and_congr_right fun _ => ⟨?_, fun hnone v hv hpolicy => hnone ⟨v, hv, ?_, hpolicy⟩⟩
      · rintro hnone ⟨v, hv, -, hpolicy⟩
        exact hnone v hv hpolicy
      · exact ht.shallow v ((Rfc5280.mem_nodeSet ht).mp hv).1
    have hnot : anyPolicy ∉ Rfc5280.missing tree.nodes acceptable :=
      fun hin => hnotAny ((hmissing _).mp hin).1
    obtain ⟨hreplaced, hnew⟩ :=
      nodes_expandAny hwell (hkept ▸ ht.deleteForeign acceptable) hnot hmissing
    have hrooted := ht.replaceMissing hnotAny
    rw [← hkept, ← hnew] at hrooted
    obtain ⟨hpruned, hleft⟩ := nodes_prune hreplaced hrooted
    refine ⟨hpruned, ?_⟩
    rw [hnew, hkept] at hleft
    exact hleft

end PolicyTree

end TrustPath
