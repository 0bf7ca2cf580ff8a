import TrustPath.Proofs.Policy.Levels

/-!
# Parts of the tree

A deletion is said without the order of its steps: it leaves the nodes at
some positions (`PolicyTree.restrict`). They stay in their order, with
their policies and what they expect, and the place of a parent is the
number of nodes kept before it (`shifted`).

Two laws make this convenient. A part of a part is a part
(`restrict_restrict`), whatever is kept, so deletions one after another
are one deletion. And what the loop over the levels does is a part as
soon as the positions it marks agree, level by level, with those that are
kept (`retainMask_eq_restrict`): positions are renumbered in this proof
and nowhere else.
-/

namespace TrustPath

/-! ## Positions that are kept -/

section Selection

variable {α β : Type} {kept kept' : Nat → Bool} {as : List α} {a : α} {i : Nat}

/-- The place of a position when those before it that are not kept are
gone. -/
def shifted (kept : Nat → Bool) (i : Nat) : Nat := (List.range i).countP kept

/-- The members of a list at the positions that are kept. -/
def selected (kept : Nat → Bool) (as : List α) : List α :=
  (as.zipIdx.filter fun (_, i) => kept i).map (·.1)

theorem shifted_succ (kept : Nat → Bool) (i : Nat) :
    shifted kept (i + 1) = shifted kept i + if kept i then 1 else 0 := by
  rw [shifted, List.range_succ, List.countP_append, List.countP_singleton]
  rfl

theorem shifted_congr (h : ∀ j < i, kept j = kept' j) : shifted kept i = shifted kept' i :=
  List.countP_congr fun j hj => by rw [h j (List.mem_range.mp hj)]

theorem shifted_of_all (h : ∀ j < i, kept j = true) : shifted kept i = i := by
  rw [shifted, List.countP_eq_length.mpr fun j hj => h j (List.mem_range.mp hj), List.length_range]

theorem shifted_le_shifted {j : Nat} (h : i ≤ j) : shifted kept i ≤ shifted kept j :=
  List.Sublist.countP_le (List.range_sublist.mpr h)

theorem selected_concat (kept : Nat → Bool) (as : List α) (a : α) :
    selected kept (as ++ [a]) = selected kept as ++ if kept as.length then [a] else [] := by
  rw [selected, List.zipIdx_append, List.filter_append, List.map_append, Nat.zero_add]
  refine congrArg (selected kept as ++ ·) ?_
  show List.map _ (List.filter _ [(a, as.length)]) = _
  cases hkept : kept as.length with
  | true => simp [hkept]
  | false => simp [hkept]

theorem length_selected (kept : Nat → Bool) (as : List α) :
    (selected kept as).length = shifted kept as.length := by
  induction as using List.reverseRecOn with
  | nil => rfl
  | append_singleton as a ih =>
      rw [selected_concat, List.length_append, ih, List.length_append, List.length_singleton,
        shifted_succ]
      cases kept as.length <;> rfl

theorem mem_selected : a ∈ selected kept as ↔ ∃ i, kept i = true ∧ as[i]? = some a := by
  simp only [selected, List.mem_map, List.mem_filter, Prod.exists, List.mem_zipIdx_iff_getElem?]
  constructor
  · rintro ⟨b, i, ⟨hi, hkept⟩, rfl⟩
    exact ⟨i, hkept, hi⟩
  · rintro ⟨i, hkept, hi⟩
    exact ⟨a, i, ⟨hi, hkept⟩, rfl⟩

theorem selected_sublist (kept : Nat → Bool) (as : List α) : (selected kept as).Sublist as := by
  have hsub : (selected kept as).Sublist (as.zipIdx.map (·.1)) := List.filter_sublist.map _
  rwa [List.zipIdx_map_fst] at hsub

theorem selected_congr (h : ∀ i < as.length, kept i = kept' i) :
    selected kept as = selected kept' as := by
  refine congrArg (List.map _) (List.filter_congr fun p hp => ?_)
  exact h p.2 (List.snd_lt_of_mem_zipIdx hp)

theorem selected_of_all (h : ∀ i < as.length, kept i = true) : selected kept as = as := by
  have hall : as.zipIdx.filter (fun (_, i) => kept i) = as.zipIdx :=
    List.filter_eq_self.mpr fun p hp => h p.2 (List.snd_lt_of_mem_zipIdx hp)
  rw [selected, hall, List.zipIdx_map_fst]

theorem selected_map (f : α → β) (kept : Nat → Bool) (as : List α) :
    selected kept (as.map f) = (selected kept as).map f := by
  induction as using List.reverseRecOn with
  | nil => rfl
  | append_singleton as a ih =>
      rw [List.map_append, List.map_singleton, selected_concat, selected_concat, ih,
        List.length_map, List.map_append]
      cases kept as.length <;> rfl

/-- What stands at a position that is kept stands at its new place. -/
theorem getElem?_selected (hkept : kept i = true) (as : List α) :
    (selected kept as)[shifted kept i]? = as[i]? := by
  induction as using List.reverseRecOn with
  | nil => rfl
  | append_singleton as a ih =>
      rw [selected_concat]
      rcases Nat.lt_trichotomy i as.length with hlt | rfl | hgt
      · have hin : shifted kept i < (selected kept as).length := by
          have hsome : (selected kept as)[shifted kept i]? = some as[i] :=
            ih.trans (List.getElem?_eq_getElem hlt)
          exact (List.getElem?_eq_some_iff.mp hsome).1
        rw [List.getElem?_append_left hin, ih, List.getElem?_append_left hlt]
      · rw [← length_selected, hkept, List.getElem?_concat_length, if_pos rfl,
          List.getElem?_concat_length]
      · have hpast : shifted kept (as ++ [a]).length ≤ shifted kept i :=
          shifted_le_shifted (by rw [List.length_append, List.length_singleton]; omega)
        rw [← selected_concat, List.getElem?_eq_none (by rw [length_selected]; exact hpast),
          List.getElem?_eq_none (by rw [List.length_append, List.length_singleton]; omega)]

theorem shifted_lt_length (hkept : kept i = true) (hi : i < as.length) :
    shifted kept i < (selected kept as).length := by
  have hsome : (selected kept as)[shifted kept i]? = some as[i] :=
    (getElem?_selected hkept as).trans (List.getElem?_eq_getElem hi)
  exact (List.getElem?_eq_some_iff.mp hsome).1

/-- The place after two deletions. -/
theorem shifted_shifted (kept kept' : Nat → Bool) (i : Nat) :
    shifted kept' (shifted kept i)
      = shifted (fun j => kept j && kept' (shifted kept j)) i := by
  induction i with
  | zero => rfl
  | succ i ih =>
      rw [shifted_succ, shifted_succ, ← ih]
      cases kept i with
      | true => exact shifted_succ kept' _
      | false => rfl

/-- Two deletions are one. -/
theorem selected_selected (kept kept' : Nat → Bool) (as : List α) :
    selected kept' (selected kept as)
      = selected (fun i => kept i && kept' (shifted kept i)) as := by
  induction as using List.reverseRecOn with
  | nil => rfl
  | append_singleton as a ih =>
      rw [selected_concat, selected_concat, ← ih]
      cases kept as.length with
      | true => rw [if_pos rfl, selected_concat, length_selected, Bool.true_and]
      | false => simp

/-! ### Masks -/

theorem selectMask_concat : ∀ (keep : List Bool) (as : List α) (a : α),
    selectMask keep (as ++ [a])
      = selectMask keep as ++ if keep.getD as.length false then [a] else []
  | [], as, a => by simp [selectMask]
  | true :: keep, [], a => by simp [selectMask]
  | false :: keep, [], a => by simp [selectMask]
  | true :: keep, b :: as, a => by
      rw [List.cons_append, selectMask, selectMask_concat keep as a, selectMask, List.cons_append,
        List.length_cons, List.getD_cons_succ]
  | false :: keep, b :: as, a => by
      rw [List.cons_append, selectMask, selectMask_concat keep as a, selectMask,
        List.length_cons, List.getD_cons_succ]

theorem selectMask_eq_selected (keep : List Bool) (as : List α) :
    selectMask keep as = selected (keep.getD · false) as := by
  induction as using List.reverseRecOn with
  | nil => cases keep with
    | nil => rfl
    | cons k keep => cases k <;> rfl
  | append_singleton as a ih => rw [selectMask_concat, selected_concat, ih]

theorem newPlace?_eq (keep : List Bool) (i : Nat) :
    newPlace? keep i
      = if keep.getD i false then some (shifted (keep.getD · false) i) else none := by
  have hcount : ∀ i, (keep.take i).count true = shifted (keep.getD · false) i := by
    intro i
    induction i with
    | zero => rfl
    | succ i ih =>
        rw [List.take_add_one, List.count_append, ih, shifted_succ, List.getD_eq_getElem?_getD]
        cases keep[i]? with
        | none => rfl
        | some k => cases k <;> rfl
  rw [newPlace?, hcount]

end Selection

/-- The node when the places of the level above change. -/
def PolicyNode.moved (place : Nat → Nat) (node : PolicyNode) : PolicyNode :=
  { node with parent := node.parent.map place }

namespace PolicyNode

theorem moved_of_parent {place : Nat → Nat} {node : PolicyNode} {p : Nat}
    (hparent : node.parent = some p) (hplace : place p = p) : node.moved place = node := by
  cases node
  subst hparent
  exact congrArg (PolicyNode.mk _ _ <| some ·) hplace

theorem moved_of_root {place : Nat → Nat} {node : PolicyNode} (hparent : node.parent = none) :
    node.moved place = node := by
  cases node
  subst hparent
  rfl

theorem moved_moved (place place' : Nat → Nat) (node : PolicyNode) :
    (node.moved place).moved place' = node.moved (place' ∘ place) := by
  rw [moved, moved, moved, Option.map_map]

end PolicyNode

namespace PolicyTree

variable {tree tree' : PolicyTree} {kept kept' : Nat → Nat → Bool} {n k i p : Nat}
  {node : PolicyNode}

/-! ## Trees with parents -/

/-- The topmost nodes have no parent, and every other node has one in the
level above. -/
structure Parented (tree : PolicyTree) : Prop where
  root : ∀ node ∈ tree.level 0, node.parent = none
  below : ∀ k, ∀ node ∈ tree.level (k + 1), ∃ p < (tree.level k).length, node.parent = some p

theorem level_of_ge (h : tree.levels.length ≤ k) : tree.level k = [] := by
  rw [level, List.getD_eq_getElem?_getD, List.getElem?_eq_none h]
  rfl

theorem level_of_lt (h : k < tree.levels.length) : tree.level k = tree.levels[k] := by
  rw [level, List.getD_eq_getElem?_getD, List.getElem?_eq_getElem h]
  rfl

theorem levels_of_drop {nodes : PolicyLevel} {deeper : List PolicyLevel}
    (h : tree.levels.drop n = nodes :: deeper) :
    n < tree.levels.length ∧ tree.level n = nodes ∧ tree.levels.drop (n + 1) = deeper := by
  have hlt : n < tree.levels.length :=
    Nat.lt_of_not_le fun hge => List.cons_ne_nil _ _ (h.symm.trans (List.drop_eq_nil_iff.mpr hge))
  rw [List.drop_eq_getElem_cons hlt] at h
  obtain ⟨hnodes, hrest⟩ := List.cons.inj h
  exact ⟨hlt, (level_of_lt hlt).trans hnodes, hrest⟩

theorem eq_of_levels (hlength : tree.levels.length = tree'.levels.length)
    (h : ∀ k, tree.level k = tree'.level k) : tree = tree' := by
  suffices hlevels : tree.levels = tree'.levels by
    cases tree
    exact congrArg PolicyTree.mk hlevels
  refine List.ext_getElem hlength fun k hk hk' => ?_
  rw [← level_of_lt hk, ← level_of_lt hk', h]

/-- Of two positions, each the number of a level and a place in it, the
second is that of a node whose parent stands at the first. -/
def IsChild (tree : PolicyTree) (above below : Nat × Nat) : Prop :=
  below.1 = above.1 + 1 ∧
    ∃ node, (tree.level below.1)[below.2]? = some node ∧ node.parent = some above.2

theorem isChild_of (hi : (tree.level (k + 1))[i]? = some node) (hp : node.parent = some p) :
    IsChild tree (k, p) (k + 1, i) :=
  ⟨rfl, node, hi, hp⟩

theorem IsChild.unique {u v w : Nat × Nat} (hu : IsChild tree u w) (hv : IsChild tree v w) :
    u = v := by
  obtain ⟨hlevel, node, hnode, hp⟩ := hu
  obtain ⟨hlevel', node', hnode', hp'⟩ := hv
  obtain rfl : node = node' := Option.some.inj (hnode.symm.trans hnode')
  exact Prod.ext (by omega) (Option.some.inj (hp.symm.trans hp'))

/-! ## Parts of a tree -/

/-- The nodes of a tree at the positions that are kept of each level. -/
def restrict (tree : PolicyTree) (kept : Nat → Nat → Bool) : PolicyTree :=
  ⟨tree.levels.mapIdx fun k nodes =>
    (selected (kept k) nodes).map (·.moved (shifted (kept (k - 1))))⟩

/-- With a node its parent is kept. -/
def Closed (tree : PolicyTree) (kept : Nat → Nat → Bool) : Prop :=
  ∀ u w, IsChild tree u w → kept w.1 w.2 = true → kept u.1 u.2 = true

theorem length_restrict (tree : PolicyTree) (kept : Nat → Nat → Bool) :
    (tree.restrict kept).levels.length = tree.levels.length :=
  List.length_mapIdx

theorem depth_restrict (tree : PolicyTree) (kept : Nat → Nat → Bool) :
    (tree.restrict kept).depth = tree.depth := by
  rw [depth, length_restrict, depth]

theorem level_restrict (tree : PolicyTree) (kept : Nat → Nat → Bool) (k : Nat) :
    (tree.restrict kept).level k
      = (selected (kept k) (tree.level k)).map (·.moved (shifted (kept (k - 1)))) := by
  rw [level, restrict, List.getD_eq_getElem?_getD, List.getElem?_mapIdx, level,
    List.getD_eq_getElem?_getD]
  cases tree.levels[k]? <;> rfl

theorem mem_level_restrict :
    node ∈ (tree.restrict kept).level k ↔
      ∃ i old, kept k i = true ∧ (tree.level k)[i]? = some old
        ∧ old.moved (shifted (kept (k - 1))) = node := by
  rw [level_restrict, List.mem_map]
  simp only [mem_selected]
  constructor
  · rintro ⟨old, ⟨i, hkept, hi⟩, rfl⟩
    exact ⟨i, old, hkept, hi, rfl⟩
  · rintro ⟨i, old, hkept, hi, rfl⟩
    exact ⟨old, ⟨i, hkept, hi⟩, rfl⟩

/-- A node that is kept stands at its new place. -/
theorem getElem?_level_restrict (hkept : kept k i = true) :
    ((tree.restrict kept).level k)[shifted (kept k) i]?
      = (tree.level k)[i]?.map (·.moved (shifted (kept (k - 1)))) := by
  rw [level_restrict, List.getElem?_map, getElem?_selected hkept]

theorem Parented.restrict (h : Parented tree) (hclosed : Closed tree kept) :
    Parented (tree.restrict kept) where
  root := by
    intro node hnode
    obtain ⟨i, old, -, hi, rfl⟩ := mem_level_restrict.mp hnode
    rw [PolicyNode.moved, h.root old (List.mem_of_getElem? hi)]
    rfl
  below := by
    intro k node hnode
    obtain ⟨i, old, hkept, hi, rfl⟩ := mem_level_restrict.mp hnode
    obtain ⟨p, hlt, hp⟩ := h.below k old (List.mem_of_getElem? hi)
    refine ⟨shifted (kept k) p, ?_, by rw [PolicyNode.moved, hp]; rfl⟩
    rw [level_restrict, List.length_map]
    exact shifted_lt_length (hclosed _ _ (isChild_of hi hp) hkept) hlt

/-- The new position of a node that is kept. -/
def placed (kept : Nat → Nat → Bool) (v : Nat × Nat) : Nat × Nat := (v.1, shifted (kept v.1) v.2)

/-- A child that is kept is a child of the same node afterwards. -/
theorem IsChild.placed {v w : Nat × Nat} (h : IsChild tree v w) (hw : kept w.1 w.2 = true) :
    IsChild (tree.restrict kept) (PolicyTree.placed kept v) (PolicyTree.placed kept w) := by
  obtain ⟨hlevel, node, hnode, hp⟩ := h
  refine ⟨hlevel, node.moved (shifted (kept v.1)), ?_, ?_⟩
  · rw [PolicyTree.placed, getElem?_level_restrict hw, hnode, hlevel, Nat.add_sub_cancel]
    rfl
  · rw [PolicyNode.moved, hp]
    rfl

/-- A part of a part. -/
theorem restrict_restrict (tree : PolicyTree) (kept kept' : Nat → Nat → Bool) :
    (tree.restrict kept).restrict kept'
      = tree.restrict fun k i => kept k i && kept' k (shifted (kept k) i) := by
  refine eq_of_levels (by simp only [length_restrict]) fun k => ?_
  rw [level_restrict, level_restrict, selected_map, List.map_map, selected_selected, level_restrict]
  refine List.map_congr_left fun node _ => ?_
  rw [Function.comp_apply, PolicyNode.moved_moved]
  exact congrArg (PolicyNode.moved · node) (funext fun p => shifted_shifted _ _ p)

/-- What is kept matters where there are nodes only. -/
theorem restrict_congr (h : Parented tree)
    (hsame : ∀ k i, i < (tree.level k).length → kept k i = kept' k i) :
    tree.restrict kept = tree.restrict kept' := by
  refine eq_of_levels (by simp only [length_restrict]) fun k => ?_
  rw [level_restrict, level_restrict, selected_congr (hsame k)]
  refine List.map_congr_left fun node hnode => ?_
  obtain ⟨i, -, hi⟩ := mem_selected.mp hnode
  cases k with
  | zero =>
      have hroot := h.root node (List.mem_of_getElem? hi)
      rw [PolicyNode.moved_of_root hroot, PolicyNode.moved_of_root hroot]
  | succ k =>
      obtain ⟨p, hlt, hp⟩ := h.below k node (List.mem_of_getElem? hi)
      rw [PolicyNode.moved, PolicyNode.moved, hp]
      have hplace : shifted (kept k) p = shifted (kept' k) p :=
        shifted_congr fun j hj => hsame k j (Nat.lt_trans hj hlt)
      exact congrArg (PolicyNode.mk _ _ <| some ·) hplace

theorem restrict_all (h : Parented tree)
    (hall : ∀ k i, i < (tree.level k).length → kept k i = true) : tree.restrict kept = tree := by
  refine eq_of_levels (length_restrict ..) fun k => ?_
  rw [level_restrict, selected_of_all (hall k)]
  refine (List.map_congr_left fun node hnode => ?_).trans (List.map_id _)
  cases k with
  | zero => exact PolicyNode.moved_of_root (h.root node hnode)
  | succ k =>
      obtain ⟨p, hlt, hp⟩ := h.below k node hnode
      exact PolicyNode.moved_of_parent hp
        (shifted_of_all fun j hj => hall k j (Nat.lt_trans hj hlt))

/-! ## The deletion of the program -/

/-- One level of a deletion: the nodes whose parent is kept are kept, with
its new place. -/
theorem relink_eq {keep : List Bool} {here below : Nat → Bool} {above nodes : PolicyLevel}
    (hkeep : ∀ i < above.length, keep.getD i false = here i)
    (hnodes : ∀ i node, nodes[i]? = some node →
      ∃ p < above.length, node.parent = some p ∧ below i = here p) :
    relink (newPlace? keep) nodes = (selected below nodes).map (·.moved (shifted here)) := by
  induction nodes using List.reverseRecOn with
  | nil => rfl
  | append_singleton nodes node ih =>
      have hinit : ∀ i old, nodes[i]? = some old →
          ∃ p < above.length, old.parent = some p ∧ below i = here p := by
        intro i old hi
        have hlt := (List.getElem?_eq_some_iff.mp hi).1
        exact hnodes i old (by rw [List.getElem?_append_left hlt, hi])
      obtain ⟨p, hlt, hp, hbelow⟩ := hnodes nodes.length node List.getElem?_concat_length
      have hplace : shifted (keep.getD · false) p = shifted here p :=
        shifted_congr fun j hj => hkeep j (Nat.lt_trans hj hlt)
      rw [relink, List.filterMap_append, ← relink, ih hinit, selected_concat, List.map_append,
        hbelow]
      refine congrArg ((selected below nodes).map (·.moved (shifted here)) ++ ·) ?_
      rw [List.filterMap_cons, List.filterMap_nil, hp, Option.bind_some, newPlace?_eq, hkeep p hlt,
        hplace]
      cases here p with
      | true => exact congrArg (fun parent => [PolicyNode.mk _ _ parent]) (by rw [hp]; rfl)
      | false => rfl

theorem getD_linked {keep : List Bool} {here below : Nat → Bool} {above nodes : PolicyLevel}
    (hkeep : ∀ i < above.length, keep.getD i false = here i)
    (hnodes : ∀ i node, nodes[i]? = some node →
      ∃ p < above.length, node.parent = some p ∧ below i = here p) :
    ∀ i < nodes.length, (linked (newPlace? keep) nodes).getD i false = below i := by
  intro i hi
  obtain ⟨p, hlt, hp, hbelow⟩ := hnodes i nodes[i] (List.getElem?_eq_getElem hi)
  rw [linked, List.getD_eq_getElem?_getD, List.getElem?_map, List.getElem?_eq_getElem hi,
    Option.map_some,
    Option.getD_some, hp, Option.bind_some, newPlace?_isSome, hkeep p hlt, hbelow]

/-- The levels below a level whose mask says what is kept there. The
induction is on the levels, and each hands its mask to the next. -/
theorem relinkBelow_eq (h : Parented tree)
    (hbelow : ∀ k ≥ n, ∀ i node p, (tree.level (k + 1))[i]? = some node → node.parent = some p →
      kept (k + 1) i = kept k p) :
    ∀ {deeper : List PolicyLevel} {k : Nat} {keep : List Bool}, n ≤ k →
      tree.levels.drop (k + 1) = deeper →
      (∀ i < (tree.level k).length, keep.getD i false = kept k i) →
      relinkBelow (newPlace? keep) deeper
        = (tree.restrict kept).levels.drop (k + 1)
  | [], k, keep, hk, hdrop, hkeep => by
      have hlength := List.drop_eq_nil_iff.mp hdrop
      rw [List.drop_eq_nil_iff.mpr (by rwa [length_restrict])]
      rfl
  | nodes :: deeper, k, keep, hk, hdrop, hkeep => by
      obtain ⟨hlt, hnodes, hrest⟩ := levels_of_drop hdrop
      have hparents : ∀ i node, (tree.level (k + 1))[i]? = some node →
          ∃ p < (tree.level k).length, node.parent = some p ∧ kept (k + 1) i = kept k p := by
        intro i node hi
        obtain ⟨p, hlt, hp⟩ := h.below k node (List.mem_of_getElem? hi)
        exact ⟨p, hlt, hp, hbelow k hk i node p hi hp⟩
      have hlt' : k + 1 < (tree.restrict kept).levels.length := by rwa [length_restrict]
      rw [List.drop_eq_getElem_cons hlt', ← level_of_lt hlt', level_restrict, ← hnodes, relinkBelow,
        relink_eq hkeep hparents, relinkBelow_eq h hbelow (Nat.le_succ_of_le hk) hrest
          (getD_linked hkeep hparents)]
      rfl

/-- A deletion leaves the part of the tree whose positions the marks of
its level and the positions of parents determine. -/
theorem retainMask_eq_restrict (h : Parented tree) {keep : List Bool}
    (habove : ∀ k < n, ∀ i, kept k i = true)
    (hhere : ∀ i < (tree.level n).length, keep.getD i false = kept n i)
    (hbelow : ∀ k ≥ n, ∀ i node p, (tree.level (k + 1))[i]? = some node → node.parent = some p →
      kept (k + 1) i = kept k p) :
    tree.retainMask n keep = tree.restrict kept := by
  unfold retainMask
  have hsame : ∀ k ≤ n, (selected (kept k) (tree.level k)).map (·.moved (shifted (kept (k - 1))))
      = selected (kept k) (tree.level k) := by
    intro k hk
    refine (List.map_congr_left fun node hnode => ?_).trans (List.map_id _)
    obtain ⟨i, -, hi⟩ := mem_selected.mp hnode
    cases k with
    | zero => exact PolicyNode.moved_of_root (h.root node (List.mem_of_getElem? hi))
    | succ k =>
        obtain ⟨p, -, hp⟩ := h.below k node (List.mem_of_getElem? hi)
        exact PolicyNode.moved_of_parent hp (shifted_of_all fun j _ => habove k hk j)
  have htop : ∀ k < n, (tree.restrict kept).level k = tree.level k := by
    intro k hk
    rw [level_restrict, hsame k (Nat.le_of_lt hk), selected_of_all fun i _ => habove k hk i]
  cases hdrop : tree.levels.drop n with
  | nil =>
      have hlength := List.drop_eq_nil_iff.mp hdrop
      refine eq_of_levels (length_restrict ..).symm fun k => ?_
      rcases Nat.lt_or_ge k n with hk | hk
      · exact (htop k hk).symm
      · rw [level_of_ge (Nat.le_trans hlength hk),
          level_of_ge (by rw [length_restrict]; exact Nat.le_trans hlength hk)]
  | cons nodes deeper =>
      obtain ⟨hlt, hnodes, hrest⟩ := levels_of_drop hdrop
      have hlt' : n < (tree.restrict kept).levels.length := by rwa [length_restrict]
      have htake : tree.levels.take n = (tree.restrict kept).levels.take n := by
        refine List.ext_getElem (by simp only [List.length_take, length_restrict])
          fun k hk hk' => ?_
        rw [List.getElem_take, List.getElem_take, ← level_of_lt, ← level_of_lt]
        exact (htop k (by rw [List.length_take] at hk; omega)).symm
      have hlevel : selectMask keep nodes = (tree.restrict kept).level n := by
        rw [level_restrict, hsame n (Nat.le_refl n), ← hnodes, selectMask_eq_selected,
          selected_congr hhere]
      dsimp only
      rw [htake, hlevel, relinkBelow_eq h hbelow (Nat.le_refl n) hrest hhere, level_of_lt hlt',
        ← List.drop_eq_getElem_cons hlt', List.take_append_drop]

end PolicyTree

end TrustPath
