import TrustPath.Policy.Tree
import TrustPath.Proofs.Policy.Steps

/-!
# The levels as a rooted tree

`PolicyTree` keeps its nodes in levels, each with the position of its
parent in the level above; a node of the reference has a place instead.
`view` reads the levels off as nodes with places, level by level, each
one against the level read before it, and `rooted` collects them. Equal
nodes of a level come together there, so the order of the nodes and
repeated ones are of no account.

Positions are renumbered with every deletion. `view_relinkBelow` says what
that comes to: with a level some of whose nodes are gone, the levels
below are those read before without what hung below the nodes that are
gone. Positions are not mentioned after that.
-/

namespace TrustPath

/-! ## Masks -/

section Masks

variable {α β : Type}

theorem selectMask_map (f : α → β) : ∀ (keep : List Bool) (as : List α),
    selectMask keep (as.map f) = (selectMask keep as).map f
  | [], _ => rfl
  | true :: _, [] => rfl
  | false :: _, [] => rfl
  | true :: keep, a :: as => by simp only [List.map_cons, selectMask, selectMask_map f keep as]
  | false :: keep, a :: as => by simp only [List.map_cons, selectMask, selectMask_map f keep as]

theorem selectMask_eq_filter (p : α → Bool) : ∀ as : List α, selectMask (as.map p) as = as.filter p
  | [] => rfl
  | a :: as => by
      rw [List.map_cons, List.filter_cons]
      cases p a with
      | true => simp only [selectMask, selectMask_eq_filter p as, if_true]
      | false => simp only [selectMask, selectMask_eq_filter p as, Bool.false_eq_true, if_false]

theorem selectMask_true {keep : List Bool} {as : List α} (hkeep : ∀ k ∈ keep, k = true)
    (hlength : keep.length = as.length) : selectMask keep as = as := by
  obtain rfl : keep = as.map (Function.const α true) := by
    rw [List.map_const, ← hlength]
    exact List.eq_replicate_of_mem hkeep
  rw [selectMask_eq_filter]
  exact List.filter_eq_self.mpr fun _ _ => rfl

theorem mem_selectMask {a : α} : ∀ {keep : List Bool} {as : List α},
    a ∈ selectMask keep as ↔ ∃ i : Nat, keep[i]? = some true ∧ as[i]? = some a
  | [], as => by simp [selectMask]
  | true :: keep, [] => by simp [selectMask]
  | false :: keep, [] => by simp [selectMask]
  | true :: keep, b :: as => by
      rw [selectMask, List.mem_cons, mem_selectMask]
      constructor
      · rintro (rfl | ⟨i, hi⟩)
        · exact ⟨0, rfl, rfl⟩
        · exact ⟨i + 1, hi⟩
      · rintro ⟨_ | i, hi⟩
        · exact Or.inl (Option.some.inj hi.2).symm
        · exact Or.inr ⟨i, hi⟩
  | false :: keep, b :: as => by
      rw [selectMask, mem_selectMask]
      constructor
      · rintro ⟨i, hi⟩
        exact ⟨i + 1, hi⟩
      · rintro ⟨_ | i, hi⟩
        · cases hi.1
        · exact ⟨i, hi⟩

theorem newPlace?_isSome {keep : List Bool} {i : Nat} :
    (newPlace? keep i).isSome = keep.getD i false := by
  unfold newPlace?
  cases keep.getD i false <;> rfl

/-- What stands at a position stands at its new place afterwards. -/
theorem getElem?_selectMask : ∀ {keep : List Bool} {as : List α} {i j : Nat},
    newPlace? keep i = some j → (selectMask keep as)[j]? = as[i]?
  | [], as, i, j, h => by cases h
  | k :: keep, [], i, j, h => by
      cases k <;> simp [selectMask]
  | true :: keep, a :: as, 0, j, h => by
      obtain rfl : 0 = j := Option.some.inj h
      rfl
  | false :: keep, a :: as, 0, j, h => by cases h
  | true :: keep, a :: as, i + 1, j, h => by
      have hrest : (newPlace? keep i).map (· + 1) = some j := by
        rw [← h]
        unfold newPlace?
        rw [List.getD_cons_succ, List.take_succ_cons, List.count_cons_self]
        cases keep.getD i false <;> rfl
      obtain ⟨j, hj, rfl⟩ := Option.map_eq_some_iff.mp hrest
      rw [selectMask, List.getElem?_cons_succ, List.getElem?_cons_succ]
      exact getElem?_selectMask hj
  | false :: keep, a :: as, i + 1, j, h => by
      have hrest : newPlace? keep i = some j := by
        rw [← h]
        unfold newPlace?
        rw [List.getD_cons_succ, List.take_succ_cons, List.count_cons_of_ne Bool.false_ne_true]
      rw [selectMask, List.getElem?_cons_succ]
      exact getElem?_selectMask hrest

end Masks

namespace PolicyTree

open Rfc5280 (Node)

/-! ## Reading the levels -/

/-- A node of a level as a node of the reference; the root has no level
above it. -/
def seat (above : Option (List Node)) (node : PolicyNode) : Node :=
  { policy := node.policy
    above := ((above.bind fun us => node.parent.bind (us[·]?)).map Node.place).getD []
    expected := node.expected }

/-- A node has a parent in the level above, if there is one. -/
def Sits (above : Option (List Node)) (node : PolicyNode) : Prop :=
  match above with
  | none => node.parent = none
  | some us => ∃ p < us.length, node.parent = some p

/-- The levels below a level as nodes of the reference. -/
def view (above : Option (List Node)) : List PolicyLevel → List (List Node)
  | [] => []
  | nodes :: deeper => nodes.map (seat above) :: view (some (nodes.map (seat above))) deeper

/-- Every node of the levels below a level has its parent. -/
def Hangs (above : Option (List Node)) : List PolicyLevel → Prop
  | [] => True
  | nodes :: deeper => (∀ node ∈ nodes, Sits above node) ∧ Hangs (some (nodes.map (seat above))) deeper

theorem seat_some {us : List Node} {node : PolicyNode} {p : Nat} {u : Node}
    (hparent : node.parent = some p) (hu : us[p]? = some u) :
    seat (some us) node = ⟨node.policy, u.place, node.expected⟩ := by
  simp only [seat, hparent, Option.bind_some, hu, Option.map_some, Option.getD_some]

theorem Sits.exists_parent {us : List Node} {node : PolicyNode} (h : Sits (some us) node) :
    ∃ p u, node.parent = some p ∧ us[p]? = some u := by
  obtain ⟨p, hlt, hparent⟩ := h
  exact ⟨p, us[p], hparent, List.getElem?_eq_getElem hlt⟩

/-! ## Renumbering -/

theorem length_linked (place? : Nat → Option Nat) (nodes : PolicyLevel) :
    (linked place? nodes).length = nodes.length :=
  List.length_map _

/-- The nodes of a level that keep their parent are read as before. -/
theorem map_seat_relink (keep : List Bool) (us : List Node) : ∀ nodes : PolicyLevel,
    (relink (newPlace? keep) nodes).map (seat (some (selectMask keep us)))
      = selectMask (linked (newPlace? keep) nodes) (nodes.map (seat (some us)))
  | [] => rfl
  | node :: rest => by
      have ih := map_seat_relink keep us rest
      unfold relink linked at ih ⊢
      rw [List.filterMap_cons, List.map_cons, List.map_cons]
      cases hparent : node.parent.bind (newPlace? keep) with
      | none =>
          rw [Option.map_none, Option.isSome_none, selectMask]
          exact ih
      | some q =>
          obtain ⟨p, hp, hq⟩ := Option.bind_eq_some_iff.mp hparent
          have hseat : seat (some (selectMask keep us)) { node with parent := some q }
              = seat (some us) node := by
            simp only [seat, hp, Option.bind_some, getElem?_selectMask hq]
          rw [Option.map_some, Option.isSome_some, selectMask, List.map_cons, hseat, ih]

theorem hangs_relinkBelow {keep : List Bool} : ∀ {us : List Node} {deeper : List PolicyLevel},
    Hangs (some us) deeper → Hangs (some (selectMask keep us)) (relinkBelow (newPlace? keep) deeper)
  | us, [], h => trivial
  | us, nodes :: deeper, h => by
      rw [relinkBelow, Hangs, map_seat_relink]
      refine ⟨fun node hnode => ?_, hangs_relinkBelow h.2⟩
      obtain ⟨old, hold, hrelinked⟩ := List.mem_filterMap.mp hnode
      obtain ⟨q, hq, rfl⟩ := Option.map_eq_some_iff.mp hrelinked
      obtain ⟨p, hp, hnew⟩ := Option.bind_eq_some_iff.mp hq
      obtain ⟨p', u, hp', hu⟩ := (h.1 old hold).exists_parent
      obtain rfl : p = p' := Option.some.inj (hp.symm.trans hp')
      exact ⟨q, (List.getElem?_eq_some_iff.mp ((getElem?_selectMask hnew).trans hu)).1, rfl⟩

/-- Nothing is lost below a level when the nodes below keep their parents. -/
theorem view_relinkBelow_of_linked : ∀ {keep : List Bool} {us : List Node}
    {deeper : List PolicyLevel}, Hangs (some us) deeper →
      (∀ nodes ∈ deeper.head?, ∀ k ∈ linked (newPlace? keep) nodes, k = true) →
      view (some (selectMask keep us)) (relinkBelow (newPlace? keep) deeper) = view (some us) deeper
  | keep, us, [], _, _ => rfl
  | keep, us, nodes :: deeper, h, hlinked => by
      have hall := hlinked nodes rfl
      have hsame : selectMask (linked (newPlace? keep) nodes) (nodes.map (seat (some us)))
          = nodes.map (seat (some us)) :=
        selectMask_true hall (by rw [length_linked, List.length_map])
      rw [relinkBelow, view, map_seat_relink, view_relinkBelow_of_linked h.2, hsame, view]
      intro next hnext k hk
      obtain ⟨node, hnode, rfl⟩ := List.mem_map.mp hk
      obtain ⟨rest, rfl⟩ : ∃ rest, deeper = next :: rest := List.head?_eq_some_iff.mp hnext
      obtain ⟨p, hlt, hparent⟩ := h.2.1 node hnode
      rw [List.length_map, ← length_linked (newPlace? keep)] at hlt
      rw [hparent, Option.bind_some, newPlace?_isSome, List.getD_eq_getElem?_getD,
        List.getElem?_eq_getElem hlt]
      exact hall _ (List.getElem_mem hlt)

/-- What hangs below the nodes that are left by a property is left, when
nodes have the property just if their parents have it. -/
theorem view_relinkBelow_filter {f : Node → Bool} {n : Nat}
    (hinherit : ∀ u w, n ≤ u.depth → w.above = u.place → f w = f u) :
    ∀ {us : List Node} {deeper : List PolicyLevel}, (∀ u ∈ us, n ≤ u.depth) →
      Hangs (some us) deeper →
      view (some (us.filter f)) (relinkBelow (newPlace? (us.map f)) deeper)
        = (view (some us) deeper).map (·.filter f)
  | us, [], _, _ => rfl
  | us, nodes :: deeper, hdepth, h => by
      have hseat : ∀ node ∈ nodes, ∃ p u, node.parent = some p ∧ us[p]? = some u
          ∧ (seat (some us) node).above = u.place := by
        intro node hnode
        obtain ⟨p, u, hp, hu⟩ := (h.1 node hnode).exists_parent
        exact ⟨p, u, hp, hu, by rw [seat_some hp hu]⟩
      have hlinked : linked (newPlace? (us.map f)) nodes = (nodes.map (seat (some us))).map f := by
        rw [linked, List.map_map]
        refine List.map_congr_left fun node hnode => ?_
        obtain ⟨p, u, hp, hu, habove⟩ := hseat node hnode
        rw [hp, Option.bind_some, newPlace?_isSome, List.getD_eq_getElem?_getD, List.getElem?_map, hu]
        exact (hinherit u _ (hdepth u (List.mem_of_getElem? hu)) habove).symm
      have hdeeper : ∀ v ∈ nodes.map (seat (some us)), n ≤ v.depth := by
        intro v hv
        obtain ⟨node, hnode, rfl⟩ := List.mem_map.mp hv
        obtain ⟨p, u, -, hu, habove⟩ := hseat node hnode
        have hle := hdepth u (List.mem_of_getElem? hu)
        have hchild := Rfc5280.depth_of_above_eq habove
        omega
      rw [relinkBelow, view, ← selectMask_eq_filter, map_seat_relink, hlinked, selectMask_eq_filter,
        view_relinkBelow_filter hinherit hdeeper h.2, view, List.map_cons]

/-! ## Parts of the levels -/

/-- The last of some levels, or the level above them. -/
def lastLevel (above : Option (List Node)) : List PolicyLevel → Option (List Node)
  | [] => above
  | nodes :: deeper => lastLevel (some (nodes.map (seat above))) deeper

theorem view_append : ∀ (above : Option (List Node)) (upper lower : List PolicyLevel),
    view above (upper ++ lower) = view above upper ++ view (lastLevel above upper) lower
  | above, [], lower => rfl
  | above, nodes :: upper, lower => by
      rw [List.cons_append, view, view_append, view, lastLevel, List.cons_append]

theorem hangs_append : ∀ {above : Option (List Node)} {upper lower : List PolicyLevel},
    Hangs above (upper ++ lower) ↔ Hangs above upper ∧ Hangs (lastLevel above upper) lower
  | above, [], lower => (and_iff_right trivial).symm
  | above, nodes :: upper, lower => by
      rw [List.cons_append, Hangs, hangs_append, Hangs, lastLevel, and_assoc]

theorem lastLevel_concat (above : Option (List Node)) (upper : List PolicyLevel)
    (nodes : PolicyLevel) :
    lastLevel above (upper ++ [nodes]) = some (nodes.map (seat (lastLevel above upper))) := by
  induction upper generalizing above with
  | nil => rfl
  | cons first rest ih => exact ih _

/-- A level is followed by the nodes of a depth. -/
def HasDepth (above : Option (List Node)) (d : Nat) : Prop :=
  match above with
  | none => d = 0
  | some us => ∀ u ∈ us, u.depth + 1 = d

theorem depth_seat {above : Option (List Node)} {d : Nat} (h : HasDepth above d)
    {node : PolicyNode} (hsits : Sits above node) : (seat above node).depth = d := by
  cases above with
  | none => exact h.symm
  | some us =>
      obtain ⟨p, u, hp, hu⟩ := hsits.exists_parent
      rw [seat_some hp hu]
      exact h u (List.mem_of_getElem? hu)

theorem HasDepth.level {above : Option (List Node)} {d : Nat} (h : HasDepth above d)
    {nodes : PolicyLevel} (hsits : ∀ node ∈ nodes, Sits above node) :
    HasDepth (some (nodes.map (seat above))) (d + 1) := by
  intro v hv
  obtain ⟨node, hnode, rfl⟩ := List.mem_map.mp hv
  rw [depth_seat h (hsits node hnode)]

theorem HasDepth.lastLevel : ∀ {above : Option (List Node)} {d : Nat} {upper : List PolicyLevel},
    HasDepth above d → Hangs above upper → HasDepth (lastLevel above upper) (d + upper.length)
  | above, d, [], h, _ => h
  | above, d, nodes :: upper, h, hhangs => by
      rw [PolicyTree.lastLevel, List.length_cons, Nat.add_comm upper.length 1, ← Nat.add_assoc]
      exact (h.level hhangs.1).lastLevel hhangs.2

theorem depth_of_mem_view : ∀ {above : Option (List Node)} {d : Nat} {levels : List PolicyLevel},
    HasDepth above d → Hangs above levels → ∀ v ∈ (view above levels).flatten,
      d ≤ v.depth ∧ v.depth < d + levels.length
  | above, d, [], _, _, v, hv => absurd hv List.not_mem_nil
  | above, d, nodes :: deeper, h, hhangs, v, hv => by
      rw [List.length_cons]
      rcases List.mem_append.mp hv with hhere | hbelow
      · obtain ⟨node, hnode, rfl⟩ := List.mem_map.mp hhere
        have hdepth := depth_seat h (hhangs.1 node hnode)
        omega
      · have hdepth := depth_of_mem_view (h.level hhangs.1) hhangs.2 v hbelow
        omega

/-! ## The tree -/

/-- Every node has its parent in the level above, and the root has none;
the deepest level has a number. -/
structure WellFormed (tree : PolicyTree) (d : Nat) : Prop where
  length : tree.levels.length = d + 1
  hangs : Hangs none tree.levels

/-- The nodes of the tree. -/
def nodes (tree : PolicyTree) : Rfc5280.Tree := (view none tree.levels).flatten.toFinset

theorem WellFormed.depth_eq {tree : PolicyTree} {d : Nat} (h : WellFormed tree d) :
    tree.depth = d := by
  rw [depth, h.length, Nat.add_sub_cancel]

/-- The tree in parts: the levels above one, that level, and those below. -/
structure Split (tree : PolicyTree) (n : Nat) (upper : List PolicyLevel) (here : PolicyLevel)
    (deeper : List PolicyLevel) : Prop where
  levels : tree.levels = upper ++ here :: deeper
  length : upper.length = n
  hangsAbove : Hangs none upper
  sits : ∀ node ∈ here, Sits (lastLevel none upper) node
  hangsBelow : Hangs (some (here.map (seat (lastLevel none upper)))) deeper

theorem WellFormed.split {tree : PolicyTree} {d n : Nat} (h : WellFormed tree d) (hn : n ≤ d) :
    ∃ upper here deeper, Split tree n upper here deeper := by
  have hlt : n < tree.levels.length := by rw [h.length]; omega
  have hlevels : tree.levels = tree.levels.take n ++ tree.levels[n] :: tree.levels.drop (n + 1) := by
    rw [← List.drop_eq_getElem_cons hlt, List.take_append_drop]
  have hhangs := h.hangs
  rw [hlevels, hangs_append] at hhangs
  exact ⟨_, _, _, hlevels, List.length_take_of_le (Nat.le_of_lt hlt), hhangs.1, hhangs.2.1,
    hhangs.2.2⟩

namespace Split

variable {tree : PolicyTree} {n : Nat} {upper deeper : List PolicyLevel} {here : PolicyLevel}

/-- The nodes of the level, as they are read. -/
theorem level_eq (h : Split tree n upper here deeper) : tree.level n = here := by
  rw [level, h.levels, List.getD_eq_getElem?_getD, ← h.length, List.getElem?_append_right (Nat.le_refl _),
    Nat.sub_self]
  rfl

theorem hasDepth (h : Split tree n upper here deeper) : HasDepth (lastLevel none upper) n := by
  have hlast : HasDepth (lastLevel none upper) (0 + upper.length) :=
    HasDepth.lastLevel rfl h.hangsAbove
  rwa [Nat.zero_add, h.length] at hlast

/-- A node is read above the level, in it, or below it, by its depth. -/
theorem mem_nodes (h : Split tree n upper here deeper) {v : Node} :
    v ∈ tree.nodes ↔ v ∈ (view none upper).flatten ∨ v ∈ here.map (seat (lastLevel none upper))
      ∨ v ∈ (view (some (here.map (seat (lastLevel none upper)))) deeper).flatten := by
  rw [nodes, List.mem_toFinset, h.levels, view_append, view, List.flatten_append, List.flatten_cons,
    List.mem_append, List.mem_append]

theorem depth_upper (h : Split tree n upper here deeper) {v : Node}
    (hv : v ∈ (view none upper).flatten) : v.depth < n := by
  have hroot : HasDepth none 0 := rfl
  have hdepth := (depth_of_mem_view hroot h.hangsAbove v hv).2
  rwa [Nat.zero_add, h.length] at hdepth

theorem depth_here (h : Split tree n upper here deeper) {v : Node}
    (hv : v ∈ here.map (seat (lastLevel none upper))) : v.depth = n := by
  obtain ⟨node, hnode, rfl⟩ := List.mem_map.mp hv
  exact depth_seat h.hasDepth (h.sits node hnode)

theorem depth_deeper (h : Split tree n upper here deeper) {v : Node}
    (hv : v ∈ (view (some (here.map (seat (lastLevel none upper)))) deeper).flatten) :
    n < v.depth :=
  (depth_of_mem_view (h.hasDepth.level h.sits) h.hangsBelow v hv).1

theorem mem_here (h : Split tree n upper here deeper) {v : Node} :
    v ∈ here.map (seat (lastLevel none upper)) ↔ v ∈ Rfc5280.level tree.nodes n := by
  rw [Rfc5280.mem_level, h.mem_nodes]
  constructor
  · exact fun hv => ⟨Or.inr (Or.inl hv), h.depth_here hv⟩
  · rintro ⟨hv | hv | hv, hdepth⟩
    · exact absurd hdepth (Nat.ne_of_lt (h.depth_upper hv))
    · exact hv
    · exact absurd hdepth (Nat.ne_of_gt (h.depth_deeper hv))

/-- A deletion in the level carries on below it. -/
theorem retainMask (h : Split tree n upper here deeper) (keep : List Bool) :
    Split (tree.retainMask n keep) n upper (selectMask keep here)
      (relinkBelow (newPlace? keep) deeper) := by
  have hdrop : tree.levels.drop n = here :: deeper := by
    rw [h.levels, ← h.length, List.drop_left]
  have htake : tree.levels.take n = upper := by rw [h.levels, ← h.length, List.take_left]
  refine ⟨?_, h.length, h.hangsAbove, fun node hnode => ?_, ?_⟩
  · rw [PolicyTree.retainMask, hdrop, htake]
  · obtain ⟨i, -, hi⟩ := mem_selectMask.mp hnode
    exact h.sits node (List.mem_of_getElem? hi)
  · rw [← selectMask_map]
    exact hangs_relinkBelow h.hangsBelow

/-- The level below in the place of the level. -/
theorem succ {next : PolicyLevel} (h : Split tree n upper here (next :: deeper)) :
    Split tree (n + 1) (upper ++ [here]) next deeper where
  levels := by rw [h.levels, List.append_assoc, List.singleton_append]
  length := by rw [List.length_append, h.length, List.length_singleton]
  hangsAbove := hangs_append.mpr ⟨h.hangsAbove, h.sits, trivial⟩
  sits := by
    rw [lastLevel_concat]
    exact h.hangsBelow.1
  hangsBelow := by
    rw [lastLevel_concat]
    exact h.hangsBelow.2

theorem wellFormed (h : Split tree n upper here deeper) {d : Nat}
    (hlength : n + deeper.length = d) : WellFormed tree d where
  length := by rw [h.levels, List.length_append, List.length_cons, h.length]; omega
  hangs := by
    rw [h.levels, hangs_append]
    exact ⟨h.hangsAbove, h.sits, h.hangsBelow⟩

end Split

theorem WellFormed.split_deepest {tree : PolicyTree} {d : Nat} (h : WellFormed tree d) :
    ∃ upper here, Split tree d upper here [] := by
  obtain ⟨upper, here, deeper, hsplit⟩ := h.split (Nat.le_refl d)
  obtain rfl : deeper = [] := by
    have hlength := h.length
    rw [hsplit.levels, List.length_append, List.length_cons, hsplit.length] at hlength
    exact List.length_eq_zero_iff.mp (by omega)
  exact ⟨upper, here, hsplit⟩

theorem length_relinkBelow : ∀ (place? : Nat → Option Nat) (levels : List PolicyLevel),
    (relinkBelow place? levels).length = levels.length
  | _, [] => rfl
  | place?, nodes :: deeper => by
      rw [relinkBelow, List.length_cons, length_relinkBelow, List.length_cons]

theorem WellFormed.retainMask {tree : PolicyTree} {d n : Nat} (h : WellFormed tree d) (hn : n ≤ d)
    (keep : List Bool) : WellFormed (tree.retainMask n keep) d := by
  obtain ⟨upper, here, deeper, hsplit⟩ := h.split hn
  refine (hsplit.retainMask keep).wellFormed ?_
  have hlength := h.length
  rw [hsplit.levels, List.length_append, List.length_cons, hsplit.length] at hlength
  rw [length_relinkBelow]
  omega

end PolicyTree

end TrustPath
