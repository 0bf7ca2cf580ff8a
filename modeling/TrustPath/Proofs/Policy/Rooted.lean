import TrustPath.Proofs.Policy.Reference

/-!
# Rooted trees

The invariant of the reference: `Rfc5280.Rooted` says that a set of nodes
is a tree - every node has its parent, and a place holds one node - and
that `anyPolicy` keeps to one chain. A node for `anyPolicy` has only such
nodes above it, and only such a node expects `anyPolicy`, so there is at
most one at a depth.

Pruning goes round after round, but what is left has a plain
description: the nodes that have a node of the deepest level at or below
them (`mem_prune`). A node with one below it has a child, so no round
deletes it; and once no round deletes anything, going from child to
child ends in the deepest level.
-/

namespace TrustPath

namespace Rfc5280

theorem mem_level {t : Tree} {d : Nat} {v : Node} : v ∈ level t d ↔ v ∈ t ∧ v.depth = d :=
  Finset.mem_filter

theorem mem_anyNodes {t : Tree} {d : Nat} {v : Node} :
    v ∈ anyNodes t d ↔ v ∈ t ∧ v.depth = d ∧ v.policy = anyPolicy := by
  rw [anyNodes, Finset.mem_filter, mem_level, and_assoc]

theorem depth_of_above_eq {u w : Node} (h : w.above = u.place) : w.depth = u.depth + 1 := by
  rw [Node.depth, h]
  rfl

/-- A node is the only one of its depth on the way to it. -/
theorem place_eq_of_suffix {v w : Node} (h : v.place <:+ w.place) (hdepth : v.depth = w.depth) :
    v.place = w.place :=
  h.eq_of_length (congrArg (· + 1) hdepth)

/-- The invariant of the valid policy tree down to a depth. -/
structure Rooted (t : Tree) (d : Nat) : Prop where
  shallow : ∀ v ∈ t, v.depth ≤ d
  parent : ∀ v ∈ t, v.above ≠ [] → ∃ u ∈ t, u.place = v.above
  unique : ∀ u ∈ t, ∀ v ∈ t, u.place = v.place → u = v
  anyAbove : ∀ v ∈ t, v.policy = anyPolicy → ∀ p ∈ v.above, p = anyPolicy
  anyExpected : ∀ v ∈ t, anyPolicy ∈ v.expected → v.policy = anyPolicy

namespace Rooted

variable {t t' : Tree} {d : Nat}

/-- A part of a tree that is closed under parents is a tree. -/
theorem of_subset (h : Rooted t d) (hsub : t' ⊆ t)
    (hparent : ∀ v ∈ t', ∀ u ∈ t, u.place = v.above → u ∈ t') : Rooted t' d where
  shallow := fun v hv => h.shallow v (hsub hv)
  parent := by
    intro v hv hne
    obtain ⟨u, hu, hplace⟩ := h.parent v (hsub hv) hne
    exact ⟨u, hparent v hv u hu hplace, hplace⟩
  unique := fun u hu v hv => h.unique u (hsub hu) v (hsub hv)
  anyAbove := fun v hv => h.anyAbove v (hsub hv)
  anyExpected := fun v hv => h.anyExpected v (hsub hv)

/-- Every place on the way to the root is that of a node. -/
theorem ancestor (h : Rooted t d) {s : List String} (hs : s ≠ []) {v : Node} (hv : v ∈ t)
    (hsuffix : s <:+ v.place) : ∃ u ∈ t, u.place = s := by
  induction hn : v.depth generalizing v with
  | zero =>
      rcases List.suffix_cons_iff.mp hsuffix with heq | habove
      · exact ⟨v, hv, heq.symm⟩
      · rw [List.length_eq_zero_iff.mp hn] at habove
        exact absurd (List.suffix_nil.mp habove) hs
  | succ n ih =>
      rcases List.suffix_cons_iff.mp hsuffix with heq | habove
      · exact ⟨v, hv, heq.symm⟩
      · obtain ⟨u, hu, hplace⟩ := h.parent v hv fun hnil => by
          rw [Node.depth, hnil] at hn
          cases hn
        refine ih hu (hplace ▸ habove) ?_
        have hdepth := depth_of_above_eq hplace.symm
        omega

/-- A node with another below it has a child on the way. -/
theorem child_of_suffix (h : Rooted t d) {v w : Node} (hw : w ∈ t) (hsuffix : v.place <:+ w.place)
    (hdepth : v.depth < w.depth) : ∃ u ∈ t, u.above = v.place ∧ u.place <:+ w.place := by
  obtain ⟨front, hfront⟩ := hsuffix
  rcases List.eq_nil_or_concat front with rfl | ⟨front, policy, rfl⟩
  · have hlength : w.place.length = v.place.length := by rw [← hfront]; rfl
    have hdepth' : w.depth = v.depth := Nat.succ.inj hlength
    omega
  · have hmiddle : policy :: v.place <:+ w.place := ⟨front, by rw [← hfront]; simp⟩
    obtain ⟨u, hu, hplace⟩ := h.ancestor (List.cons_ne_nil _ _) hw hmiddle
    refine ⟨u, hu, (List.cons.inj hplace).2, ?_⟩
    rw [hplace]
    exact hmiddle

/-- A node for `anyPolicy` has nothing but `anyPolicy` in its place. -/
theorem place_of_any (h : Rooted t d) {v : Node} (hv : v ∈ t) (hany : v.policy = anyPolicy) :
    v.place = List.replicate (v.depth + 1) anyPolicy := by
  rw [List.eq_replicate_iff]
  exact ⟨rfl, List.forall_mem_cons.mpr ⟨hany, h.anyAbove v hv hany⟩⟩

/-- There is one node for `anyPolicy` at a depth. -/
theorem any_unique (h : Rooted t d) {u v : Node} (hu : u ∈ t) (hv : v ∈ t)
    (huany : u.policy = anyPolicy) (hvany : v.policy = anyPolicy) (hdepth : u.depth = v.depth) :
    u = v := by
  refine h.unique u hu v hv ?_
  rw [h.place_of_any hu huany, h.place_of_any hv hvany, hdepth]

end Rooted

/-! ## Pruning -/

/-- A node has a node of a depth at or below it. -/
def Alive (t : Tree) (d : Nat) (v : Node) : Prop := ∃ w ∈ t, w.depth = d ∧ v.place <:+ w.place

variable {t : Tree} {d : Nat}

theorem mem_childless {v : Node} :
    v ∈ childless t d ↔ v ∈ t ∧ v.depth < d ∧ ∀ w ∈ t, w.above ≠ v.place :=
  Finset.mem_filter

theorem Rooted.sdiff_childless (h : Rooted t d) : Rooted (t \ childless t d) d := by
  refine h.of_subset Finset.sdiff_subset fun v hv u hu hplace => ?_
  refine Finset.mem_sdiff.mpr ⟨hu, fun hchildless => ?_⟩
  exact (mem_childless.mp hchildless).2.2 v (Finset.mem_sdiff.mp hv).1 hplace.symm

/-- Without childless nodes every node is alive. -/
theorem Rooted.alive (h : Rooted t d) (hnone : childless t d = ∅) {v : Node} (hv : v ∈ t) :
    Alive t d v := by
  induction hn : d - v.depth generalizing v with
  | zero =>
      have hge : d ≤ v.depth := Nat.sub_eq_zero_iff_le.mp hn
      exact ⟨v, hv, Nat.le_antisymm (h.shallow v hv) hge, List.suffix_refl _⟩
  | succ n ih =>
      have hhas : ∃ w ∈ t, w.above = v.place := by
        by_contra hchildless
        push Not at hchildless
        have hin : v ∈ childless t d := mem_childless.mpr ⟨hv, by omega, hchildless⟩
        rw [hnone] at hin
        exact absurd hin (Finset.notMem_empty v)
      obtain ⟨w, hw, habove⟩ := hhas
      have hdepth := depth_of_above_eq habove
      obtain ⟨u, hu, hudepth, hsuffix⟩ := ih hw (by omega)
      refine ⟨u, hu, hudepth, List.IsSuffix.trans ?_ hsuffix⟩
      rw [← habove]
      exact List.suffix_cons ..

/-- What pruning leaves are the nodes that are alive. -/
theorem mem_prune {v : Node} (h : Rooted t d) : v ∈ prune t d ↔ v ∈ t ∧ Alive t d v := by
  induction hn : t.card using Nat.strongRecOn generalizing t with
  | _ n ih =>
      rw [prune]
      split
      · next hnone => exact ⟨fun hv => ⟨hv, h.alive hnone hv⟩, fun hv => hv.1⟩
      · next hsome =>
        have hless : (t \ childless t d).card < n := by
          rw [← hn]
          refine Finset.card_lt_card (Finset.sdiff_ssubset (Finset.filter_subset _ _) ?_)
          exact Finset.nonempty_iff_ne_empty.mpr hsome
        rw [ih _ hless h.sdiff_childless rfl]
        constructor
        · rintro ⟨hv, w, hw, hdepth, hsuffix⟩
          exact ⟨(Finset.mem_sdiff.mp hv).1, w, (Finset.mem_sdiff.mp hw).1, hdepth, hsuffix⟩
        · -- neither the deepest nodes nor those above them are childless
          rintro ⟨hv, w, hw, hdepth, hsuffix⟩
          refine ⟨Finset.mem_sdiff.mpr ⟨hv, fun hchildless => ?_⟩, w,
            Finset.mem_sdiff.mpr ⟨hw, fun hchildless => ?_⟩, hdepth, hsuffix⟩
          · obtain ⟨-, hlt, hnochild⟩ := mem_childless.mp hchildless
            obtain ⟨u, hu, habove, -⟩ := h.child_of_suffix hw hsuffix (by omega)
            exact hnochild u hu habove
          · have hlt := (mem_childless.mp hchildless).2.1
            omega

theorem Rooted.prune (h : Rooted t d) : Rooted (prune t d) d := by
  refine h.of_subset (fun v hv => ((mem_prune h).mp hv).1) fun v hv u hu hplace => ?_
  obtain ⟨-, w, hw, hdepth, hsuffix⟩ := (mem_prune h).mp hv
  refine (mem_prune h).mpr ⟨hu, w, hw, hdepth, List.IsSuffix.trans ?_ hsuffix⟩
  rw [hplace]
  exact List.suffix_cons ..

theorem Rooted.alive_prune (h : Rooted t d) {v : Node} (hv : v ∈ Rfc5280.prune t d) :
    Alive (Rfc5280.prune t d) d v := by
  obtain ⟨-, w, hw, hdepth, hsuffix⟩ := (mem_prune h).mp hv
  exact ⟨w, (mem_prune h).mpr ⟨hw, w, hw, hdepth, List.suffix_refl _⟩, hdepth, hsuffix⟩

end Rfc5280

end TrustPath
