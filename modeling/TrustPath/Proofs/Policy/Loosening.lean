import TrustPath.Path.Evaluator
import TrustPath.Proofs.Path.Acceptable
import TrustPath.Proofs.Policy.Exactness

/-!
# Looser policy inputs

A path that is accepted stays accepted when more policies are acceptable,
or all of them, or when `anyPolicy` is not inhibited any more. For the
acceptable policies this is plain: the tree does not depend on them, and
the intersection only grows with them.

Where `anyPolicy` is honoured more often the tree changes, and not only
by more nodes. A named policy goes below `anyPolicy` only if no other node
expects it, so a node of the stricter tree may have no counterpart in the
laxer one. What saves the law is when this can happen. The two trees are
the same until a certificate honours `anyPolicy` on one side only. From
then on the stricter tree has no deepest node for `anyPolicy` and never
gets one back, so its nodes only grow where they are expected, and there
the laxer tree grows them too: the stricter one is a part of it
(`Narrower`). A part without a deepest node for `anyPolicy` survives the
intersection only through nodes that survive in the whole as well.

The comparison is made on the reference, whose trees are sets of nodes;
`processPolicies_iff` carries it over.
-/

namespace TrustPath

namespace Rfc5280

/-! ## Two trees -/

/-- A tree is the same as another, or a part of it without a node for
`anyPolicy` at a depth. -/
def Narrower (d : Nat) (t t' : Tree) : Prop := t = t' ∨ t ⊆ t' ∧ anyNodes t d = ∅

namespace Narrower

variable {t t' : Tree} {d : Nat}

theorem subset (h : Narrower d t t') : t ⊆ t' := by
  rcases h with rfl | ⟨hsub, -⟩
  · exact Finset.Subset.refl t
  · exact hsub

theorem ne_empty (h : Narrower d t t') (hne : t ≠ ∅) : t' ≠ ∅ := by
  rintro rfl
  exact hne (Finset.subset_empty.mp h.subset)

end Narrower

variable {t t' : Tree} {d : Nat}

theorem Alive.mono (hsub : t ⊆ t') {v : Node} (h : Alive t d v) : Alive t' d v := by
  obtain ⟨w, hw, hdepth, hsuffix⟩ := h
  exact ⟨w, hsub hw, hdepth, hsuffix⟩

theorem prune_subset (h : Rooted t d) (h' : Rooted t' d) (hsub : t ⊆ t') :
    prune t d ⊆ prune t' d := by
  intro v hv
  obtain ⟨hvt, halive⟩ := (mem_prune h).mp hv
  exact (mem_prune h').mpr ⟨hsub hvt, halive.mono hsub⟩

theorem anyNodes_eq_empty {e : Nat} :
    anyNodes t e = ∅ ↔ ∀ v ∈ t, v.depth = e → v.policy ≠ anyPolicy := by
  rw [Finset.eq_empty_iff_forall_notMem]
  simp only [mem_anyNodes, not_and, ne_eq]

namespace Narrower

theorem prune (h : Narrower d t t') (ht : Rooted t d) (ht' : Rooted t' d) :
    Narrower d (prune t d) (prune t' d) := by
  rcases h with rfl | ⟨hsub, hnone⟩
  · exact Or.inl rfl
  · refine Or.inr ⟨prune_subset ht ht' hsub, anyNodes_eq_empty.mpr fun v hv => ?_⟩
    exact anyNodes_eq_empty.mp hnone v ((mem_prune ht).mp hv).1

end Narrower

/-! ### Growth -/

/-- A node for `anyPolicy` grows only where `anyPolicy` counts, and below
another one. -/
theorem allowed_of_grown (ht : Rooted t d) {policies : Finset String} {allowed : Bool} {w : Node}
    (hw : w ∈ grow t d policies allowed) (hdepth : w.depth = d + 1) (hany : w.policy = anyPolicy) :
    allowed = true ∧ anyNodes t d ≠ ∅ := by
  rcases (mem_grow ht).mp hw with hw | ⟨v, hv, policy, rfl, hgets⟩
  · have hshallow := ht.shallow w hw
    omega
  · obtain rfl : policy = anyPolicy := hany
    obtain ⟨hvt, hdepth⟩ := mem_level.mp hv
    rcases hgets with ⟨-, hne, -⟩ | ⟨hyes, -, hexp⟩
    · exact absurd rfl hne
    · refine ⟨hyes, Finset.nonempty_iff_ne_empty.mp ⟨v, mem_anyNodes.mpr ⟨hvt, hdepth, ?_⟩⟩⟩
      exact ht.anyExpected v hvt hexp

/-- Growth keeps a part in the whole, provided that the two are the same
where policies go below `anyPolicy` for want of a node that expects them. -/
theorem grow_subset (ht : Rooted t d) (ht' : Rooted t' d) {policies : Finset String}
    {allowed allowed' : Bool} (hallowed : allowed = true → allowed' = true) (hsub : t ⊆ t')
    (hsame : ∀ v ∈ level t d, v.policy = anyPolicy → t = t') :
    grow t d policies allowed ⊆ grow t' d policies allowed' := by
  intro w hw
  rcases (mem_grow ht).mp hw with hw | ⟨v, hv, policy, rfl, hgets⟩
  · exact (mem_grow ht').mpr (Or.inl (hsub hw))
  · obtain ⟨hvt, hdepth⟩ := mem_level.mp hv
    refine (mem_grow ht').mpr (Or.inr ⟨v, mem_level.mpr ⟨hsub hvt, hdepth⟩, policy, rfl, ?_⟩)
    rcases hgets with ⟨hin, hne, hexp | ⟨hnot, hany⟩⟩ | ⟨hyes, hin, hexp⟩
    · exact Or.inl ⟨hin, hne, Or.inl hexp⟩
    · obtain rfl := hsame v hv hany
      exact Or.inl ⟨hin, hne, Or.inr ⟨hnot, hany⟩⟩
    · exact Or.inr ⟨hallowed hyes, hin, hexp⟩

namespace Narrower

/-- The trees part where `anyPolicy` is honoured on the laxer side only:
the stricter one then grows no node for it. -/
theorem grow (h : Narrower d t t') (ht : Rooted t d) (ht' : Rooted t' d)
    (policies : Finset String) {allowed allowed' : Bool}
    (hallowed : allowed = true → allowed' = true) :
    Narrower (d + 1) (grow t d policies allowed) (grow t' d policies allowed') := by
  rcases h with rfl | ⟨hsub, hnone⟩
  · by_cases hsame : allowed = allowed'
    · exact Or.inl (by rw [hsame])
    · have hnot : allowed ≠ true := by
        rintro rfl
        exact hsame (hallowed rfl).symm
      refine Or.inr ⟨grow_subset ht ht' hallowed (Finset.Subset.refl t) fun _ _ _ => rfl, ?_⟩
      refine anyNodes_eq_empty.mpr fun v hv hdepth hany => ?_
      exact hnot (allowed_of_grown ht hv hdepth hany).1
  · refine Or.inr ⟨grow_subset ht ht' hallowed hsub fun v hv hany => ?_, ?_⟩
    · obtain ⟨hvt, hdepth⟩ := mem_level.mp hv
      exact absurd hany (anyNodes_eq_empty.mp hnone v hvt hdepth)
    · refine anyNodes_eq_empty.mpr fun v hv hdepth hany => ?_
      exact (allowed_of_grown ht hv hdepth hany).2 hnone

/-! ### Mapping -/

/-- One mapping. A part without a deepest node for `anyPolicy` gets no
node by it. -/
theorem mapOne (h : Narrower (d + 1) t t') (ht : Rooted t (d + 1)) (ht' : Rooted t' (d + 1))
    (allowed : Bool) (mapping : String × TextSet) :
    Narrower (d + 1) (mapOne d allowed t mapping) (mapOne d allowed t' mapping) := by
  rcases h with rfl | ⟨hsub, hnone⟩
  · exact Or.inl rfl
  cases allowed with
  | false =>
      simp only [Rfc5280.mapOne, Bool.false_eq_true, if_false]
      refine Narrower.prune (Or.inr ⟨Finset.filter_subset_filter _ hsub, ?_⟩)
        (ht.filter_deepest _) (ht'.filter_deepest _)
      refine anyNodes_eq_empty.mpr fun v hv => ?_
      exact anyNodes_eq_empty.mp hnone v (Finset.mem_filter.mp hv).1
  | true =>
      simp only [Rfc5280.mapOne, if_true]
      have hempty : ¬ (anyNodes t (d + 1)).Nonempty :=
        Finset.not_nonempty_iff_eq_empty.mpr hnone
      by_cases hhas : ∃ v ∈ level t (d + 1), v.policy = mapping.1
      · have hhas' : ∃ v ∈ level t' (d + 1), v.policy = mapping.1 := by
          obtain ⟨v, hv, hpolicy⟩ := hhas
          obtain ⟨hvt, hdepth⟩ := mem_level.mp hv
          exact ⟨v, mem_level.mpr ⟨hsub hvt, hdepth⟩, hpolicy⟩
        rw [if_pos hhas, if_pos hhas']
        refine Or.inr ⟨Finset.image_subset_image hsub, anyNodes_eq_empty.mpr fun w hw => ?_⟩
        obtain ⟨v, hv, rfl⟩ := Finset.mem_image.mp hw
        have hv := anyNodes_eq_empty.mp hnone v hv
        split
        · exact hv
        · exact hv
      · rw [if_neg hhas, if_neg hempty]
        refine Or.inr ⟨fun v hv => ?_, hnone⟩
        split
        · -- the expected policies of a node of the part stay as they are
          refine Finset.mem_image.mpr ⟨v, hsub hv, if_neg fun hdeep => hhas ?_⟩
          exact ⟨v, mem_level.mpr ⟨hv, hdeep.1⟩, hdeep.2⟩
        · split
          · exact Finset.mem_union_left _ (hsub hv)
          · exact hsub hv

theorem mapAll (h : Narrower (d + 1) t t') (ht : Rooted t (d + 1)) (ht' : Rooted t' (d + 1))
    (allowed : Bool) {mappings : PolicyMappings} (hproper : ∀ mapping ∈ mappings, Proper mapping) :
    Narrower (d + 1) (mapAll t d allowed mappings) (mapAll t' d allowed mappings) := by
  unfold Rfc5280.mapAll
  induction mappings generalizing t t' with
  | nil => exact h
  | cons mapping rest ih =>
      obtain ⟨hfirst, hrest⟩ := List.forall_mem_cons.mp hproper
      rw [List.foldl_cons, List.foldl_cons]
      exact ih (h.mapOne ht ht' allowed mapping) (ht.mapOne allowed hfirst)
        (ht'.mapOne allowed hfirst) hrest

end Narrower

/-! ## The intersection -/

/-- A set of acceptable policies is no stricter than another: it accepts
everything, or it has what the other has, which then is not empty and so
does not accept everything by that. -/
def Loosens (acceptable looser : TextSet) : Prop :=
  looser.toList = [] ∨ acceptable.toList ≠ [] ∧ ∀ policy ∈ acceptable, policy ∈ looser

theorem prune_ne_empty (h : Rooted t d) : prune t d ≠ ∅ ↔ ∃ w ∈ t, w.depth = d := by
  rw [← Finset.nonempty_iff_ne_empty]
  constructor
  · rintro ⟨v, hv⟩
    obtain ⟨-, w, hw, hdepth, -⟩ := (mem_prune h).mp hv
    exact ⟨w, hw, hdepth⟩
  · rintro ⟨w, hw, hdepth⟩
    exact ⟨w, (mem_prune h).mpr ⟨hw, w, hw, hdepth, List.suffix_refl _⟩⟩

/-- A deepest node for a named policy survives the intersection: nothing
on its way is foreign. -/
def Survivor (t : Tree) (d : Nat) (acceptable : TextSet) : Prop :=
  ∃ w ∈ t, w.depth = d ∧ w.policy ≠ anyPolicy ∧ ∀ s, s <:+ w.place → ¬ Foreign acceptable s

theorem Survivor.mono {acceptable looser : TextSet} (h : Survivor t d acceptable) (hsub : t ⊆ t')
    (hacceptable : ∀ policy ∈ acceptable, policy ∈ looser) : Survivor t' d looser := by
  obtain ⟨w, hw, hdepth, hne, hclear⟩ := h
  refine ⟨w, hsub hw, hdepth, hne, fun s hs => ?_⟩
  rintro ⟨policy, above, hplace, hout, hnamed⟩
  exact hclear s hs ⟨policy, above, hplace, fun hin => hout (hacceptable policy hin), hnamed⟩

/-- What outlives the intersection with a set that does not accept
everything: a named node that survives, or one that takes the place of the
deepest node for `anyPolicy`. -/
theorem intersect_ne_empty (h : Rooted t (d + 1)) {acceptable : TextSet}
    (hsome : acceptable.toList ≠ []) (hnot : anyPolicy ∉ acceptable) :
    intersect t d acceptable ≠ ∅ ↔
      Survivor t (d + 1) acceptable
        ∨ anyNodes t (d + 1) ≠ ∅ ∧ (missing t acceptable).Nonempty := by
  have hkept : ∀ {e v}, v ∈ anyNodes (deleteForeign t acceptable) e ↔ v ∈ anyNodes t e := by
    intro e v
    rw [mem_anyNodes, mem_anyNodes, mem_deleteForeign h, and_assoc]
    refine and_congr_right fun hv => and_iff_right_of_imp ?_
    rintro ⟨-, hany⟩ s hs ⟨policy, above, rfl, -, hne⟩
    have hin := hs.subset List.mem_cons_self
    rw [h.place_of_any hv hany] at hin
    exact hne (List.eq_of_mem_replicate hin)
  rw [intersect, if_neg (not_or.mpr ⟨hsome, hnot⟩), prune_ne_empty (h.replaceMissing hnot)]
  simp only [mem_replaceAny fun hin => hnot (mem_missing.mp hin).1, mem_deleteForeign h,
    Finset.Nonempty, hkept]
  constructor
  · rintro ⟨w, ⟨⟨hw, hclear⟩, hdeep⟩ | ⟨⟨v, hv⟩, -, -, policy, hpolicy, -⟩, hdepth⟩
    · exact Or.inl ⟨w, hw, hdepth, fun hany => hdeep ⟨hdepth, hany⟩, hclear⟩
    · exact Or.inr ⟨Finset.ne_empty_of_mem hv, policy, hpolicy⟩
  · rintro (⟨w, hw, hdepth, hne, hclear⟩ | ⟨hany, policy, hpolicy⟩)
    · exact ⟨w, Or.inl ⟨⟨hw, hclear⟩, fun hdeep => hne hdeep.2⟩, hdepth⟩
    · obtain ⟨v, hv⟩ := Finset.nonempty_iff_ne_empty.mpr hany
      obtain ⟨u, hu, -⟩ := h.anyNodes_above hv
      have hin : u ∈ anyNodes t d := by
        rw [hu]
        exact Finset.mem_singleton_self u
      refine ⟨u.leaf policy, Or.inr ⟨⟨v, hv⟩, u, hin, policy, hpolicy, rfl⟩, ?_⟩
      rw [← (mem_anyNodes.mp hin).2.1]
      rfl

/-- What outlives the intersection outlives a looser one of the wider
tree. -/
theorem Narrower.intersect (h : Narrower (d + 1) t t') (ht : Rooted t (d + 1))
    (ht' : Rooted t' (d + 1)) {acceptable looser : TextSet} (hloosens : Loosens acceptable looser)
    (hne : intersect t d acceptable ≠ ∅) : intersect t' d looser ≠ ∅ := by
  by_cases hall : looser.toList = [] ∨ anyPolicy ∈ looser
  · -- the looser intersection is the whole tree
    rw [Rfc5280.intersect, if_pos hall]
    by_cases hstrict : acceptable.toList = [] ∨ anyPolicy ∈ acceptable
    · rw [Rfc5280.intersect, if_pos hstrict] at hne
      exact h.ne_empty hne
    · obtain ⟨hsome, hnot⟩ := not_or.mp hstrict
      rcases (intersect_ne_empty ht hsome hnot).mp hne with ⟨w, hw, -⟩ | ⟨hany, -⟩
      · exact Finset.ne_empty_of_mem (h.subset hw)
      · obtain ⟨v, hv⟩ := Finset.nonempty_iff_ne_empty.mpr hany
        exact Finset.ne_empty_of_mem (h.subset (mem_anyNodes.mp hv).1)
  · obtain ⟨hsome', hnot'⟩ := not_or.mp hall
    obtain ⟨hsome, hsub⟩ := hloosens.resolve_left hsome'
    have hnot : anyPolicy ∉ acceptable := fun hin => hnot' (hsub anyPolicy hin)
    rw [intersect_ne_empty ht' hsome' hnot']
    rcases (intersect_ne_empty ht hsome hnot).mp hne with hsurvivor | ⟨hany, policy, hpolicy⟩
    · exact Or.inl (hsurvivor.mono h.subset hsub)
    · -- with a deepest node for `anyPolicy` the two trees are the same
      obtain rfl : t = t' := h.resolve_right fun hpart => hany hpart.2
      obtain ⟨hin, hnone⟩ := mem_missing.mp hpolicy
      exact Or.inr ⟨hany, policy, mem_missing.mpr ⟨hsub policy hin, hnone⟩⟩

/-! ## Two runs -/

/-- Inputs that are no stricter than others; mapping is inhibited as it
was. -/
structure Looser (parameters looser : PolicyParameters) : Prop where
  explicitPolicy : looser.explicitPolicyRequired = true → parameters.explicitPolicyRequired = true
  policyMapping : looser.policyMappingInhibited = parameters.policyMappingInhibited
  anyPolicy : looser.anyPolicyInhibited = true → parameters.anyPolicyInhibited = true
  acceptable : Loosens parameters.initialPolicies looser.initialPolicies

/-- A state of a looser run beside the state of a stricter one. -/
structure Eases (d : Nat) (r r' : State) : Prop where
  narrower : Narrower d r.tree r'.tree
  rooted : Rooted r.tree d
  rooted' : Rooted r'.tree d
  explicitPolicy : r.explicitPolicy ≤ r'.explicitPolicy
  policyMapping : r.policyMapping = r'.policyMapping
  inhibitAnyPolicy : r.inhibitAnyPolicy ≤ r'.inhibitAnyPolicy

namespace Eases

variable {r r' s : State}

theorem assert (h : Eases d r r') (statement : PolicyStatement) (isTarget : Bool)
    (policies : Option (List String)) :
    Eases (d + 1) (r.assert d statement isTarget policies)
      (r'.assert d statement isTarget policies) := by
  cases policies with
  | none =>
      have hempty : Rooted ∅ (d + 1) := (Reads.gone (d := d + 1)).rooted
      exact ⟨Or.inl rfl, hempty, hempty, h.explicitPolicy, h.policyMapping, h.inhibitAnyPolicy⟩
  | some policies =>
      have hallowed :
          (decide (0 < r.inhibitAnyPolicy) || (!isTarget && statement.selfIssued)) = true →
            (decide (0 < r'.inhibitAnyPolicy) || (!isTarget && statement.selfIssued)) = true := by
        have hle := h.inhibitAnyPolicy
        simp only [Bool.or_eq_true, decide_eq_true_eq]
        rintro (hpositive | hselfIssued)
        · exact Or.inl (Nat.lt_of_lt_of_le hpositive hle)
        · exact Or.inr hselfIssued
      have hgrown := h.rooted.grow policies.toFinset
        (decide (0 < r.inhibitAnyPolicy) || (!isTarget && statement.selfIssued))
      have hgrown' := h.rooted'.grow policies.toFinset
        (decide (0 < r'.inhibitAnyPolicy) || (!isTarget && statement.selfIssued))
      exact ⟨(h.narrower.grow h.rooted h.rooted' _ hallowed).prune hgrown hgrown', hgrown.prune,
        hgrown'.prune, h.explicitPolicy, h.policyMapping, h.inhibitAnyPolicy⟩

/-- Where the stricter run enters a certificate, so does the looser one. -/
theorem enter (h : Eases d r r') {statement : PolicyStatement} {isTarget : Bool}
    (henter : r.enter d statement isTarget = some s) :
    ∃ s', r'.enter d statement isTarget = some s' ∧ Eases (d + 1) s s' := by
  unfold State.enter at henter ⊢
  cases hpolicies : statement.policies with
  | error fault =>
      rw [hpolicies] at henter
      cases henter
  | ok policies =>
      rw [hpolicies] at henter
      dsimp only at henter ⊢
      have heases := h.assert statement isTarget policies
      split at henter
      · next hkept =>
        obtain rfl := Option.some.inj henter
        refine ⟨_, if_pos ?_, heases⟩
        rcases hkept with hpositive | htree
        · exact Or.inl (Nat.lt_of_lt_of_le hpositive heases.explicitPolicy)
        · exact Or.inr (heases.narrower.ne_empty htree)
      · cases henter

theorem bounded_le {a b : Nat} (h : a ≤ b) (bound : Option Nat) :
    bounded a bound ≤ bounded b bound := by
  rw [← limit_eq_bounded, ← limit_eq_bounded]
  cases bound with
  | none => exact h
  | some m =>
      simp only [PolicyState.limit]
      omega

theorem lessened_le {a b : Nat} (h : a ≤ b) :
    (if a ≠ 0 then a - 1 else 0) ≤ if b ≠ 0 then b - 1 else 0 := by
  split <;> split <;> omega

/-- Where the stricter run leaves a certificate, so does the looser one. -/
theorem leave (h : Eases (d + 1) r r') {statement : PolicyStatement} (hnamed : statement.MapsNamed)
    (hleave : r.leave d statement = some s) :
    ∃ s', r'.leave d statement = some s' ∧ Eases (d + 1) s s' := by
  unfold State.leave at hleave ⊢
  cases hmappings : statement.mappings with
  | error fault =>
      rw [hmappings] at hleave
      cases hleave
  | ok mappings =>
      rw [hmappings] at hleave
      obtain rfl := Option.some.inj hleave
      have hproper := hnamed mappings hmappings
      refine ⟨_, rfl, ?_⟩
      have htree := h.narrower.mapAll h.rooted h.rooted' (decide (0 < r.policyMapping)) hproper
      have hrooted := h.rooted.mapAll (decide (0 < r.policyMapping)) hproper
      have hrooted' := h.rooted'.mapAll (decide (0 < r'.policyMapping)) hproper
      rw [h.policyMapping] at htree hrooted
      have hexplicit := h.explicitPolicy
      have hany := h.inhibitAnyPolicy
      unfold State.constrain State.count
      rw [h.policyMapping]
      cases statement.selfIssued with
      | true =>
          exact ⟨htree, hrooted, hrooted', bounded_le hexplicit _, rfl, bounded_le hany _⟩
      | false =>
          exact ⟨htree, hrooted, hrooted', bounded_le (lessened_le hexplicit) _, rfl,
            bounded_le (lessened_le hany) _⟩

/-- Where the stricter run ends, so does the looser one. -/
theorem run : ∀ {path : List PolicyStatement} {d : Nat} {r r' s : State},
    (∀ statement ∈ path, statement.MapsNamed) → Eases d r r' → r.run d path = some s →
      ∃ s', r'.run d path = some s' ∧ Eases (d + path.length) s s'
  | [], d, r, r', s, _, h, hrun => by
      obtain rfl := Option.some.inj hrun
      exact ⟨r', rfl, h⟩
  | [target], d, r, r', s, _, h, hrun => h.enter hrun
  | statement :: next :: rest, d, r, r', s, hnamed, h, hrun => by
      obtain ⟨hfirst, hrest⟩ := List.forall_mem_cons.mp hnamed
      rw [State.run_cons_cons] at hrun ⊢
      obtain ⟨entered, henter, hrun⟩ := Option.bind_eq_some_iff.mp hrun
      obtain ⟨left, hleave, hrun⟩ := Option.bind_eq_some_iff.mp hrun
      obtain ⟨entered', henter', hentered⟩ := h.enter henter
      obtain ⟨left', hleave', hleft⟩ := hentered.leave hfirst hleave
      obtain ⟨s', hrun', hlast⟩ := run hrest hleft hrun
      refine ⟨s', ?_, ?_⟩
      · rw [henter', Option.bind_some, hleave', Option.bind_some, hrun']
      · rw [List.length_cons, Nat.add_comm (next :: rest).length, ← Nat.add_assoc]
        exact hlast

theorem finalExplicit (h : Eases d r r') (target : Option PolicyStatement) :
    r.finalExplicit target ≤ r'.finalExplicit target := by
  unfold State.finalExplicit
  split
  · exact Nat.le_refl 0
  · exact lessened_le h.explicitPolicy

theorem start {parameters looser : PolicyParameters} (h : Looser parameters looser) (n : Nat) :
    Eases 0 (start parameters n) (start looser n) := by
  have hle : ∀ {a b : Bool}, (b = true → a = true) →
      (if a then 0 else n + 1) ≤ if b then 0 else n + 1 := by
    intro a b himp
    cases b with
    | true => simp [himp rfl]
    | false => split <;> simp
  refine ⟨Or.inl rfl, rooted_initial, rooted_initial, hle h.explicitPolicy, ?_, hle h.anyPolicy⟩
  show (if _ then _ else _) = (if _ then _ else _)
  rw [h.policyMapping]

end Eases

/-- The reference accepts with looser inputs what it accepts. -/
theorem succeeds_of_looser {statement : PolicyStatement} {rest : List PolicyStatement}
    (hnamed : ∀ s ∈ statement :: rest, s.MapsNamed) {parameters looser : PolicyParameters}
    (h : Looser parameters looser) (hsucceeds : succeeds (statement :: rest) parameters = true) :
    succeeds (statement :: rest) looser = true := by
  unfold succeeds at hsucceeds ⊢
  split at hsucceeds
  · cases hsucceeds
  · next s hrun =>
    obtain ⟨s', hrun', heases⟩ := (Eases.start h (statement :: rest).length).run hnamed hrun
    rw [hrun']
    have hlength : 0 + (statement :: rest).length = (statement :: rest).length - 1 + 1 := by
      simp
    rw [hlength] at heases
    simp only [Bool.or_eq_true, decide_eq_true_eq] at hsucceeds ⊢
    rcases hsucceeds with hpositive | hkept
    · exact Or.inl (Nat.lt_of_lt_of_le hpositive (heases.finalExplicit _))
    · exact Or.inr (heases.narrower.intersect heases.rooted heases.rooted' h.acceptable hkept)

end Rfc5280

/-! ## The processing -/

/-- Without certificates only the root is intersected: it stays, or the
acceptable policies take its place. -/
theorem isEmpty_intersect_initial (acceptable : TextSet) :
    (PolicyTree.initial.intersect acceptable).isEmpty = false := by
  unfold PolicyTree.intersect
  split
  · rfl
  · next hstrict =>
    rw [Bool.or_eq_true, not_or, TextSet.isEmpty, List.isEmpty_iff] at hstrict
    obtain ⟨hsome, hnot⟩ := hstrict
    obtain ⟨policy, hpolicy⟩ := List.exists_mem_of_ne_nil _ hsome
    have hnamed : policy ≠ anyPolicy := by
      rintro rfl
      exact hnot (List.contains_iff_mem.mpr hpolicy)
    have hin : PolicyNode.leaf policy none ∈ PolicyTree.expandAny acceptable [] [.root] := by
      refine List.mem_filter.mpr ⟨List.mem_append_right _ (List.mem_map.mpr ⟨policy, ?_, rfl⟩), ?_⟩
      · exact List.mem_filter.mpr ⟨hpolicy, rfl⟩
      · simp [PolicyNode.isAny, PolicyNode.leaf, hnamed]
    exact List.isEmpty_eq_false_iff.mpr (List.ne_nil_of_mem hin)

theorem processPolicies_nil (parameters : PolicyParameters) :
    processPolicies [] parameters = .ok () := by
  have hkept : (PolicyState.kept
      (PolicyTree.initial.intersect parameters.initialPolicies)).isSome = true := by
    rw [PolicyState.kept, isEmpty_intersect_initial]
    rfl
  have hacceptable : (PolicyState.start parameters 0).isAcceptable parameters.initialPolicies none
      = true := by
    rw [PolicyState.isAcceptable, Bool.or_eq_true]
    exact Or.inr hkept
  show (if _ then _ else _) = _
  exact if_pos hacceptable

/-- The inputs as they follow from the acceptable policies: an explicit
policy is required when there are acceptable ones. -/
def PolicyParameters.ofInitial (acceptable : TextSet) (mappingInhibited anyInhibited : Bool) :
    PolicyParameters :=
  { initialPolicies := acceptable
    explicitPolicyRequired := !acceptable.isEmpty
    policyMappingInhibited := mappingInhibited
    anyPolicyInhibited := anyInhibited }

/-- The evaluator searches with inputs of this form. -/
example (e : PathEvaluator) (info : ValidationInfo) (store : PathStore) (now : Int) :
    (e.parameters info store now).policy
      = .ofInitial e.options.initialPolicies e.options.policyMappingInhibited
          e.options.anyPolicyInhibited := rfl

/-- A path that is accepted stays accepted with looser inputs: with every
policy acceptable, or with those acceptable that were and maybe more, and
with `anyPolicy` inhibited only if it was. -/
theorem processPolicies_loosened {path : List Certificate} {acceptable looser : TextSet}
    {mappingInhibited anyInhibited anyInhibited' : Bool}
    (haccepted : processPolicies (statementsOf path)
      (.ofInitial acceptable mappingInhibited anyInhibited) = .ok ())
    (hlooser : looser.isEmpty = true ∨
      acceptable.isEmpty = false ∧ ∀ policy ∈ acceptable, policy ∈ looser)
    (hany : anyInhibited' = true → anyInhibited = true) :
    processPolicies (statementsOf path) (.ofInitial looser mappingInhibited anyInhibited')
      = .ok () := by
  have hlooser : Rfc5280.Looser (.ofInitial acceptable mappingInhibited anyInhibited)
      (.ofInitial looser mappingInhibited anyInhibited') := by
    refine ⟨fun hexplicit => ?_, rfl, hany, ?_⟩
    · rcases hlooser with hempty | ⟨hsome, -⟩
      · simp [PolicyParameters.ofInitial, hempty] at hexplicit
      · simp [PolicyParameters.ofInitial, hsome]
    · rcases hlooser with hempty | ⟨hsome, hsub⟩
      · exact Or.inl (List.isEmpty_iff.mp hempty)
      · exact Or.inr ⟨List.isEmpty_eq_false_iff.mp hsome, hsub⟩
  cases path with
  | nil => exact processPolicies_nil _
  | cons c cs =>
      have hnamed : ∀ s ∈ statementsOf (c :: cs), s.MapsNamed := by
        intro statement hin
        obtain ⟨certificate, -, rfl⟩ := List.mem_map.mp hin
        exact PolicyStatement.mapsNamed_ofCertificate certificate
      have hsucceeds := (processPolicies_iff _ _ hnamed _).mp haccepted
      exact (processPolicies_iff _ _ hnamed _).mpr
        (Rfc5280.succeeds_of_looser hnamed hlooser hsucceeds)

/-- A certificate by its names and the policies it asserts. -/
def sampleAsserting (subject issuer : String) (policies : List Oid) : Certificate :=
  .bare subject issuer
    [⟨Extension.certificatePoliciesOid, false, .certificatePolicies policies⟩]

/-- An authority that asserts `anyPolicy` and a policy, above a target
with that policy. The tree gains a node where `anyPolicy` counts. -/
def samplePolicyPath : List Certificate :=
  [sampleAsserting "Lower" "Root" [⟨[85, 29, 32, 0]⟩, ⟨[42, 3]⟩],
    sampleAsserting "Target" "Lower" [⟨[42, 3]⟩]]

theorem sample_loosened :
    processPolicies (statementsOf samplePolicyPath) (.ofInitial (.ofList ["1.2.3"]) true true)
        = .ok ()
      ∧ processPolicies (statementsOf samplePolicyPath)
          (.ofInitial (.ofList ["1.2.3", "1.2.4"]) true false) = .ok () := by
  have hpassed : succeeds (processPolicies (statementsOf samplePolicyPath)
      (.ofInitial (.ofList ["1.2.3"]) true true)) (fun _ => true) = true := by
    decide +kernel
  obtain ⟨⟨⟩, haccepted, -⟩ := succeeds_iff.mp hpassed
  have hsub : ∀ policy ∈ (TextSet.ofList ["1.2.3"]).toList,
      policy ∈ (TextSet.ofList ["1.2.3", "1.2.4"]).toList := by
    decide +kernel
  have hsome : (TextSet.ofList ["1.2.3"]).isEmpty = false := by decide +kernel
  exact ⟨haccepted, processPolicies_loosened haccepted (Or.inr ⟨hsome, hsub⟩) nofun⟩

end TrustPath
