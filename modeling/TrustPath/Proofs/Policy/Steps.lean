import TrustPath.Proofs.Policy.Rooted
import TrustPath.Proofs.TextSet

/-!
# The steps keep the tree rooted

Each step of the reference, from the point of view of one node: what the
tree holds after it, and that it is still `Rooted`. Growth is described
by what a node of the level above gets as children (`Gets`), in terms
that fit the indexed levels as well; the clause about policies that do
not appear in a child yet is gone, for a child that is there already is
the one that would be put there.

A mapping is `Proper` if it is neither from nor to `anyPolicy`. Section
6.1.4 (a) makes sure of it, and the chain of nodes for `anyPolicy` rests
on it.
-/

namespace TrustPath

namespace Rfc5280

variable {t : Tree} {d : Nat}

theorem Node.mem_expected_leaf {v : Node} {policy p : String} :
    p ∈ (v.leaf policy).expected ↔ p = policy :=
  TextSet.mem_singleton

/-! ## Growth -/

/-- Whether a node with a policy and expected policies gets a child for a
policy; `elsewhere` is whether a node of its level expects that. -/
def Gets (elsewhere : Prop) (policies : Finset String) (anyAllowed : Bool) (own : String)
    (expected : TextSet) (policy : String) : Prop :=
  (policy ∈ policies ∧ policy ≠ anyPolicy ∧ (policy ∈ expected ∨ ¬ elsewhere ∧ own = anyPolicy))
    ∨ anyAllowed = true ∧ anyPolicy ∈ policies ∧ policy ∈ expected

/-- A node of a depth expects a policy. -/
def Expects (t : Tree) (d : Nat) (policy : String) : Prop := ∃ u ∈ level t d, policy ∈ u.expected

theorem mem_named {policy : String} {w : Node} :
    w ∈ named t d policy ↔ ∃ v ∈ level t d, v.leaf policy = w
      ∧ (policy ∈ v.expected ∨ ¬ Expects t d policy ∧ v.policy = anyPolicy) := by
  have hnone : ((level t d).filter (policy ∈ ·.expected)).Nonempty ↔ Expects t d policy := by
    simp only [Finset.Nonempty, Finset.mem_filter, Expects]
  unfold named
  dsimp only
  split
  · next hexpects =>
    have hsome := hnone.mp hexpects
    simp only [Finset.mem_image, Finset.mem_filter, hsome, not_true_eq_false, false_and, or_false]
    exact exists_congr fun v => ⟨fun h => ⟨h.1.1, h.2, h.1.2⟩, fun h => ⟨⟨h.1, h.2.2⟩, h.2.1⟩⟩
  · next hexpects =>
    have hnot := mt hnone.mpr hexpects
    simp only [Finset.mem_image, anyNodes, Finset.mem_filter, hnot, not_false_eq_true, true_and]
    refine exists_congr fun v => ⟨fun h => ⟨h.1.1, h.2, Or.inr h.1.2⟩, fun h => ⟨⟨h.1, ?_⟩, h.2.1⟩⟩
    exact h.2.2.resolve_left fun hin => hnot ⟨v, h.1, hin⟩

theorem mem_unmatched {v w : Node} :
    w ∈ unmatched t v ↔ ∃ policy ∈ v.expected,
      (∀ u ∈ t, u.above = v.place → u.policy ≠ policy) ∧ v.leaf policy = w := by
  simp only [unmatched, Finset.mem_image, Finset.mem_filter, List.mem_toFinset, and_assoc]
  exact Iff.rfl

/-- A grown tree holds the nodes it had, and below the nodes of the depth
what they get. -/
theorem mem_grow (h : Rooted t d) {policies : Finset String} {anyAllowed : Bool} {w : Node} :
    w ∈ grow t d policies anyAllowed ↔
      w ∈ t ∨ ∃ v ∈ level t d, ∃ policy, v.leaf policy = w
        ∧ Gets (Expects t d policy) policies anyAllowed v.policy v.expected policy := by
  have hnamed : ∀ {w : Node}, w ∈ t ∪ (policies.erase anyPolicy).biUnion (named t d) ↔
      w ∈ t ∨ ∃ v ∈ level t d, ∃ policy, v.leaf policy = w ∧ policy ∈ policies
        ∧ policy ≠ anyPolicy
        ∧ (policy ∈ v.expected ∨ ¬ Expects t d policy ∧ v.policy = anyPolicy) := by
    intro w
    simp only [Finset.mem_union, Finset.mem_biUnion, Finset.mem_erase, mem_named]
    refine or_congr_right ⟨?_, ?_⟩
    · rintro ⟨policy, ⟨hne, hin⟩, v, hv, hleaf, hgets⟩
      exact ⟨v, hv, policy, hleaf, hin, hne, hgets⟩
    · rintro ⟨v, hv, policy, hleaf, hin, hne, hgets⟩
      exact ⟨policy, ⟨hne, hin⟩, v, hv, hleaf, hgets⟩
  unfold grow
  dsimp only
  split
  · next hany =>
    simp only [Finset.mem_union (t := Finset.biUnion _ (unmatched _)), Finset.mem_biUnion,
      mem_unmatched, hnamed]
    constructor
    · rintro ((hw | ⟨v, hv, policy, hleaf, hin, hne, hgets⟩) | ⟨v, hv, policy, hexp, -, hleaf⟩)
      · exact Or.inl hw
      · exact Or.inr ⟨v, hv, policy, hleaf, Or.inl ⟨hin, hne, hgets⟩⟩
      · exact Or.inr ⟨v, hv, policy, hleaf, Or.inr ⟨hany.1, hany.2, hexp⟩⟩
    · rintro (hw | ⟨v, hv, policy, hleaf, ⟨hin, hne, hgets⟩ | ⟨-, -, hexp⟩⟩)
      · exact Or.inl (Or.inl hw)
      · exact Or.inl (Or.inr ⟨v, hv, policy, hleaf, hin, hne, hgets⟩)
      · obtain ⟨hvt, hdepth⟩ := mem_level.mp hv
        by_cases happears : ∃ u ∈ t ∪ (policies.erase anyPolicy).biUnion (named t d),
            u.above = v.place ∧ u.policy = policy
        · -- the child that is there is the one to put there
          left
          obtain ⟨u, hu, habove, hpolicy⟩ := happears
          rcases hnamed.mp hu with hut | ⟨v', hv', policy', hleaf', hgets'⟩
          · have hdeep := h.shallow u hut
            have hchild := depth_of_above_eq habove
            omega
          · obtain rfl : v' = v := by
              refine h.unique v' (mem_level.mp hv').1 v hvt ?_
              rw [← habove, ← hleaf']
              rfl
            obtain rfl : policy' = policy := by rw [← hpolicy, ← hleaf']; rfl
            exact Or.inr ⟨v', hv', policy', hleaf, hgets'⟩
        · right
          refine ⟨v, hv, policy, hexp, fun u hu habove hpolicy => ?_, hleaf⟩
          exact happears ⟨u, hnamed.mpr hu, habove, hpolicy⟩
  · next hany =>
    rw [hnamed]
    refine or_congr_right (exists_congr fun v => and_congr_right fun _ => exists_congr fun policy =>
      and_congr_right fun _ => ⟨Or.inl, fun hgets => hgets.resolve_right fun hall => ?_⟩)
    exact hany ⟨hall.1, hall.2.1⟩

theorem Rooted.grow (h : Rooted t d) (policies : Finset String) (anyAllowed : Bool) :
    Rooted (grow t d policies anyAllowed) (d + 1) where
  shallow := by
    intro w hw
    rcases (mem_grow h).mp hw with hw | ⟨v, hv, policy, rfl, -⟩
    · exact Nat.le_succ_of_le (h.shallow w hw)
    · exact Nat.succ_le_succ (Nat.le_of_eq (mem_level.mp hv).2)
  parent := by
    intro w hw hne
    rcases (mem_grow h).mp hw with hw | ⟨v, hv, policy, rfl, -⟩
    · obtain ⟨u, hu, hplace⟩ := h.parent w hw hne
      exact ⟨u, (mem_grow h).mpr (Or.inl hu), hplace⟩
    · exact ⟨v, (mem_grow h).mpr (Or.inl (mem_level.mp hv).1), rfl⟩
  unique := by
    have hnew : ∀ u ∈ t, ∀ v ∈ level t d, ∀ policy, u.place ≠ (v.leaf policy).place := by
      intro u hu v hv policy hplace
      have hshallow := h.shallow u hu
      have hdepth : u.depth = v.depth + 1 := depth_of_above_eq (List.cons.inj hplace).2
      have hv := (mem_level.mp hv).2
      omega
    intro u hu v hv hplace
    rcases (mem_grow h).mp hu with hu | ⟨u', hu', policy, rfl, -⟩ <;>
      rcases (mem_grow h).mp hv with hv | ⟨v', hv', policy', rfl, -⟩
    · exact h.unique u hu v hv hplace
    · exact absurd hplace (hnew u hu v' hv' policy')
    · exact absurd hplace.symm (hnew v hv u' hu' policy)
    · obtain ⟨rfl, habove⟩ := List.cons.inj hplace
      obtain rfl := h.unique u' (mem_level.mp hu').1 v' (mem_level.mp hv').1 habove
      rfl
  anyAbove := by
    intro w hw hany
    rcases (mem_grow h).mp hw with hw | ⟨v, hv, policy, rfl, hgets⟩
    · exact h.anyAbove w hw hany
    · obtain rfl : policy = anyPolicy := hany
      obtain ⟨hv, -⟩ := mem_level.mp hv
      rcases hgets with ⟨-, hne, -⟩ | ⟨-, -, hexp⟩
      · exact absurd rfl hne
      · have hvany := h.anyExpected v hv hexp
        exact List.forall_mem_cons.mpr ⟨hvany, h.anyAbove v hv hvany⟩
  anyExpected := by
    intro w hw hexp
    rcases (mem_grow h).mp hw with hw | ⟨v, hv, policy, rfl, -⟩
    · exact h.anyExpected w hw hexp
    · exact (Node.mem_expected_leaf.mp hexp).symm

/-! ## Mapping -/

/-- The node for `anyPolicy` of a depth hangs below the one above it. -/
theorem Rooted.anyNodes_above (h : Rooted t (d + 1)) {v : Node} (hv : v ∈ anyNodes t (d + 1)) :
    ∃ u, anyNodes t d = {u} ∧ u.place = v.above := by
  obtain ⟨hvt, hdepth, hany⟩ := mem_anyNodes.mp hv
  obtain ⟨u, hu, hplace⟩ := h.parent v hvt fun hnil => by
    rw [Node.depth, hnil] at hdepth
    cases hdepth
  have huany : u.policy = anyPolicy := by
    refine h.anyAbove v hvt hany u.policy ?_
    rw [← hplace]
    exact List.mem_cons_self ..
  have hudepth : u.depth = d := by
    rw [depth_of_above_eq hplace.symm] at hdepth
    exact Nat.succ.inj hdepth
  refine ⟨u, Finset.ext fun w => ?_, hplace⟩
  rw [Finset.mem_singleton]
  constructor
  · intro hw
    obtain ⟨hwt, hwdepth, hwany⟩ := mem_anyNodes.mp hw
    exact h.any_unique hwt hu hwany huany (hwdepth.trans hudepth.symm)
  · rintro rfl
    exact mem_anyNodes.mpr ⟨hu, hudepth, huany⟩

/-- A mapping that is neither from nor to `anyPolicy`. -/
def Proper (mapping : String × TextSet) : Prop :=
  mapping.1 ≠ anyPolicy ∧ anyPolicy ∉ mapping.2

/-- The deepest nodes may go. -/
theorem Rooted.filter_deepest (h : Rooted t (d + 1)) (P : Node → Prop) [DecidablePred P] :
    Rooted (t.filter fun v => ¬ (v.depth = d + 1 ∧ P v)) (d + 1) := by
  refine h.of_subset (Finset.filter_subset _ _) fun v hv u hu hplace => ?_
  refine Finset.mem_filter.mpr ⟨hu, fun hdeep => ?_⟩
  have hshallow := h.shallow v (Finset.mem_filter.mp hv).1
  have hdepth := depth_of_above_eq hplace.symm
  omega

/-- The expected policies of nodes may change, but not to `anyPolicy`. -/
theorem Rooted.image (h : Rooted t d) {f : Node → Node} (hpolicy : ∀ v, (f v).policy = v.policy)
    (habove : ∀ v, (f v).above = v.above)
    (hexpected : ∀ v, anyPolicy ∈ (f v).expected → anyPolicy ∈ v.expected) :
    Rooted (t.image f) d := by
  have hplace : ∀ v, (f v).place = v.place := fun v => by
    rw [Node.place, hpolicy, habove, Node.place]
  refine ⟨?_, ?_, ?_, ?_, ?_⟩ <;> intro w hw <;> obtain ⟨v, hv, rfl⟩ := Finset.mem_image.mp hw
  · rw [Node.depth, habove]
    exact h.shallow v hv
  · intro hne
    rw [habove] at hne ⊢
    obtain ⟨u, hu, heq⟩ := h.parent v hv hne
    exact ⟨f u, Finset.mem_image_of_mem f hu, (hplace u).trans heq⟩
  · intro w' hw' heq
    obtain ⟨v', hv', rfl⟩ := Finset.mem_image.mp hw'
    rw [hplace, hplace] at heq
    rw [h.unique v hv v' hv' heq]
  · rw [hpolicy, habove]
    exact h.anyAbove v hv
  · rw [hpolicy]
    exact fun hexp => h.anyExpected v hv (hexpected v hexp)

/-- Nodes may be added below the node for `anyPolicy` of a depth, one for
a policy that has none there. -/
theorem Rooted.union_below (h : Rooted t (d + 1)) {new : Tree}
    (hnew : ∀ w ∈ new, ∃ u ∈ anyNodes t d, w.above = u.place ∧ w.policy ≠ anyPolicy
      ∧ anyPolicy ∉ w.expected ∧ ∀ v ∈ t, v.above = u.place → v.policy ≠ w.policy)
    (hsame : ∀ w ∈ new, ∀ w' ∈ new, w.policy = w'.policy → w = w') :
    Rooted (t ∪ new) (d + 1) where
  shallow := by
    intro w hw
    rcases Finset.mem_union.mp hw with hw | hw
    · exact h.shallow w hw
    · obtain ⟨u, hu, habove, -⟩ := hnew w hw
      rw [depth_of_above_eq habove, (mem_anyNodes.mp hu).2.1]
  parent := by
    intro w hw hne
    rcases Finset.mem_union.mp hw with hw | hw
    · obtain ⟨u, hu, hplace⟩ := h.parent w hw hne
      exact ⟨u, Finset.mem_union_left _ hu, hplace⟩
    · obtain ⟨u, hu, habove, -⟩ := hnew w hw
      exact ⟨u, Finset.mem_union_left _ (mem_anyNodes.mp hu).1, habove.symm⟩
  unique := by
    intro w hw w' hw' hplace
    obtain ⟨hpolicy, habove⟩ := List.cons.inj hplace
    rcases Finset.mem_union.mp hw with hw | hw <;> rcases Finset.mem_union.mp hw' with hw' | hw'
    · exact h.unique w hw w' hw' hplace
    · obtain ⟨u, -, hu, -, -, hnone⟩ := hnew w' hw'
      exact absurd hpolicy (hnone w hw (habove.trans hu))
    · obtain ⟨u, -, hu, -, -, hnone⟩ := hnew w hw
      exact absurd hpolicy.symm (hnone w' hw' (habove.symm.trans hu))
    · exact hsame w hw w' hw' hpolicy
  anyAbove := by
    intro w hw hany
    rcases Finset.mem_union.mp hw with hw | hw
    · exact h.anyAbove w hw hany
    · obtain ⟨-, -, -, hne, -⟩ := hnew w hw
      exact absurd hany hne
  anyExpected := by
    intro w hw hexp
    rcases Finset.mem_union.mp hw with hw | hw
    · exact h.anyExpected w hw hexp
    · obtain ⟨-, -, -, -, hnot, -⟩ := hnew w hw
      exact absurd hexp hnot

theorem Rooted.mapOne (h : Rooted t (d + 1)) (allowed : Bool) {mapping : String × TextSet}
    (hproper : Proper mapping) : Rooted (mapOne d allowed t mapping) (d + 1) := by
  unfold Rfc5280.mapOne
  split
  · split
    · refine h.image (fun v => ?_) (fun v => ?_) (fun v hexp => ?_)
      · split <;> rfl
      · split <;> rfl
      · split at hexp
        · exact absurd hexp hproper.2
        · exact hexp
    · next hnone =>
      split
      · refine h.union_below (fun w hw => ?_) (fun w hw w' hw' _ => ?_)
        · obtain ⟨u, hu, rfl⟩ := Finset.mem_image.mp hw
          refine ⟨u, hu, rfl, hproper.1, hproper.2, fun v hv habove hpolicy => hnone ⟨v, ?_, hpolicy⟩⟩
          refine mem_level.mpr ⟨hv, ?_⟩
          rw [depth_of_above_eq habove, (mem_anyNodes.mp hu).2.1]
        · obtain ⟨u, hu, rfl⟩ := Finset.mem_image.mp hw
          obtain ⟨u', hu', rfl⟩ := Finset.mem_image.mp hw'
          obtain ⟨hu, hdepth, hany⟩ := mem_anyNodes.mp hu
          obtain ⟨hu', hdepth', hany'⟩ := mem_anyNodes.mp hu'
          rw [h.any_unique hu hu' hany hany' (hdepth.trans hdepth'.symm)]
      · exact h
  · exact (h.filter_deepest _).prune

theorem Rooted.mapAll (h : Rooted t (d + 1)) (allowed : Bool) :
    ∀ {mappings : PolicyMappings}, (∀ mapping ∈ mappings, Proper mapping) →
      Rooted (mapAll t d allowed mappings) (d + 1) := by
  intro mappings hproper
  unfold Rfc5280.mapAll
  induction mappings generalizing t with
  | nil => exact h
  | cons mapping rest ih =>
      obtain ⟨hfirst, hrest⟩ := List.forall_mem_cons.mp hproper
      exact ih (h.mapOne allowed hfirst) hrest

/-- What pruning leaves after the deepest nodes for some policies are
gone: what lies on the way to a deepest node for another. -/
theorem mem_prune_filter_deepest (h : Rooted t (d + 1)) (P : String → Prop) [DecidablePred P]
    {v : Node} :
    v ∈ prune (t.filter fun v => ¬ (v.depth = d + 1 ∧ P v.policy)) (d + 1) ↔
      v ∈ t ∧ ∃ w ∈ t, w.depth = d + 1 ∧ ¬ P w.policy ∧ v.place <:+ w.place := by
  rw [mem_prune (h.filter_deepest fun v => P v.policy), Alive]
  simp only [Finset.mem_filter, not_and]
  constructor
  · rintro ⟨⟨hv, -⟩, w, ⟨hw, hkept⟩, hdepth, hsuffix⟩
    exact ⟨hv, w, hw, hdepth, hkept hdepth, hsuffix⟩
  · rintro ⟨hv, w, hw, hdepth, hkept, hsuffix⟩
    refine ⟨⟨hv, fun hdeep hpolicy => hkept ?_⟩, w, ⟨hw, fun _ => hkept⟩, hdepth, hsuffix⟩
    obtain ⟨hsame, -⟩ := List.cons.inj (place_eq_of_suffix hsuffix (hdeep.trans hdepth.symm))
    exact hsame ▸ hpolicy

/-- Where mapping is inhibited the tree keeps what lies on the way to a
deepest node without a mapping, whatever the order of the mappings. -/
theorem mem_mapAll_inhibited (h : Rooted t (d + 1)) (halive : ∀ v ∈ t, Alive t (d + 1) v) :
    ∀ {mappings : PolicyMappings} {v : Node}, v ∈ mapAll t d false mappings ↔
      v ∈ t ∧ ∃ w ∈ t, w.depth = d + 1 ∧ (∀ mapping ∈ mappings, w.policy ≠ mapping.1)
        ∧ v.place <:+ w.place := by
  intro mappings
  unfold mapAll
  induction mappings generalizing t with
  | nil =>
      intro v
      refine ⟨fun hv => ⟨hv, ?_⟩, fun hv => hv.1⟩
      obtain ⟨w, hw, hdepth, hsuffix⟩ := halive v hv
      exact ⟨w, hw, hdepth, nofun, hsuffix⟩
  | cons mapping rest ih =>
      intro v
      have hone : ∀ {v}, v ∈ mapOne d false t mapping ↔ v ∈ t ∧ ∃ w ∈ t, w.depth = d + 1
          ∧ w.policy ≠ mapping.1 ∧ v.place <:+ w.place := by
        intro v
        rw [mapOne, if_neg Bool.false_ne_true]
        exact mem_prune_filter_deepest h (· = mapping.1)
      have hrooted : Rooted (mapOne d false t mapping) (d + 1) := by
        rw [mapOne, if_neg Bool.false_ne_true]
        exact (h.filter_deepest _).prune
      have hstill : ∀ v ∈ mapOne d false t mapping, Alive (mapOne d false t mapping) (d + 1) v := by
        intro v hv
        obtain ⟨-, w, hw, hdepth, hkept, hsuffix⟩ := hone.mp hv
        exact ⟨w, hone.mpr ⟨hw, w, hw, hdepth, hkept, List.suffix_refl _⟩, hdepth, hsuffix⟩
      rw [List.foldl_cons, ih hrooted hstill]
      constructor
      · rintro ⟨hv, w, hw, hdepth, hrest, hsuffix⟩
        obtain ⟨hwt, w', -, hdepth', hkept, hsuffix'⟩ := hone.mp hw
        obtain ⟨hsame, -⟩ :=
          List.cons.inj (place_eq_of_suffix hsuffix' (hdepth.trans hdepth'.symm))
        exact ⟨(hone.mp hv).1, w, hwt, hdepth,
          List.forall_mem_cons.mpr ⟨hsame ▸ hkept, hrest⟩, hsuffix⟩
      · rintro ⟨hv, w, hw, hdepth, hall, hsuffix⟩
        obtain ⟨hkept, hrest⟩ := List.forall_mem_cons.mp hall
        exact ⟨hone.mpr ⟨hv, w, hw, hdepth, hkept, hsuffix⟩, w,
          hone.mpr ⟨hw, w, hw, hdepth, hkept, List.suffix_refl _⟩, hdepth, hrest, hsuffix⟩

/-! ## Intersection -/

/-- A place whose node hangs below one for `anyPolicy` and is not
acceptable. -/
def Foreign (acceptable : TextSet) (place : List String) : Prop :=
  ∃ policy above, place = policy :: anyPolicy :: above ∧ policy ∉ acceptable ∧ policy ≠ anyPolicy

theorem foreign_place {acceptable : TextSet} {v : Node} :
    Foreign acceptable v.place ↔
      v.above.head? = some anyPolicy ∧ v.policy ∉ acceptable ∧ v.policy ≠ anyPolicy := by
  constructor
  · rintro ⟨policy, above, heq, hout, hne⟩
    obtain ⟨rfl, habove⟩ := List.cons.inj heq
    exact ⟨by rw [habove]; rfl, hout, hne⟩
  · rintro ⟨hhead, hout, hne⟩
    obtain ⟨above, habove⟩ := List.head?_eq_some_iff.mp hhead
    exact ⟨v.policy, above, by rw [Node.place, habove], hout, hne⟩

theorem mem_nodeSet (h : Rooted t d) {v : Node} :
    v ∈ nodeSet t ↔ v ∈ t ∧ v.above.head? = some anyPolicy := by
  rw [nodeSet, Finset.mem_filter]
  refine and_congr_right fun hv => ⟨?_, fun hhead => ?_⟩
  · rintro ⟨u, -, hany, habove⟩
    rw [habove, Node.place, hany]
    rfl
  · obtain ⟨u, hu, hplace⟩ := h.parent v hv fun hnil => by rw [hnil] at hhead; cases hhead
    refine ⟨u, hu, ?_, hplace.symm⟩
    rw [← hplace] at hhead
    exact Option.some.inj hhead

/-- What hangs below a node for `anyPolicy` has nothing foreign above it. -/
theorem Rooted.not_foreign_above (h : Rooted t d) {acceptable : TextSet} {v : Node}
    (hv : v ∈ nodeSet t) {s : List String} (hs : s <:+ v.above) : ¬ Foreign acceptable s := by
  rintro ⟨p, above, rfl, -, hne⟩
  obtain ⟨-, u, hu, hany, habove⟩ := Finset.mem_filter.mp hv
  have hin : p ∈ v.above := hs.subset List.mem_cons_self
  rw [habove, h.place_of_any hu hany] at hin
  exact hne (List.eq_of_mem_replicate hin)

/-- What is left has no place on its way that is foreign. -/
theorem mem_deleteForeign (h : Rooted t d) {acceptable : TextSet} {v : Node} :
    v ∈ deleteForeign t acceptable ↔
      v ∈ t ∧ ∀ s, s <:+ v.place → ¬ Foreign acceptable s := by
  rw [deleteForeign, Finset.mem_filter]
  refine and_congr_right fun hv => ⟨fun hkept s hsuffix hforeign => ?_, fun hnone u hu => ?_⟩
  · have hne : s ≠ [] := by
      rintro rfl
      obtain ⟨policy, above, heq, -⟩ := hforeign
      cases heq
    obtain ⟨u, hu, rfl⟩ := h.ancestor hne hv hsuffix
    obtain ⟨hhead, hout⟩ := foreign_place.mp hforeign
    exact hkept u (Finset.mem_filter.mpr ⟨(mem_nodeSet h).mpr ⟨hu, hhead⟩, hout⟩) hsuffix
  · obtain ⟨hset, hout⟩ := Finset.mem_filter.mp hu
    obtain ⟨-, hhead⟩ := (mem_nodeSet h).mp hset
    exact fun hsuffix => hnone u.place hsuffix (foreign_place.mpr ⟨hhead, hout⟩)

theorem Rooted.deleteForeign (h : Rooted t d) (acceptable : TextSet) :
    Rooted (deleteForeign t acceptable) d := by
  refine h.of_subset (fun v hv => ((mem_deleteForeign h).mp hv).1) fun v hv u hu hplace => ?_
  refine (mem_deleteForeign h).mpr ⟨hu, fun s hsuffix => ?_⟩
  refine ((mem_deleteForeign h).mp hv).2 s (hsuffix.trans ?_)
  rw [hplace]
  exact List.suffix_cons ..

theorem mem_missing {acceptable : TextSet} {policy : String} :
    policy ∈ missing t acceptable ↔ policy ∈ acceptable ∧ ∀ v ∈ nodeSet t, v.policy ≠ policy := by
  rw [missing, Finset.mem_filter, List.mem_toFinset]
  exact Iff.rfl

/-- The replacement of the deepest node for `anyPolicy`, from the point
of view of one node. -/
theorem mem_replaceAny {policies : Finset String} (hnot : anyPolicy ∉ policies) {w : Node} :
    w ∈ replaceAny t d policies ↔
      (w ∈ t ∧ ¬ (w.depth = d + 1 ∧ w.policy = anyPolicy))
        ∨ (anyNodes t (d + 1)).Nonempty
          ∧ ∃ u ∈ anyNodes t d, ∃ policy ∈ policies, u.leaf policy = w := by
  have hold : ∀ {w}, w ∈ anyNodes t (d + 1) ↔ w ∈ t ∧ w.depth = d + 1 ∧ w.policy = anyPolicy :=
    mem_anyNodes
  unfold replaceAny
  split
  · next hany =>
    simp only [Finset.mem_sdiff, Finset.mem_union, Finset.mem_biUnion, Finset.mem_image, hold]
    constructor
    · rintro ⟨hw | hw, hkept⟩
      · exact Or.inl ⟨hw, fun hdeep => hkept ⟨hw, hdeep⟩⟩
      · exact Or.inr ⟨hany, hw⟩
    · rintro (⟨hw, hkept⟩ | ⟨-, u, hu, policy, hpolicy, rfl⟩)
      · exact ⟨Or.inl hw, fun hdeep => hkept hdeep.2⟩
      · refine ⟨Or.inr ⟨u, hu, policy, hpolicy, rfl⟩, fun hdeep => hnot ?_⟩
        obtain rfl : policy = anyPolicy := hdeep.2.2
        exact hpolicy
  · next hany =>
    refine ⟨fun hw => Or.inl ⟨hw, fun hdeep => hany ⟨w, hold.mpr ⟨hw, hdeep⟩⟩⟩, fun hw => ?_⟩
    exact (hw.resolve_right fun hnew => hany hnew.1).1

/-- The tree stays rooted when the policies are missing in it. -/
theorem Rooted.replaceAny (h : Rooted t (d + 1)) {policies : Finset String}
    (hnot : anyPolicy ∉ policies)
    (hmissing : ∀ v ∈ t, v.above.head? = some anyPolicy → v.policy ∉ policies) :
    Rooted (replaceAny t d policies) (d + 1) := by
  unfold Rfc5280.replaceAny
  split
  · have hunion : Rooted (t ∪ (anyNodes t d).biUnion fun u => policies.image u.leaf) (d + 1) := by
      refine h.union_below (fun w hw => ?_) (fun w hw w' hw' hpolicy => ?_)
      · obtain ⟨u, hu, hw⟩ := Finset.mem_biUnion.mp hw
        obtain ⟨policy, hpolicy, rfl⟩ := Finset.mem_image.mp hw
        refine ⟨u, hu, rfl, fun heq => hnot (heq ▸ hpolicy), fun hexp => ?_, ?_⟩
        · rw [Node.mem_expected_leaf] at hexp
          exact hnot (hexp ▸ hpolicy)
        · rintro v hv habove rfl
          refine hmissing v hv ?_ hpolicy
          rw [habove, Node.place, (mem_anyNodes.mp hu).2.2]
          rfl
      · obtain ⟨u, hu, hw⟩ := Finset.mem_biUnion.mp hw
        obtain ⟨u', hu', hw'⟩ := Finset.mem_biUnion.mp hw'
        obtain ⟨policy, -, rfl⟩ := Finset.mem_image.mp hw
        obtain ⟨policy', -, rfl⟩ := Finset.mem_image.mp hw'
        obtain rfl : policy = policy' := hpolicy
        obtain ⟨hu, hdepth, hany⟩ := mem_anyNodes.mp hu
        obtain ⟨hu', hdepth', hany'⟩ := mem_anyNodes.mp hu'
        rw [h.any_unique hu hu' hany hany' (hdepth.trans hdepth'.symm)]
    refine hunion.of_subset Finset.sdiff_subset fun v hv u hu hplace => ?_
    refine Finset.mem_sdiff.mpr ⟨hu, fun hdeep => ?_⟩
    have hshallow := hunion.shallow v (Finset.mem_sdiff.mp hv).1
    have hdepth := depth_of_above_eq hplace.symm
    have hdeep := (mem_anyNodes.mp hdeep).2.1
    omega
  · exact h

/-- The whole of (g)(iii) before pruning keeps the tree rooted. -/
theorem Rooted.replaceMissing (h : Rooted t (d + 1)) {acceptable : TextSet}
    (hnot : anyPolicy ∉ acceptable) :
    Rooted (Rfc5280.replaceAny (Rfc5280.deleteForeign t acceptable) d (missing t acceptable)) (d + 1) := by
  refine (h.deleteForeign acceptable).replaceAny (fun hin => hnot (mem_missing.mp hin).1) ?_
  intro v hv hhead hin
  have hset : v ∈ nodeSet t := (mem_nodeSet h).mpr ⟨((mem_deleteForeign h).mp hv).1, hhead⟩
  exact (mem_missing.mp hin).2 v hset rfl

theorem Rooted.intersect (h : Rooted t (d + 1)) (acceptable : TextSet) :
    Rooted (Rfc5280.intersect t d acceptable) (d + 1) := by
  unfold Rfc5280.intersect
  split
  · exact h
  · next hsome => exact (h.replaceMissing fun hin => hsome (Or.inr hin)).prune

end Rfc5280

end TrustPath
