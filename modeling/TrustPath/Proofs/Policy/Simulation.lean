import TrustPath.Policy.Processing
import TrustPath.Proofs.Policy.TreeIntersection

/-!
# Policy processing is the reference

The state of the processing and that of the reference agree from the
start to the end of a path: the counters are equal, a tree that is there
has the nodes of the reference tree, and the tree is gone just where the
reference tree is NULL (`Agrees`). One lemma for each half of a
certificate, `Agrees.enter` and `Agrees.leave`, carries the agreement on,
and says that the two sides fail together; `Agrees.run` is the induction
along the path, and `processPolicies_iff` what it comes to.

The mappings of a certificate meet a tree that has just been pruned, and
deleting mapped nodes relies on that. This is why a certificate leaves
with more than it enters with (`Entered`).
-/

namespace TrustPath

/-! ## The NULL tree -/

namespace Rfc5280

theorem grow_empty (d : Nat) (policies : Finset String) (anyAllowed : Bool) :
    grow ∅ d policies anyAllowed = ∅ := by
  have hnamed : ∀ policy, named ∅ d policy = ∅ := by
    intro policy
    simp only [named, anyNodes, level, Finset.filter_empty, ite_self, Finset.image_empty]
  have hgrown : (policies.erase anyPolicy).biUnion (named ∅ d) = ∅ := by
    refine Finset.eq_empty_of_forall_notMem fun w hw => ?_
    obtain ⟨policy, -, hw⟩ := Finset.mem_biUnion.mp hw
    rw [hnamed] at hw
    exact absurd hw (Finset.notMem_empty w)
  simp only [grow, hgrown, level, Finset.filter_empty, Finset.biUnion_empty, Finset.union_empty,
    ite_self]

theorem prune_empty (d : Nat) : prune ∅ d = ∅ := by
  rw [prune, if_pos]
  exact Finset.filter_empty _

theorem mapOne_empty (d : Nat) (allowed : Bool) (mapping : String × TextSet) :
    mapOne d allowed ∅ mapping = ∅ := by
  cases allowed with
  | true =>
      have hnone : ¬ ∃ v ∈ level ∅ (d + 1), v.policy = mapping.1 := by
        rintro ⟨v, hv, -⟩
        exact absurd (mem_level.mp hv).1 (Finset.notMem_empty v)
      have hany : ¬ (anyNodes ∅ (d + 1)).Nonempty := by
        rintro ⟨v, hv⟩
        exact absurd (mem_anyNodes.mp hv).1 (Finset.notMem_empty v)
      rw [mapOne, if_pos rfl, if_neg hnone, if_neg hany]
  | false => rw [mapOne, if_neg Bool.false_ne_true, Finset.filter_empty, prune_empty]

theorem mapAll_empty (d : Nat) (allowed : Bool) (mappings : PolicyMappings) :
    mapAll ∅ d allowed mappings = ∅ := by
  induction mappings with
  | nil => rfl
  | cons mapping rest ih => rw [mapAll, List.foldl_cons, mapOne_empty, ← mapAll, ih]

theorem intersect_empty (d : Nat) (acceptable : TextSet) : intersect ∅ d acceptable = ∅ := by
  have hforeign : deleteForeign ∅ acceptable = ∅ := Finset.filter_empty _
  have hreplaced : ∀ policies, replaceAny ∅ d policies = ∅ := by
    intro policies
    rw [replaceAny, if_neg]
    rintro ⟨v, hv⟩
    exact absurd (mem_anyNodes.mp hv).1 (Finset.notMem_empty v)
  rw [intersect, hforeign, hreplaced, prune_empty, ite_self]

/-! ## Invariants of the steps -/

theorem rooted_initial : Rooted initial 0 where
  shallow := by
    intro v hv
    rw [Finset.mem_singleton.mp hv]
    exact Nat.le_refl 0
  parent := by
    intro v hv hne
    rw [Finset.mem_singleton.mp hv] at hne
    exact absurd rfl hne
  unique := fun u hu v hv _ => (Finset.mem_singleton.mp hu).trans (Finset.mem_singleton.mp hv).symm
  anyAbove := by
    intro v hv _ p hp
    rw [Finset.mem_singleton.mp hv] at hp
    exact absurd hp List.not_mem_nil
  anyExpected := by
    intro v hv _
    rw [Finset.mem_singleton.mp hv]

end Rfc5280

open Rfc5280 (Node Rooted Alive Proper)

/-! ## The tree that is kept -/

namespace PolicyTree

variable {tree : PolicyTree} {d : Nat}

theorem wellFormed_initial : WellFormed .initial 0 := by
  refine ⟨rfl, fun node hnode => ?_, trivial⟩
  rw [List.mem_singleton.mp hnode]
  rfl

/-- A tree is empty when the level of the root is: every node has the
root above it. -/
theorem isEmpty_iff (h : WellFormed tree d) (ht : Rooted tree.nodes d) :
    tree.isEmpty = true ↔ tree.nodes = ∅ := by
  obtain ⟨upper, here, deeper, hsplit⟩ := h.split (Nat.zero_le d)
  have hroot : tree.levels.headD [] = here := by
    rw [hsplit.levels, List.length_eq_zero_iff.mp hsplit.length]
    rfl
  rw [isEmpty, hroot, List.isEmpty_iff]
  constructor
  · rintro rfl
    refine Finset.eq_empty_of_forall_notMem fun v hv => ?_
    -- the root of `v` would be in the level of the root
    obtain ⟨u, hu, hplace⟩ := ht.ancestor (List.cons_ne_nil (v.place.getLast (List.cons_ne_nil _ _)) [])
      hv ⟨v.place.dropLast, List.dropLast_append_getLast _⟩
    have hdepth : u.depth = 0 := by
      have hlength := congrArg List.length hplace
      exact Nat.succ.inj hlength
    exact absurd (hsplit.mem_here.mpr (Rfc5280.mem_level.mpr ⟨hu, hdepth⟩)) List.not_mem_nil
  · intro hnone
    cases hhere : here with
    | nil => rfl
    | cons node rest =>
        have hin : seat (lastLevel none upper) node ∈ tree.nodes := by
          refine hsplit.mem_nodes.mpr (Or.inr (Or.inl ?_))
          rw [hhere]
          exact List.mem_cons_self
        rw [hnone] at hin
        exact absurd hin (Finset.notMem_empty _)

end PolicyTree

/-- No tree stands for the NULL tree, and a tree for the tree of its
nodes. -/
inductive Reads (d : Nat) : Option PolicyTree → Rfc5280.Tree → Prop
  | gone : Reads d none ∅
  | kept {tree : PolicyTree} (wellFormed : tree.WellFormed d) (rooted : Rooted tree.nodes d)
      (nonempty : tree.nodes ≠ ∅) : Reads d (some tree) tree.nodes

namespace Reads

variable {d d' : Nat} {tree : Option PolicyTree} {t : Rfc5280.Tree}

theorem isNone_iff (h : Reads d tree t) : tree.isNone = true ↔ t = ∅ := by
  cases h with
  | gone => exact ⟨fun _ => rfl, fun _ => rfl⟩
  | kept _ _ hsome => exact ⟨fun hnone => absurd hnone Bool.false_ne_true, fun hempty => absurd hempty hsome⟩

theorem rooted (h : Reads d tree t) : Rooted t d := by
  cases h with
  | gone =>
      have hnone : ∀ v : Node, v ∉ (∅ : Rfc5280.Tree) := fun v => Finset.notMem_empty v
      exact ⟨fun v hv => absurd hv (hnone v), fun v hv => absurd hv (hnone v),
        fun v hv => absurd hv (hnone v), fun v hv => absurd hv (hnone v),
        fun v hv => absurd hv (hnone v)⟩
  | kept _ hrooted _ => exact hrooted

theorem of_kept {tree : PolicyTree} (h : tree.WellFormed d) (ht : Rooted tree.nodes d) :
    Reads d (PolicyState.kept tree) tree.nodes := by
  unfold PolicyState.kept
  split
  · next hempty =>
    rw [(PolicyTree.isEmpty_iff h ht).mp hempty]
    exact gone
  · next hsome => exact kept h ht (mt (PolicyTree.isEmpty_iff h ht).mpr hsome)

/-- An operation on the levels that does a step of the reference does it
also where there is no tree. -/
theorem bind (h : Reads d tree t) {f : PolicyTree → PolicyTree} {g : Rfc5280.Tree → Rfc5280.Tree}
    (hnull : g ∅ = ∅)
    (hstep : ∀ tree : PolicyTree, tree.nodes = t → tree.WellFormed d →
      (f tree).WellFormed d' ∧ (f tree).nodes = g tree.nodes)
    (hrooted : Rooted (g t) d') :
    Reads d' (tree.bind fun tree => PolicyState.kept (f tree)) (g t) := by
  cases h with
  | gone =>
      rw [hnull]
      exact gone
  | kept hwell ht _ =>
      obtain ⟨hwell', hnodes⟩ := hstep _ rfl hwell
      rw [← hnodes] at hrooted ⊢
      exact of_kept hwell' hrooted

end Reads

/-! ## The states -/

/-- The states at a depth agree. -/
structure Agrees (d : Nat) (s : PolicyState) (r : Rfc5280.State) : Prop where
  tree : Reads d s.tree r.tree
  explicitPolicy : s.explicitPolicy = r.explicitPolicy
  policyMapping : s.policyMapping = r.policyMapping
  inhibitAnyPolicy : s.inhibitAnyPolicy = r.inhibitAnyPolicy

/-- The states after a certificate was entered: they agree and the tree
has just been pruned. -/
structure Entered (d : Nat) (s : PolicyState) (r : Rfc5280.State) : Prop where
  agrees : Agrees d s r
  alive : ∀ v ∈ r.tree, Alive r.tree d v

/-- Both sides fail, or both go on in states with a relation. -/
inductive Both (R : PolicyState → Rfc5280.State → Prop) :
    Except PolicyFault PolicyState → Option Rfc5280.State → Prop
  | failed (fault : PolicyFault) : Both R (.error fault) none
  | passed {s : PolicyState} {r : Rfc5280.State} (h : R s r) : Both R (.ok s) (some r)

theorem Both.bind {R R' : PolicyState → Rfc5280.State → Prop} {x : Except PolicyFault PolicyState}
    {y : Option Rfc5280.State} (h : Both R x y)
    {f : PolicyState → Except PolicyFault PolicyState} {g : Rfc5280.State → Option Rfc5280.State}
    (hnext : ∀ s r, R s r → Both R' (f s) (g r)) : Both R' (x >>= f) (y >>= g) := by
  cases h with
  | failed fault => exact .failed fault
  | passed h => exact hnext _ _ h

theorem Both.mono {R R' : PolicyState → Rfc5280.State → Prop} {x : Except PolicyFault PolicyState}
    {y : Option Rfc5280.State} (h : Both R x y) (himp : ∀ s r, R s r → R' s r) : Both R' x y := by
  cases h with
  | failed fault => exact .failed fault
  | passed h => exact .passed (himp _ _ h)

namespace Agrees

variable {d : Nat} {s : PolicyState} {r : Rfc5280.State}

theorem start (parameters : PolicyParameters) (n : Nat) :
    Agrees 0 (PolicyState.start parameters n) (Rfc5280.start parameters n) where
  tree := .kept PolicyTree.wellFormed_initial Rfc5280.rooted_initial (Finset.singleton_ne_empty _)
  explicitPolicy := rfl
  policyMapping := rfl
  inhibitAnyPolicy := rfl

theorem assert (h : Agrees d s r) (statement : PolicyStatement) (isTarget : Bool)
    (policies : Option (List String)) :
    Entered (d + 1) (s.assert statement isTarget policies)
      (r.assert d statement isTarget policies) := by
  cases policies with
  | none =>
      refine ⟨⟨.gone, h.explicitPolicy, h.policyMapping, h.inhibitAnyPolicy⟩, fun v hv => ?_⟩
      exact absurd hv (Finset.notMem_empty v)
  | some policies =>
      have hallowed : s.anyAllowed statement isTarget
          = (decide (0 < r.inhibitAnyPolicy) || (!isTarget && statement.selfIssued)) := by
        rw [PolicyState.anyAllowed, h.inhibitAnyPolicy]
      have hgrown := h.tree.rooted.grow policies.toFinset (s.anyAllowed statement isTarget)
      refine ⟨⟨?_, h.explicitPolicy, h.policyMapping, h.inhibitAnyPolicy⟩, fun v hv => ?_⟩
      · rw [Rfc5280.State.assert, ← hallowed]
        refine h.tree.bind (f := fun tree => (tree.addLevel policies _).prune)
          (g := fun t => Rfc5280.prune (Rfc5280.grow t d policies.toFinset _) (d + 1)) ?_ ?_
          hgrown.prune
        · rw [Rfc5280.grow_empty, Rfc5280.prune_empty]
        · intro tree hnodes hwell
          have ht : Rooted tree.nodes d := hnodes ▸ h.tree.rooted
          obtain ⟨hwell', hnodes'⟩ :=
            PolicyTree.nodes_addLevel hwell ht policies (s.anyAllowed statement isTarget)
          have hrooted := hgrown
          rw [← hnodes, ← hnodes'] at hrooted
          rw [← hnodes']
          exact PolicyTree.nodes_prune hwell' hrooted
      · rw [Rfc5280.State.assert, ← hallowed] at hv ⊢
        exact hgrown.alive_prune hv

theorem lacksPolicy_iff (h : Agrees d s r) :
    s.lacksPolicy = true ↔ ¬ (0 < r.explicitPolicy ∨ r.tree ≠ ∅) := by
  rw [PolicyState.lacksPolicy, Bool.and_eq_true, decide_eq_true_eq, h.tree.isNone_iff,
    h.explicitPolicy, not_or, not_not, Nat.not_lt, Nat.le_zero]

/-- The certificate at a position is entered on both sides or on none. -/
theorem enter (h : Agrees d s r) (statement : PolicyStatement) (position : Nat) (isTarget : Bool) :
    Both (Entered (d + 1)) (s.enter statement position isTarget) (r.enter d statement isTarget) := by
  unfold PolicyState.enter Rfc5280.State.enter
  cases statement.policies with
  | error fault => exact .failed fault
  | ok policies =>
      have hentered := h.assert statement isTarget policies
      change Both _ (if (s.assert statement isTarget policies).lacksPolicy = true then _ else _)
        (if _ then _ else _)
      by_cases hlacks : (s.assert statement isTarget policies).lacksPolicy = true
      · rw [if_pos hlacks, if_neg (hentered.agrees.lacksPolicy_iff.mp hlacks)]
        exact .failed _
      · rw [if_neg hlacks, if_pos (not_not.mp (mt hentered.agrees.lacksPolicy_iff.mpr hlacks))]
        exact .passed hentered

end Agrees

theorem limit_eq_bounded (counter : Nat) (bound : Option Nat) :
    PolicyState.limit counter bound = Rfc5280.bounded counter bound := by
  cases bound with
  | none => rfl
  | some bound =>
      rw [PolicyState.limit, Rfc5280.bounded]
      split <;> omega

/-- Counting a certificate is section 6.1.4 (h), (i) and (j). -/
theorem Agrees.count {d : Nat} {s : PolicyState} {r : Rfc5280.State} (h : Agrees d s r)
    (statement : PolicyStatement) :
    Agrees d (s.count statement) ((r.count statement.selfIssued).constrain statement) := by
  have hstep : ∀ counter : Nat, (if counter ≠ 0 then counter - 1 else 0) = counter - 1 := by
    intro counter
    split <;> omega
  unfold PolicyState.count Rfc5280.State.constrain Rfc5280.State.count
  simp only [limit_eq_bounded, hstep, h.explicitPolicy, h.policyMapping, h.inhibitAnyPolicy]
  cases statement.selfIssued with
  | true => exact ⟨h.tree, rfl, rfl, rfl⟩
  | false => exact ⟨h.tree, rfl, rfl, rfl⟩

/-- The mappings of a certificate name policies only. -/
def PolicyStatement.MapsNamed (statement : PolicyStatement) : Prop :=
  ∀ mappings, statement.mappings = .ok mappings → ∀ mapping ∈ mappings, Proper mapping

namespace Entered

variable {d : Nat} {s : PolicyState} {r : Rfc5280.State}

/-- Applying mappings is section 6.1.4 (b). -/
theorem map (h : Entered (d + 1) s r) {mappings : PolicyMappings}
    (hproper : ∀ mapping ∈ mappings, Proper mapping) :
    Agrees (d + 1) (s.map mappings)
      { r with tree := Rfc5280.mapAll r.tree d (decide (0 < r.policyMapping)) mappings } := by
  unfold PolicyState.map
  cases mappings with
  | nil => exact h.agrees
  | cons mapping rest =>
      refine ⟨?_, h.agrees.explicitPolicy, h.agrees.policyMapping, h.agrees.inhibitAnyPolicy⟩
      change Reads (d + 1) (s.tree.bind fun tree => PolicyState.kept
        (tree.applyMappings (mapping :: rest) (decide (0 < s.policyMapping)))) _
      rw [h.agrees.policyMapping]
      refine h.agrees.tree.bind (g := fun t => Rfc5280.mapAll t d _ (mapping :: rest))
        (Rfc5280.mapAll_empty d _ _) ?_ (h.agrees.tree.rooted.mapAll _ hproper)
      intro tree hnodes hwell
      have ht : Rooted tree.nodes (d + 1) := hnodes ▸ h.agrees.tree.rooted
      have halive : ∀ v ∈ tree.nodes, Alive tree.nodes (d + 1) v := hnodes ▸ h.alive
      exact PolicyTree.nodes_applyMappings hwell ht halive hproper _

/-- A certificate is left on both sides or on none. -/
theorem leave (h : Entered (d + 1) s r) {statement : PolicyStatement}
    (hnamed : statement.MapsNamed) :
    Both (Agrees (d + 1)) (s.leave statement) (r.leave d statement) := by
  unfold PolicyState.leave Rfc5280.State.leave
  cases hmappings : statement.mappings with
  | error fault => exact .failed fault
  | ok mappings => exact .passed ((h.map (hnamed mappings hmappings)).count statement)

end Entered

/-- The states after a path agree, at the depth of its length. -/
theorem Agrees.run : ∀ {path : List PolicyStatement} {d position : Nat} {s : PolicyState}
    {r : Rfc5280.State}, (∀ statement ∈ path, statement.MapsNamed) → Agrees d s r →
      Both (Agrees (d + path.length)) (s.run position path) (r.run d path)
  | [], d, position, s, r, hnamed, h => .passed h
  | [target], d, position, s, r, hnamed, h =>
      (h.enter target position true).mono fun _ _ hentered => hentered.agrees
  | statement :: next :: rest, d, position, s, r, hnamed, h => by
      obtain ⟨hfirst, hrest⟩ := List.forall_mem_cons.mp hnamed
      have hlength : d + (statement :: next :: rest).length = d + 1 + (next :: rest).length := by
        rw [List.length_cons, Nat.add_assoc, Nat.add_comm 1]
      rw [hlength]
      refine (h.enter statement position false).bind fun s r hentered => ?_
      refine (hentered.leave hfirst).bind fun s r hleft => ?_
      exact hleft.run hrest

/-- The final state is acceptable on both sides or on none. -/
theorem Agrees.isAcceptable_iff {d : Nat} {s : PolicyState} {r : Rfc5280.State}
    (h : Agrees (d + 1) s r) (acceptable : TextSet) (target : Option PolicyStatement) :
    s.isAcceptable acceptable target = true ↔
      0 < r.finalExplicit target ∨ Rfc5280.intersect r.tree d acceptable ≠ ∅ := by
  have hreads : Reads (d + 1) (s.tree.bind fun tree => PolicyState.kept (tree.intersect acceptable))
      (Rfc5280.intersect r.tree d acceptable) := by
    refine h.tree.bind (g := fun t => Rfc5280.intersect t d acceptable)
      (Rfc5280.intersect_empty d acceptable) ?_ (h.tree.rooted.intersect acceptable)
    intro tree hnodes hwell
    have ht : Rooted tree.nodes (d + 1) := hnodes ▸ h.tree.rooted
    exact PolicyTree.nodes_intersect hwell ht acceptable
  have hleft : (s.tree.bind fun tree => PolicyState.kept (tree.intersect acceptable)).isSome = true
      ↔ Rfc5280.intersect r.tree d acceptable ≠ ∅ := by
    rw [← not_iff_not, not_not, ← hreads.isNone_iff, Bool.not_eq_true, Option.isSome_eq_false_iff]
  have hexplicit : 0 < r.finalExplicit target ↔
      ¬ (s.explicitPolicy - 1 = 0 ∨ target.any (·.requireExplicit = some 0) = true) := by
    unfold Rfc5280.State.finalExplicit
    rw [h.explicitPolicy, not_or]
    by_cases hzero : target.any (·.requireExplicit = some 0) = true
    · rw [if_pos hzero]
      exact ⟨fun hless => absurd hless (Nat.lt_irrefl 0), fun hnot => absurd hzero hnot.2⟩
    · rw [if_neg hzero, and_iff_left hzero]
      split <;> omega
  unfold PolicyState.isAcceptable
  rw [Bool.or_eq_true, hleft, hexplicit, Bool.not_eq_true', decide_eq_false_iff_not]

/-- Where the mappings name policies only, the processing succeeds just
when the reference does. -/
theorem processPolicies_iff (statement : PolicyStatement) (rest : List PolicyStatement)
    (hnamed : ∀ s ∈ statement :: rest, s.MapsNamed) (parameters : PolicyParameters) :
    processPolicies (statement :: rest) parameters = .ok ()
      ↔ Rfc5280.succeeds (statement :: rest) parameters = true := by
  have hrun : Both (Agrees (0 + (statement :: rest).length))
      ((PolicyState.start parameters (statement :: rest).length).run 1 (statement :: rest))
      ((Rfc5280.start parameters (statement :: rest).length).run 0 (statement :: rest)) :=
    (Agrees.start parameters _).run hnamed
  unfold processPolicies Rfc5280.succeeds
  generalize (PolicyState.start parameters _).run 1 (statement :: rest) = x at hrun ⊢
  generalize (Rfc5280.start parameters _).run 0 (statement :: rest) = y at hrun ⊢
  rw [List.length_cons, Nat.zero_add] at hrun
  cases hrun with
  | failed fault =>
      refine iff_of_false (fun hok => ?_) Bool.false_ne_true
      cases hok
  | @passed s r h =>
      have hacceptable := h.isAcceptable_iff parameters.initialPolicies (statement :: rest).getLast?
      change (if s.isAcceptable _ _ = true then _ else _) = _ ↔ (decide _ || decide _) = true
      rw [List.length_cons, Nat.add_sub_cancel, Bool.or_eq_true, decide_eq_true_eq,
        decide_eq_true_eq, ← hacceptable]
      split
      · next haccepted => exact iff_of_true rfl haccepted
      · next hrejected =>
        refine iff_of_false (fun hok => ?_) hrejected
        cases hok

end TrustPath
