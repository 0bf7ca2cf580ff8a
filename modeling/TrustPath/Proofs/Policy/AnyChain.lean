import TrustPath.Proofs.Policy.AnyLevels
import TrustPath.Proofs.Policy.Counters
import TrustPath.Proofs.Policy.Loosening

/-!
# The chain of nodes for every policy

Mapping and intersection look for the node for `anyPolicy` in the deepest
level and take the first they find. Whenever a path has been processed so
far and the tree is there, that node is the only one, and those of the
levels above are its ancestors (`OneAnyChain`); so what is put beside it
hangs below a node for `anyPolicy` too.

A certification path has a certificate, and the deepest level is below
the root when mappings are applied and when the end of the path is
reached. The invariant of a run says so (`Grown`).
-/

namespace TrustPath

open PolicyTree
open Rfc5280 (Proper)

namespace PolicyTree

variable {tree : PolicyTree} {nodes : PolicyLevel} {node : PolicyNode} {d : Nat}

/-- There is one node for `anyPolicy` at the root, and in a level below at
most one, below the one of the level above; no other node expects
`anyPolicy`. -/
structure OneAnyChain (tree : PolicyTree) : Prop where
  root : ∃ node, tree.level 0 = [node] ∧ node.parent = none ∧ node.isAny = true
  single : ∀ k, (tree.level k).countP (·.isAny) ≤ 1
  below : ∀ k, ∀ node ∈ tree.level (k + 1), node.isAny = true → tree.isUnderAny (k + 1) node = true
  expects : ∀ k, ∀ node ∈ tree.level k, anyPolicy ∈ node.expected → node.isAny = true

/-- What is found for `anyPolicy` among nodes of the deepest level is all
there is, and hangs below a node for `anyPolicy`. -/
def FindsOnly (tree : PolicyTree) (nodes : PolicyLevel) : Prop :=
  ∀ any, nodes.find? (·.isAny) = some any →
    nodes.filter (·.isAny) = [any] ∧ tree.isUnderAny tree.depth any = true

/-- The nodes after a step stood in the deepest level before it or hang
below a node for `anyPolicy`. -/
def AddsUnderAny (tree : PolicyTree) (before after : PolicyLevel) : Prop :=
  ∀ node ∈ after, (∃ old ∈ before, old.policy = node.policy ∧ old.parent = node.parent)
    ∨ tree.isUnderAny tree.depth node = true

/-- Every mapping in turn finds the only node there is. -/
def MapsOnChain (tree : PolicyTree) (mappings : PolicyMappings) : Prop :=
  ∀ done mapping rest, mappings = done ++ mapping :: rest →
    FindsOnly tree (done.foldl mapLevel tree.deepest)
      ∧ AddsUnderAny tree (done.foldl mapLevel tree.deepest)
          (mapLevel (done.foldl mapLevel tree.deepest) mapping)

/-- The expansion after the levels are intersected finds the only node
there is. -/
def ExpandsOnChain (tree : PolicyTree) (acceptable : TextSet) : Prop :=
  let (passed, found) := intersectLevels acceptable tree
  FindsOnly passed passed.deepest
    ∧ AddsUnderAny passed passed.deepest (expandAny acceptable found passed.deepest)

theorem isUnderAny_succ : tree.isUnderAny (d + 1) node = true ↔
    ∃ p u, node.parent = some p ∧ (tree.level d)[p]? = some u ∧ u.isAny = true := by
  unfold isUnderAny
  cases hparent : node.parent with
  | none => simp
  | some p => simp [Option.any_eq_true]

theorem Chained.oneAnyChain (h : Chained tree) (hsome : tree.isEmpty = false) :
    OneAnyChain tree where
  root := by
    have hall : (tree.level 0).countP (·.isAny) = (tree.level 0).length :=
      List.countP_eq_length.mpr fun node hnode => (h.top node hnode).2
    have hne : tree.level 0 ≠ [] := fun hnil =>
      Bool.eq_false_iff.mp hsome (isEmpty_iff_level.mpr hnil)
    obtain ⟨node, hnode⟩ := List.length_eq_one_iff.mp
      (Nat.le_antisymm (hall ▸ h.topSingle) (List.length_pos_iff.mpr hne))
    have hin : node ∈ tree.level 0 := by rw [hnode]; exact List.mem_singleton_self node
    exact ⟨node, hnode, h.top node hin⟩
  single := h.single
  below k node hnode hany := isUnderAny_succ.mpr ((h.continues k).below node hnode hany)
  expects := h.expects

section Deepest

variable (hd : tree.depth = d + 1) (h : Continues (tree.level d) nodes)
include hd h

theorem Continues.findsOnly : FindsOnly tree nodes := by
  intro any hfind
  refine ⟨h.filter_isAny hfind, ?_⟩
  rw [hd]
  exact isUnderAny_succ.mpr
    (h.below any (List.mem_of_find?_eq_some hfind) (List.find?_some hfind))

/-- What is put beside the node for `anyPolicy` hangs where it hangs. -/
theorem Continues.addsUnderAny {new after : PolicyLevel} {any : PolicyNode}
    (hfind : nodes.find? (·.isAny) = some any) (hnew : ∀ node ∈ new, node.parent = any.parent)
    (hafter : ∀ node ∈ after, node ∈ nodes ∨ node ∈ new) : AddsUnderAny tree nodes after := by
  intro node hnode
  refine (hafter node hnode).imp (fun hold => ⟨node, hold, rfl, rfl⟩) fun hin => ?_
  have hany := (h.findsOnly hd any hfind).2
  rw [hd] at hany ⊢
  rw [isUnderAny_succ] at hany ⊢
  rwa [hnew node hin]

theorem Continues.addsUnderAny_mapLevel (mapping : String × TextSet) :
    AddsUnderAny tree nodes (PolicyTree.mapLevel nodes mapping) := by
  unfold PolicyTree.mapLevel
  split
  · intro node hnode
    obtain ⟨old, hold, rfl⟩ := List.mem_map.mp hnode
    exact Or.inl ⟨old, hold, by split <;> rfl, by split <;> rfl⟩
  · split
    · next any hfind =>
      refine h.addsUnderAny hd hfind (fun node hnode => ?_) (fun node => List.mem_append.mp)
      rw [List.mem_singleton.mp hnode]
    · exact fun node hnode => Or.inl ⟨node, hnode, rfl, rfl⟩

theorem Continues.addsUnderAny_expandAny (acceptable : TextSet) (found : List String) :
    AddsUnderAny tree nodes (PolicyTree.expandAny acceptable found nodes) := by
  unfold PolicyTree.expandAny
  split
  · exact fun node hnode => Or.inl ⟨node, hnode, rfl, rfl⟩
  · next any hfind =>
    refine h.addsUnderAny hd hfind (fun node hnode => ?_)
      (fun node hnode => List.mem_append.mp (List.mem_filter.mp hnode).1)
    obtain ⟨policy, -, rfl⟩ := List.mem_map.mp hnode
    rfl

end Deepest

/-- A tree that is there and has a level below the root. -/
structure Grown (tree : PolicyTree) : Prop where
  chained : Chained tree
  nonempty : tree.isEmpty = false
  deep : ∃ d, tree.depth = d + 1

namespace Grown

theorem mapsOnChain (h : Grown tree) {mappings : PolicyMappings}
    (hproper : ∀ mapping ∈ mappings, Proper mapping) : MapsOnChain tree mappings := by
  rintro done mapping rest rfl
  obtain ⟨d, hd⟩ := h.deep
  have hdone : Continues (tree.level d) (done.foldl mapLevel tree.deepest) :=
    (h.chained.continues_deepest hd).mapLevels fun m hm => hproper m (List.mem_append_left _ hm)
  exact ⟨hdone.findsOnly hd, hdone.addsUnderAny_mapLevel hd mapping⟩

theorem expandsOnChain (h : Grown tree) (acceptable : TextSet) :
    ExpandsOnChain tree acceptable := by
  obtain ⟨d, hd⟩ := h.deep
  obtain ⟨hpassed, hdepth⟩ := h.chained.intersectLevels acceptable
  have hd' := hdepth.trans hd
  have hdeepest := hpassed.continues_deepest hd'
  exact ⟨hdeepest.findsOnly hd', hdeepest.addsUnderAny_expandAny hd' _ _⟩

end Grown

end PolicyTree

/-! ## The processing -/

namespace PolicyState

variable {s s' : PolicyState} {c : PolicyStatement} {tree : PolicyTree} {position : Nat}
  {isTarget : Bool}

theorem kept_eq_some {t : PolicyTree} : kept t = some tree ↔ t = tree ∧ t.isEmpty = false := by
  unfold kept
  cases t.isEmpty <;> simp

theorem enter_eq_assert (h : s.enter c position isTarget = .ok s') :
    ∃ policies, c.policies = .ok policies ∧ s.assert c isTarget policies = s' := by
  obtain ⟨-, policies, hpolicies⟩ := enter_eq_ok h
  rw [enter_eq hpolicies] at h
  split at h
  · cases h
  · exact ⟨policies, hpolicies, Except.ok.inj h⟩

theorem grown_assert (h : ∀ t, s.tree = some t → Chained t) {policies : Option (List String)}
    (htree : (s.assert c isTarget policies).tree = some tree) : Grown tree := by
  obtain ⟨ps, -, hgrow⟩ := Option.bind_eq_some_iff.mp htree
  obtain ⟨t, ht, hkept⟩ := Option.bind_eq_some_iff.mp hgrow
  obtain ⟨rfl, hsome⟩ := kept_eq_some.mp hkept
  have hlevel := (h t ht).addLevel ps (s.anyAllowed c isTarget)
  refine ⟨hlevel.prune, hsome, t.depth, ?_⟩
  rw [hlevel.depth_prune, depth_addLevel (h t ht).someLevel]

theorem grown_map (h : ∀ t, s.tree = some t → Grown t) {mappings : PolicyMappings}
    (hproper : ∀ mapping ∈ mappings, Proper mapping) (htree : (s.map mappings).tree = some tree) :
    Grown tree := by
  unfold map at htree
  split at htree
  · exact h tree htree
  · obtain ⟨t, ht, hkept⟩ := Option.bind_eq_some_iff.mp htree
    obtain ⟨rfl, hsome⟩ := kept_eq_some.mp hkept
    obtain ⟨d, hd⟩ := (h t ht).deep
    obtain ⟨hmapped, hdepth⟩ := (h t ht).chained.applyMappings hd hproper _
    exact ⟨hmapped, hsome, d, hdepth.trans hd⟩

/-- What certificates above the target leave of the tree. -/
theorem oneAnyChain_of_pass : ∀ {upper : List PolicyStatement} {s s' : PolicyState}
    {position : Nat},
    (∀ t, s.tree = some t → Chained t ∧ t.isEmpty = false) → (∀ c ∈ upper, c.MapsNamed) →
      s.pass position upper = .ok s' → ∀ t, s'.tree = some t → Chained t ∧ t.isEmpty = false
  | [], s, s', position, h, _, hpass => by
      obtain rfl := Except.ok.inj hpass
      exact h
  | c :: upper, s, s', position, h, hnamed, hpass => by
      simp only [pass, leave, bind_eq_ok, pure_eq_ok] at hpass
      obtain ⟨entered, henter, left, ⟨mappings, hmappings, rfl⟩, hpass⟩ := hpass
      obtain ⟨policies, -, rfl⟩ := enter_eq_assert henter
      refine oneAnyChain_of_pass (fun t ht => ?_)
        (fun c' hc => hnamed c' (List.mem_cons_of_mem _ hc))
        hpass
      have hgrown := grown_map (fun t ht => grown_assert (fun t' ht' => (h t' ht').1) ht)
        (hnamed c List.mem_cons_self mappings hmappings) ht
      exact ⟨hgrown.chained, hgrown.nonempty⟩

end PolicyState

/-- At every step of the processing of a path the nodes for `anyPolicy`
are one chain from the root downwards: in front of a certificate, which
is after the mappings of the one above it, after its policies, whichever
they are, after its mappings, and after the intersection at the end. So
what mapping and intersection find is the only node there is. -/
theorem one_any_chain {upper lower : List Certificate} {c : Certificate}
    {parameters : PolicyParameters} {s : PolicyState}
    (hpass : (PolicyState.start parameters (upper ++ c :: lower).length).pass 1 (statementsOf upper)
      = .ok s) (policies : Option (List String)) :
    let entered := s.assert (.ofCertificate c) lower.isEmpty policies
    (∀ tree, s.tree = some tree → OneAnyChain tree)
      ∧ ∀ grown, entered.tree = some grown →
        OneAnyChain grown
          ∧ (∀ mappings, (PolicyStatement.ofCertificate c).mappings = .ok mappings →
              MapsOnChain grown mappings
                ∧ ∀ mapped, (entered.map mappings).tree = some mapped → OneAnyChain mapped)
          ∧ ExpandsOnChain grown parameters.initialPolicies
          ∧ ∀ cut, PolicyState.kept (grown.intersect parameters.initialPolicies) = some cut →
              OneAnyChain cut := by
  intro entered
  have hstart : ∀ t, (PolicyState.start parameters (upper ++ c :: lower).length).tree = some t →
      Chained t ∧ t.isEmpty = false := by
    rintro t ht
    obtain rfl := Option.some.inj ht
    exact ⟨chained_initial, rfl⟩
  have hreached := PolicyState.oneAnyChain_of_pass hstart (fun statement hin => by
    obtain ⟨certificate, -, rfl⟩ := List.mem_map.mp hin
    exact PolicyStatement.mapsNamed_ofCertificate certificate) hpass
  have hentered : ∀ t, entered.tree = some t → Grown t := fun t =>
    PolicyState.grown_assert fun t ht => (hreached t ht).1
  refine ⟨fun tree htree => (hreached tree htree).1.oneAnyChain (hreached tree htree).2,
    fun grown hgrown => ?_⟩
  have h := hentered grown hgrown
  obtain ⟨d, hd⟩ := h.deep
  refine ⟨h.chained.oneAnyChain h.nonempty, fun mappings hmappings => ?_, h.expandsOnChain _,
    fun cut hcut => ?_⟩
  · have hproper := PolicyStatement.mapsNamed_ofCertificate c mappings hmappings
    refine ⟨h.mapsOnChain hproper, fun mapped hmapped => ?_⟩
    have hgrown' := PolicyState.grown_map hentered hproper hmapped
    exact hgrown'.chained.oneAnyChain hgrown'.nonempty
  · obtain ⟨rfl, hsome⟩ := PolicyState.kept_eq_some.mp hcut
    exact (h.chained.intersect hd _).oneAnyChain hsome

/-- An authority that repeats `anyPolicy` and a policy and maps one that it
does not name. -/
def sampleRepeating : Certificate :=
  .bare "Lower" "Root"
    [⟨Extension.certificatePoliciesOid, false, .certificatePolicies
        [⟨[85, 29, 32, 0]⟩, ⟨[42, 3]⟩, ⟨[42, 3]⟩, ⟨[85, 29, 32, 0]⟩]⟩,
      ⟨⟨[85, 29, 33]⟩, false, .policyMappings [(⟨[42, 4]⟩, ⟨[42, 5]⟩)]⟩]

theorem one_any_chain_repeated :
    let c := PolicyStatement.ofCertificate sampleRepeating
    let policies := [anyPolicy, "1.2.3", "1.2.3", anyPolicy]
    let mappings := [("1.2.4", TextSet.ofList ["1.2.5"])]
    let parameters := PolicyParameters.ofInitial (.ofList ["1.2.4", "1.2.6"]) false false
    let entered := (PolicyState.start parameters 2).assert c false (some policies)
    c.policies = .ok (some policies) ∧ c.mappings = .ok mappings
      ∧ ∃ grown, entered.tree = some grown ∧ grown.deepest.length = 3 ∧ OneAnyChain grown
        ∧ MapsOnChain grown mappings ∧ ExpandsOnChain grown parameters.initialPolicies
        ∧ ∃ mapped, (entered.map mappings).tree = some mapped ∧ mapped.deepest.length = 4
          ∧ OneAnyChain mapped := by
  intro c policies mappings parameters entered
  have hpolicies : c.policies = .ok (some policies) := by decide +kernel
  have hmappings : c.mappings = .ok mappings := by decide +kernel
  have hthree : entered.tree.any (·.deepest.length = 3) = true := by decide +kernel
  have hfour : (entered.map mappings).tree.any (·.deepest.length = 4) = true := by decide +kernel
  obtain ⟨grown, hgrown, hthree⟩ := (Option.any_eq_true _ _).mp hthree
  obtain ⟨mapped, hmapped, hfour⟩ := (Option.any_eq_true _ _).mp hfour
  have hstart :
    (PolicyState.start parameters 2).pass 1 (statementsOf []) = .ok (.start parameters 2) :=
    rfl
  obtain ⟨-, h⟩ := @one_any_chain [] [sampleAsserting "Target" "Lower" [⟨[42, 5]⟩]] sampleRepeating
    parameters _ hstart (some policies)
  obtain ⟨hchain, hmaps, hexpands, -⟩ := h grown hgrown
  obtain ⟨hmapsOn, hafter⟩ := hmaps mappings hmappings
  exact ⟨hpolicies, hmappings, grown, hgrown, of_decide_eq_true hthree, hchain, hmapsOn, hexpands,
    mapped, hmapped, of_decide_eq_true hfour, hafter mapped hmapped⟩

end TrustPath
