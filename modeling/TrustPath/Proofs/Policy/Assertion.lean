import TrustPath.Proofs.Policy.Loosening

/-!
# Policies asserted along a path

Two ways in which the outcome depends on what certificates assert, word
for word. A policy that is asserted all along a path and is acceptable
keeps the tree alive (`processPolicies_of_asserted`): below the root
there is a branch with nothing but that policy. And where no policy that
is acceptable can be asserted, only the chain of nodes for `anyPolicy`
outlives the intersection, so every certificate of an accepted path
asserts `anyPolicy` (`anyPolicy_asserted`).
-/

namespace TrustPath

/-- The policies of a certificate can be read and are among others. -/
def PolicyStatement.Asserts (statement : PolicyStatement) (policy : String) : Prop :=
  ∃ policies, statement.policies = .ok (some policies) ∧ policy ∈ policies

/-- The mappings of a certificate can be read and leave a policy alone. -/
def PolicyStatement.Spares (statement : PolicyStatement) (policy : String) : Prop :=
  ∃ mappings, statement.mappings = .ok mappings ∧ ∀ mapping ∈ mappings, mapping.1 ≠ policy

namespace Rfc5280

variable {t : Tree} {d : Nat} {p : String} {acceptable : TextSet}

/-! ## A policy that is asserted all along -/

/-- There is nothing but the root yet, or a branch with one policy down
to a depth. -/
def Carries (t : Tree) (p : String) : Nat → Prop
  | 0 => t = initial
  | d + 1 => ∃ v ∈ t, v.place = List.replicate (d + 1) p ++ [anyPolicy] ∧ p ∈ v.expected

theorem depth_of_place {v : Node} {n : Nat}
    (h : v.place = List.replicate (n + 1) p ++ [anyPolicy]) : v.depth = n + 1 := by
  have hlength := congrArg List.length h
  rw [List.length_append, List.length_replicate] at hlength
  exact Nat.succ.inj hlength

/-- A deepest node is left by pruning. -/
theorem mem_prune_deepest (h : Rooted t d) {v : Node} (hv : v ∈ t) (hdepth : v.depth = d) :
    v ∈ prune t d :=
  (mem_prune h).mpr ⟨hv, v, hv, hdepth, List.suffix_refl _⟩

theorem Carries.grow (hc : Carries t p d) (h : Rooted t d) (hne : p ≠ anyPolicy)
    {policies : Finset String} (hin : p ∈ policies) (anyAllowed : Bool) :
    Carries (prune (grow t d policies anyAllowed) (d + 1)) p (d + 1) := by
  have hbranch : ∀ v ∈ t, v.depth = d →
      (p ∈ v.expected ∨ ¬ Expects t d p ∧ v.policy = anyPolicy) →
        v.leaf p ∈ prune (Rfc5280.grow t d policies anyAllowed) (d + 1) := by
    intro v hv hdepth hgets
    refine mem_prune_deepest (h.grow _ _) ((mem_grow h).mpr (Or.inr ?_)) (congrArg (· + 1) hdepth)
    exact ⟨v, mem_level.mpr ⟨hv, hdepth⟩, p, rfl, Or.inl ⟨hin, hne, hgets⟩⟩
  cases d with
  | zero =>
      obtain rfl : t = initial := hc
      have hroot : ¬ Expects initial 0 p := by
        rintro ⟨u, hu, hexp⟩
        rw [Finset.mem_singleton.mp (mem_level.mp hu).1] at hexp
        exact hne (TextSet.mem_singleton.mp hexp)
      exact ⟨_, hbranch _ (Finset.mem_singleton_self _) rfl (Or.inr ⟨hroot, rfl⟩), rfl,
        Node.mem_expected_leaf.mpr rfl⟩
  | succ d =>
      obtain ⟨v, hv, hplace, hexp⟩ := hc
      refine ⟨v.leaf p, hbranch v hv (depth_of_place hplace) (Or.inl hexp), ?_,
        Node.mem_expected_leaf.mpr rfl⟩
      show p :: v.place = _
      rw [hplace, List.replicate_succ (n := d + 1), List.cons_append]

theorem policy_of_place {v : Node} {n : Nat}
    (h : v.place = List.replicate (n + 1) p ++ [anyPolicy]) : v.policy = p :=
  (List.cons.inj (h.trans (by rw [List.replicate_succ, List.cons_append]))).1

theorem Carries.mapOne (hc : Carries t p (d + 1)) (h : Rooted t (d + 1)) (allowed : Bool)
    {mapping : String × TextSet} (hspared : mapping.1 ≠ p) :
    Carries (mapOne d allowed t mapping) p (d + 1) := by
  obtain ⟨v, hv, hplace, hexp⟩ := hc
  have hother : v.policy ≠ mapping.1 := fun heq => hspared (heq ▸ policy_of_place hplace)
  refine ⟨v, ?_, hplace, hexp⟩
  unfold Rfc5280.mapOne
  split
  · split
    · exact Finset.mem_image.mpr ⟨v, hv, if_neg fun hdeep => hother hdeep.2⟩
    · split
      · exact Finset.mem_union_left _ hv
      · exact hv
  · refine mem_prune_deepest (h.filter_deepest fun v => v.policy = mapping.1) ?_
      (depth_of_place hplace)
    exact Finset.mem_filter.mpr ⟨hv, fun hdeep => hother hdeep.2⟩

theorem Carries.mapAll (hc : Carries t p (d + 1)) (h : Rooted t (d + 1)) (allowed : Bool) :
    ∀ {mappings : PolicyMappings}, (∀ mapping ∈ mappings, Proper mapping) →
      (∀ mapping ∈ mappings, mapping.1 ≠ p) → Carries (mapAll t d allowed mappings) p (d + 1) := by
  intro mappings hproper hspared
  unfold Rfc5280.mapAll
  induction mappings generalizing t with
  | nil => exact hc
  | cons mapping rest ih =>
      obtain ⟨hfirst, hproper⟩ := List.forall_mem_cons.mp hproper
      obtain ⟨hspare, hspared⟩ := List.forall_mem_cons.mp hspared
      exact ih (hc.mapOne h allowed hspare) (h.mapOne allowed hfirst) hproper hspared

/-- The branch outlives the intersection if its policy is acceptable. -/
theorem Carries.intersect (hc : Carries t p (d + 1)) (h : Rooted t (d + 1)) (hne : p ≠ anyPolicy)
    (hin : p ∈ acceptable) : intersect t d acceptable ≠ ∅ := by
  obtain ⟨v, hv, hplace, -⟩ := hc
  by_cases hall : acceptable.toList = [] ∨ anyPolicy ∈ acceptable
  · rw [Rfc5280.intersect, if_pos hall]
    exact Finset.ne_empty_of_mem hv
  · obtain ⟨hsome, hnot⟩ := not_or.mp hall
    refine (intersect_ne_empty h hsome hnot).mpr (Or.inl ?_)
    have hpolicy := policy_of_place hplace
    refine ⟨v, hv, depth_of_place hplace, hpolicy ▸ hne, ?_⟩
    rintro s hs ⟨q, above, rfl, hout, hnamed⟩
    -- a policy on the branch is acceptable, and the root is not foreign
    have hq : q ∈ v.place := hs.subset List.mem_cons_self
    rw [hplace, List.mem_append, List.mem_singleton] at hq
    rcases hq with hq | hq
    · exact hout (List.eq_of_mem_replicate hq ▸ hin)
    · exact hnamed hq

/-! ## Certificates one after another -/

variable {r r' : State} {statement : PolicyStatement} {isTarget : Bool}

theorem State.enter_eq_some (h : r.enter d statement isTarget = some r') :
    ∃ policies, statement.policies = .ok policies
      ∧ r.assert d statement isTarget policies = r' := by
  unfold State.enter at h
  split at h
  · cases h
  · next policies hpolicies =>
    dsimp only at h
    split at h
    · exact ⟨policies, hpolicies, Option.some.inj h⟩
    · cases h

/-- A certificate is left with its mappings applied, and a policy that is
required stays required. -/
theorem State.leave_eq_some (h : r.leave d statement = some r') :
    ∃ mappings, statement.mappings = .ok mappings
      ∧ r'.tree = mapAll r.tree d (decide (0 < r.policyMapping)) mappings
      ∧ (r.explicitPolicy = 0 → r'.explicitPolicy = 0) := by
  unfold State.leave at h
  split at h
  · cases h
  · next mappings hmappings =>
    obtain rfl := Option.some.inj h
    have hbounded : ∀ bound, bounded 0 bound = 0 := by
      intro bound
      cases bound with
      | none => rfl
      | some b => exact (if_neg (Nat.not_lt_zero b) : (if b < 0 then b else 0) = 0)
    refine ⟨mappings, hmappings, ?_, fun hzero => ?_⟩
    · unfold State.constrain State.count
      cases statement.selfIssued <;> rfl
    · unfold State.constrain State.count
      cases statement.selfIssued <;> simp [hzero, hbounded]

/-- A certificate that asserts the policy is entered. -/
theorem Carries.enter (hc : Carries r.tree p d) (h : Rooted r.tree d) (hne : p ≠ anyPolicy)
    (hasserts : statement.Asserts p) (isTarget : Bool) :
    ∃ r', r.enter d statement isTarget = some r' ∧ Rooted r'.tree (d + 1)
      ∧ Carries r'.tree p (d + 1) := by
  obtain ⟨policies, hpolicies, hin⟩ := hasserts
  have hgrown := hc.grow h hne (List.mem_toFinset.mpr hin)
    (decide (0 < r.inhibitAnyPolicy) || (!isTarget && statement.selfIssued))
  refine ⟨r.assert d statement isTarget (some policies), ?_, (h.grow _ _).prune, hgrown⟩
  obtain ⟨v, hv, -⟩ := hgrown
  unfold State.enter
  rw [hpolicies]
  exact if_pos (Or.inr (Finset.ne_empty_of_mem hv))

theorem Carries.leave (hc : Carries r.tree p (d + 1)) (h : Rooted r.tree (d + 1))
    (hnamed : statement.MapsNamed) (hspares : statement.Spares p) :
    ∃ r', r.leave d statement = some r' ∧ Rooted r'.tree (d + 1) ∧ Carries r'.tree p (d + 1) := by
  obtain ⟨mappings, hmappings, hspared⟩ := hspares
  obtain ⟨r', hleave⟩ : ∃ r', r.leave d statement = some r' := by
    unfold State.leave
    rw [hmappings]
    exact ⟨_, rfl⟩
  obtain ⟨mappings', hmappings', htree, -⟩ := State.leave_eq_some hleave
  obtain rfl := Except.ok.inj (hmappings.symm.trans hmappings')
  have hproper := hnamed mappings hmappings
  refine ⟨r', hleave, ?_, ?_⟩
  · rw [htree]
    exact h.mapAll _ hproper
  · rw [htree]
    exact hc.mapAll h _ hproper hspared

theorem Carries.run (hne : p ≠ anyPolicy) : ∀ {path : List PolicyStatement} {d : Nat} {r : State},
    Carries r.tree p d → Rooted r.tree d → (∀ s ∈ path, s.MapsNamed) → (∀ s ∈ path, s.Asserts p) →
      (∀ s ∈ path.dropLast, s.Spares p) →
        ∃ r', r.run d path = some r' ∧ Rooted r'.tree (d + path.length)
          ∧ Carries r'.tree p (d + path.length)
  | [], d, r, hc, h, _, _, _ => ⟨r, rfl, h, hc⟩
  | [target], d, r, hc, h, _, hasserts, _ =>
      hc.enter h hne (hasserts target List.mem_cons_self) true
  | first :: next :: rest, d, r, hc, h, hnamed, hasserts, hspares => by
      obtain ⟨hname, hnamed⟩ := List.forall_mem_cons.mp hnamed
      obtain ⟨hassert, hasserts⟩ := List.forall_mem_cons.mp hasserts
      rw [List.dropLast_cons_cons] at hspares
      obtain ⟨hspare, hspares⟩ := List.forall_mem_cons.mp hspares
      obtain ⟨entered, henter, hrooted, hcarries⟩ := hc.enter h hne hassert false
      obtain ⟨left, hleave, hrooted, hcarries⟩ := hcarries.leave hrooted hname hspare
      obtain ⟨r', hrun, hlast⟩ := run hne hcarries hrooted hnamed hasserts hspares
      refine ⟨r', ?_, ?_⟩
      · rw [State.run_cons_cons, henter, Option.bind_some, hleave, Option.bind_some, hrun]
      · rw [List.length_cons, Nat.add_comm (next :: rest).length, ← Nat.add_assoc]
        exact hlast

/-! ## Policies of a kind -/

/-- Every place starts at `anyPolicy`, and the policies in a tree are that
one or of a kind. -/
structure Holds (P : String → Prop) (t : Tree) : Prop where
  root : ∀ v ∈ t, v.place.getLast? = some anyPolicy
  places : ∀ v ∈ t, ∀ q ∈ v.place, q = anyPolicy ∨ P q
  expected : ∀ v ∈ t, ∀ q ∈ v.expected, q = anyPolicy ∨ P q

namespace Holds

variable {P : String → Prop}

theorem start : Holds P initial where
  root v hv := by rw [Finset.mem_singleton.mp hv]; rfl
  places v hv q hq := by
    rw [Finset.mem_singleton.mp hv] at hq
    exact Or.inl (List.mem_singleton.mp hq)
  expected v hv q hq := by
    rw [Finset.mem_singleton.mp hv] at hq
    exact Or.inl (TextSet.mem_singleton.mp hq)

theorem subset {t' : Tree} (h : Holds P t) (hsub : t' ⊆ t) : Holds P t' :=
  ⟨fun v hv => h.root v (hsub hv), fun v hv => h.places v (hsub hv),
    fun v hv => h.expected v (hsub hv)⟩

/-- New nodes hang below old ones, with policies of the kind. -/
theorem of_children {t' : Tree} (h : Holds P t)
    (hnew : ∀ w ∈ t', (∃ v ∈ t, v.place = w.place ∧ ∀ q ∈ w.expected, q ∈ v.expected ∨ P q)
      ∨ ∃ v ∈ t, w.above = v.place ∧ (w.policy = anyPolicy ∨ P w.policy)
          ∧ ∀ q ∈ w.expected, q = anyPolicy ∨ P q) : Holds P t' where
  root w hw := by
    rcases hnew w hw with ⟨v, hv, hplace, -⟩ | ⟨v, hv, habove, -⟩
    · exact hplace ▸ h.root v hv
    · rw [Node.place, habove, Node.place, List.getLast?_cons_cons]
      exact h.root v hv
  places w hw q hq := by
    rcases hnew w hw with ⟨v, hv, hplace, -⟩ | ⟨v, hv, habove, hpolicy, -⟩
    · exact h.places v hv q (hplace ▸ hq)
    · rcases List.mem_cons.mp hq with rfl | hq
      · exact hpolicy
      · exact h.places v hv q (habove ▸ hq)
  expected w hw q hq := by
    rcases hnew w hw with ⟨v, hv, -, hexpected⟩ | ⟨v, -, -, -, hexpected⟩
    · exact (hexpected q hq).elim (h.expected v hv q) Or.inr
    · exact hexpected q hq

theorem grow (h : Holds P t) (ht : Rooted t d) {policies : Finset String}
    (hpolicies : ∀ q ∈ policies, P q) (anyAllowed : Bool) :
    Holds P (grow t d policies anyAllowed) := by
  refine h.of_children fun w hw => ?_
  rcases (mem_grow ht).mp hw with hw | ⟨v, hv, policy, rfl, hgets⟩
  · exact Or.inl ⟨w, hw, rfl, fun q hq => Or.inl hq⟩
  · have hv := (mem_level.mp hv).1
    have hpolicy : policy = anyPolicy ∨ P policy := by
      rcases hgets with ⟨hin, -, -⟩ | ⟨-, -, hexp⟩
      · exact Or.inr (hpolicies policy hin)
      · exact h.expected v hv policy hexp
    refine Or.inr ⟨v, hv, rfl, hpolicy, fun q hq => ?_⟩
    rw [Node.mem_expected_leaf.mp hq]
    exact hpolicy

theorem mapOne (h : Holds P t) (ht : Rooted t (d + 1)) (allowed : Bool)
    {mapping : String × TextSet} (hissuer : P mapping.1) (hsubjects : ∀ q ∈ mapping.2, P q) :
    Holds P (mapOne d allowed t mapping) := by
  have hsame : ∀ w ∈ t, ∃ v ∈ t, v.place = w.place ∧ ∀ q ∈ w.expected, q ∈ v.expected ∨ P q :=
    fun w hw => ⟨w, hw, rfl, fun q hq => Or.inl hq⟩
  unfold Rfc5280.mapOne
  split
  · refine h.of_children fun w hw => ?_
    split at hw
    · obtain ⟨v, hv, rfl⟩ := Finset.mem_image.mp hw
      split
      · exact Or.inl ⟨v, hv, rfl, fun q hq => Or.inr (hsubjects q hq)⟩
      · exact Or.inl (hsame v hv)
    · split at hw
      · rcases Finset.mem_union.mp hw with hw | hw
        · exact Or.inl (hsame w hw)
        · obtain ⟨u, hu, rfl⟩ := Finset.mem_image.mp hw
          exact Or.inr ⟨u, (mem_anyNodes.mp hu).1, rfl, Or.inr hissuer,
            fun q hq => Or.inr (hsubjects q hq)⟩
      · exact Or.inl (hsame w hw)
  · exact h.subset fun v hv =>
      (Finset.mem_filter.mp ((mem_prune (ht.filter_deepest _)).mp hv).1).1

theorem mapAll (h : Holds P t) (ht : Rooted t (d + 1)) (allowed : Bool) :
    ∀ {mappings : PolicyMappings}, (∀ mapping ∈ mappings, Proper mapping) →
      (∀ mapping ∈ mappings, P mapping.1 ∧ ∀ q ∈ mapping.2, P q) →
        Holds P (mapAll t d allowed mappings) := by
  intro mappings hproper hkind
  unfold Rfc5280.mapAll
  induction mappings generalizing t with
  | nil => exact h
  | cons mapping rest ih =>
      obtain ⟨hfirst, hproper⟩ := List.forall_mem_cons.mp hproper
      obtain ⟨⟨hissuer, hsubjects⟩, hkind⟩ := List.forall_mem_cons.mp hkind
      exact ih (h.mapOne ht allowed hissuer hsubjects) (ht.mapOne allowed hfirst) hproper hkind

end Holds

/-- In a list that starts with something else and ends with a value,
something else stands right before that value. -/
theorem exists_before {α : Type} {a : α} : ∀ {x : α} {as : List α}, x ≠ a →
    (x :: as).getLast? = some a → ∃ y rest, y ≠ a ∧ y :: a :: rest <:+ x :: as
  | x, [], hne, hlast => absurd (Option.some.inj hlast) hne
  | x, z :: rest, hne, hlast => by
      by_cases hz : z = a
      · exact ⟨x, rest, hne, hz ▸ List.suffix_refl _⟩
      · rw [List.getLast?_cons_cons] at hlast
        obtain ⟨y, above, hy, hsuffix⟩ := exists_before hz hlast
        exact ⟨y, above, hy, hsuffix.trans (List.suffix_cons ..)⟩

/-- Where no policy of the kind is acceptable, only the chain of nodes for
`anyPolicy` outlives the intersection. -/
theorem Holds.anyNodes_of_intersect {P : String → Prop} (h : Holds P t) (ht : Rooted t (d + 1))
    (hsome : acceptable.toList ≠ []) (hnot : anyPolicy ∉ acceptable)
    (hnone : ∀ q ∈ acceptable, ¬ P q) (hne : intersect t d acceptable ≠ ∅) :
    anyNodes t (d + 1) ≠ ∅ := by
  refine (((intersect_ne_empty ht hsome hnot).mp hne).resolve_left ?_).1
  rintro ⟨w, hw, -, hnamed, hclear⟩
  -- the topmost policy of a named node is foreign
  obtain ⟨q, above, hq, hsuffix⟩ := exists_before hnamed (h.root w hw)
  have hkind := (h.places w hw q (hsuffix.subset List.mem_cons_self)).resolve_left hq
  exact hclear _ hsuffix ⟨q, above, rfl, fun hin => hnone q hin hkind, hq⟩

/-! ## The chain of nodes for every policy -/

/-- What a certificate names, `anyPolicy` apart, is of a kind. -/
structure Kind (P : String → Prop) (statement : PolicyStatement) : Prop where
  policies : ∀ policies, statement.policies = .ok (some policies) → ∀ q ∈ policies, P q
  mappings : ∀ mappings, statement.mappings = .ok mappings →
    ∀ mapping ∈ mappings, P mapping.1 ∧ ∀ q ∈ mapping.2, P q

/-- Below the root a node for `anyPolicy` comes of one above it and of a
certificate that asserts `anyPolicy`. -/
theorem anyNodes_enter (h : Rooted r.tree d) (henter : r.enter d statement isTarget = some r')
    (hany : anyNodes r'.tree (d + 1) ≠ ∅) :
    statement.Asserts anyPolicy ∧ anyNodes r.tree d ≠ ∅ := by
  obtain ⟨policies, hpolicies, rfl⟩ := State.enter_eq_some henter
  obtain ⟨w, hw⟩ := Finset.nonempty_iff_ne_empty.mpr hany
  obtain ⟨hw, hdepth, hpolicy⟩ := mem_anyNodes.mp hw
  cases policies with
  | none => exact absurd hw (Finset.notMem_empty w)
  | some policies =>
      have hw := ((mem_prune (h.grow _ _)).mp hw).1
      rcases (mem_grow h).mp hw with hold | ⟨v, hv, policy, rfl, hgets⟩
      · have hshallow := h.shallow w hold
        omega
      · obtain rfl : policy = anyPolicy := hpolicy
        obtain ⟨hv, hvdepth⟩ := mem_level.mp hv
        rcases hgets with ⟨-, hne, -⟩ | ⟨-, hin, hexp⟩
        · exact absurd rfl hne
        · have hvany := mem_anyNodes.mpr ⟨hv, hvdepth, h.anyExpected v hv hexp⟩
          exact ⟨⟨policies, hpolicies, List.mem_toFinset.mp hin⟩, Finset.ne_empty_of_mem hvany⟩

theorem anyNodes_mapOne_subset (h : Rooted t (d + 1)) (allowed : Bool)
    {mapping : String × TextSet} (hproper : Proper mapping) (e : Nat) :
    anyNodes (mapOne d allowed t mapping) e ⊆ anyNodes t e := by
  intro w hw
  obtain ⟨hw, hdepth, hany⟩ := mem_anyNodes.mp hw
  refine mem_anyNodes.mpr ⟨?_, hdepth, hany⟩
  unfold mapOne at hw
  split at hw
  · split at hw
    · obtain ⟨v, hv, rfl⟩ := Finset.mem_image.mp hw
      split at hany
      · next hdeep => exact absurd (hdeep.2.symm.trans hany) hproper.1
      · next hdeep => rwa [if_neg hdeep]
    · split at hw
      · rcases Finset.mem_union.mp hw with hw | hw
        · exact hw
        · obtain ⟨u, -, rfl⟩ := Finset.mem_image.mp hw
          exact absurd hany hproper.1
      · exact hw
  · exact (Finset.mem_filter.mp ((mem_prune (h.filter_deepest _)).mp hw).1).1

theorem anyNodes_mapAll_subset (allowed : Bool) {mappings : PolicyMappings} (e : Nat) :
    ∀ {t : Tree}, Rooted t (d + 1) → (∀ mapping ∈ mappings, Proper mapping) →
      anyNodes (mapAll t d allowed mappings) e ⊆ anyNodes t e := by
  unfold mapAll
  induction mappings with
  | nil => exact fun _ _ => Finset.Subset.refl _
  | cons mapping rest ih =>
      intro t h hproper
      obtain ⟨hfirst, hproper⟩ := List.forall_mem_cons.mp hproper
      exact (ih (h.mapOne allowed hfirst) hproper).trans (anyNodes_mapOne_subset h allowed hfirst e)

/-- A state in which an explicit policy is required and every policy is of
a kind. -/
structure Demands (P : String → Prop) (r : State) (d : Nat) : Prop where
  holds : Holds P r.tree
  rooted : Rooted r.tree d
  explicitPolicy : r.explicitPolicy = 0

namespace Demands

variable {P : String → Prop}

theorem enter (h : Demands P r d) (hkind : Kind P statement)
    (henter : r.enter d statement isTarget = some r') : Demands P r' (d + 1) := by
  obtain ⟨policies, hpolicies, rfl⟩ := State.enter_eq_some henter
  cases policies with
  | none => exact ⟨⟨nofun, nofun, nofun⟩, (Reads.gone (d := d + 1)).rooted, h.explicitPolicy⟩
  | some policies =>
      have hgrown := h.holds.grow h.rooted
        (fun q hq => hkind.policies policies hpolicies q (List.mem_toFinset.mp hq))
        (decide (0 < r.inhibitAnyPolicy) || (!isTarget && statement.selfIssued))
      have hrooted := h.rooted.grow policies.toFinset
        (decide (0 < r.inhibitAnyPolicy) || (!isTarget && statement.selfIssued))
      exact ⟨hgrown.subset fun v hv => ((mem_prune hrooted).mp hv).1, hrooted.prune,
        h.explicitPolicy⟩

theorem leave (h : Demands P r (d + 1)) (hnamed : statement.MapsNamed) (hkind : Kind P statement)
    (hleave : r.leave d statement = some r') :
    Demands P r' (d + 1) ∧ (anyNodes r'.tree (d + 1) ≠ ∅ → anyNodes r.tree (d + 1) ≠ ∅) := by
  obtain ⟨mappings, hmappings, htree, hexplicit⟩ := State.leave_eq_some hleave
  have hproper := hnamed mappings hmappings
  refine ⟨⟨?_, ?_, hexplicit h.explicitPolicy⟩, fun hany hnone => hany ?_⟩
  · rw [htree]
    exact h.holds.mapAll h.rooted _ hproper (hkind.mappings mappings hmappings)
  · rw [htree]
    exact h.rooted.mapAll _ hproper
  · rw [htree, ← Finset.subset_empty, ← hnone]
    exact anyNodes_mapAll_subset _ _ h.rooted hproper

/-- A node for `anyPolicy` in the deepest level comes of certificates that
all assert `anyPolicy`. -/
theorem run : ∀ {path : List PolicyStatement} {d : Nat} {r r' : State}, Demands P r d →
    (∀ s ∈ path, s.MapsNamed) → (∀ s ∈ path, Kind P s) → r.run d path = some r' →
      Demands P r' (d + path.length)
        ∧ (anyNodes r'.tree (d + path.length) ≠ ∅ →
            (∀ s ∈ path, s.Asserts anyPolicy) ∧ anyNodes r.tree d ≠ ∅)
  | [], d, r, r', h, _, _, hrun => by
      obtain rfl := Option.some.inj hrun
      exact ⟨h, fun hany => ⟨nofun, hany⟩⟩
  | [target], d, r, r', h, _, hkind, hrun => by
      refine ⟨h.enter (hkind target List.mem_cons_self) hrun, fun hany => ?_⟩
      obtain ⟨hasserts, habove⟩ := anyNodes_enter h.rooted hrun hany
      exact ⟨List.forall_mem_singleton.mpr hasserts, habove⟩
  | first :: next :: rest, d, r, r', h, hnamed, hkind, hrun => by
      obtain ⟨hname, hnamed⟩ := List.forall_mem_cons.mp hnamed
      obtain ⟨hfirst, hkind⟩ := List.forall_mem_cons.mp hkind
      rw [State.run_cons_cons] at hrun
      obtain ⟨entered, henter, hrun⟩ := Option.bind_eq_some_iff.mp hrun
      obtain ⟨left, hleave, hrun⟩ := Option.bind_eq_some_iff.mp hrun
      obtain ⟨hleft, hsame⟩ := (h.enter hfirst henter).leave hname hfirst hleave
      obtain ⟨hlast, hchain⟩ := run hleft hnamed hkind hrun
      rw [List.length_cons, Nat.add_comm (next :: rest).length, ← Nat.add_assoc]
      refine ⟨hlast, fun hany => ?_⟩
      obtain ⟨hasserts, habove⟩ := hchain hany
      obtain ⟨hassert, habove⟩ := anyNodes_enter h.rooted henter (hsame habove)
      exact ⟨List.forall_mem_cons.mpr ⟨hassert, hasserts⟩, habove⟩

end Demands

end Rfc5280

/-! ## The processing -/

open Rfc5280

/-- A path is accepted if an acceptable policy is asserted all along and
no certificate maps it to another. -/
theorem processPolicies_of_asserted {c : PolicyStatement} {cs : List PolicyStatement} {p : String}
    {parameters : PolicyParameters} (hne : p ≠ anyPolicy) (hin : p ∈ parameters.initialPolicies)
    (hnamed : ∀ s ∈ c :: cs, s.MapsNamed) (hasserts : ∀ s ∈ c :: cs, s.Asserts p)
    (hspares : ∀ s ∈ (c :: cs).dropLast, s.Spares p) :
    processPolicies (c :: cs) parameters = .ok () := by
  rw [processPolicies_iff c cs hnamed]
  have hstart : Carries (start parameters (c :: cs).length).tree p 0 := rfl
  obtain ⟨r, hrun, hrooted, hcarries⟩ := hstart.run hne rooted_initial hnamed hasserts hspares
  rw [List.length_cons, Nat.zero_add] at hrooted hcarries
  unfold Rfc5280.succeeds
  rw [hrun]
  exact Bool.or_eq_true_iff.mpr (Or.inr (decide_eq_true (hcarries.intersect hrooted hne hin)))

/-- Where an explicit policy is required and no acceptable one is of the
kind that certificates name, all of an accepted path assert `anyPolicy`. -/
theorem anyPolicy_asserted {c : PolicyStatement} {cs : List PolicyStatement} {P : String → Prop}
    {parameters : PolicyParameters} (hrequired : parameters.explicitPolicyRequired = true)
    (hsome : parameters.initialPolicies.isEmpty = false)
    (hnot : anyPolicy ∉ parameters.initialPolicies)
    (hnone : ∀ q ∈ parameters.initialPolicies, ¬ P q) (hnamed : ∀ s ∈ c :: cs, s.MapsNamed)
    (hkind : ∀ s ∈ c :: cs, Kind P s) (hok : processPolicies (c :: cs) parameters = .ok ()) :
    ∀ s ∈ c :: cs, s.Asserts anyPolicy := by
  rw [processPolicies_iff c cs hnamed] at hok
  unfold Rfc5280.succeeds at hok
  split at hok
  · cases hok
  · next r hrun =>
    have hstart : Demands P (start parameters (c :: cs).length) 0 :=
      ⟨.start, rooted_initial, if_pos hrequired⟩
    obtain ⟨hlast, hchain⟩ := hstart.run hnamed hkind hrun
    have hexplicit : r.finalExplicit (c :: cs).getLast? = 0 := by
      unfold State.finalExplicit
      rw [hlast.explicitPolicy]
      split <;> rfl
    rw [hexplicit, Bool.or_eq_true, decide_eq_true_eq, decide_eq_true_eq,
      or_iff_right (Nat.lt_irrefl 0)] at hok
    rw [List.length_cons, Nat.zero_add] at hlast hchain
    have hne : parameters.initialPolicies.toList ≠ [] := fun hnil => by
      rw [TextSet.isEmpty, hnil] at hsome
      cases hsome
    exact (hchain (hlast.holds.anyNodes_of_intersect hlast.rooted hne hnot hnone hok)).1

end TrustPath
