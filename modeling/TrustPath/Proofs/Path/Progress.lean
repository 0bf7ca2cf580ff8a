import TrustPath.Proofs.Path.Exactness

/-!
# What a search never takes back

A search goes back and forth on its path, but some of its state only
grows: the count of partial paths, the answers of signature checks, and
the mark that the budget is exceeded. `Onward` relates a state to a later
one in this way. It holds of every part of a search, from any state
whatever, and is put together along the recursion (`extend_onward`).

Carried along is what the growth of the cache is worth: in a state whose
path comes from the pool, each recalled answer is that of a check of two
certificates that stand in its slots (`Grounded`), and it stays so.
-/

namespace TrustPath

namespace PathProblem

/-! ## Answers that are kept -/

/-- The path comes from the pool, and each recalled answer is that of a
direct check. -/
structure Grounded (p : PathProblem) (s : SearchState) : Prop where
  inPool : ∀ x ∈ s.issuers, p.pool[x.1]? = some x.2
  verified : ∀ child issuer answer, ((child, issuer), answer) ∈ s.signatures →
    ∃ c d, p.at? child = some c ∧ p.at? issuer = some d ∧ answer = p.holds c.signed d.publicKey

theorem grounded_start (p : PathProblem) : p.Grounded (.start p.pool.length) where
  inPool := fun _ hx => absurd hx List.not_mem_nil
  verified := fun _ _ _ h => absurd h List.not_mem_nil

/-- One state of a search comes after another, whatever lies between. -/
structure Onward (p : PathProblem) (s s' : SearchState) : Prop where
  steps : s.steps ≤ s'.steps
  exceeded : s.budgetExceeded = true → s'.budgetExceeded = true
  recalls : ∀ slots answer, s.signatures.lookup slots = some answer →
    s'.signatures.lookup slots = some answer
  grounded : p.Grounded s → p.Grounded s'

section

variable {p : PathProblem} {s s' s'' : SearchState}

theorem Onward.refl : p.Onward s s := ⟨Nat.le_refl _, id, fun _ _ => id, id⟩

theorem Onward.trans (h : p.Onward s s') (h' : p.Onward s' s'') : p.Onward s s'' :=
  ⟨h.steps.trans h'.steps, fun hs => h'.exceeded (h.exceeded hs),
    fun slots answer hs => h'.recalls slots answer (h.recalls slots answer hs),
    fun hs => h'.grounded (h.grounded hs)⟩

/-- Nothing is lost where no check is made and the path stays in the
pool. -/
theorem Onward.of_unchecked (hsteps : s.steps ≤ s'.steps)
    (hexceeded : s.budgetExceeded = true → s'.budgetExceeded = true)
    (hsignatures : s'.signatures = s.signatures)
    (hinPool : (∀ x ∈ s.issuers, p.pool[x.1]? = some x.2) →
      ∀ x ∈ s'.issuers, p.pool[x.1]? = some x.2) : p.Onward s s' where
  steps := hsteps
  exceeded := hexceeded
  recalls := fun _ _ h => hsignatures ▸ h
  grounded := fun h => ⟨hinPool h.inPool, hsignatures ▸ h.verified⟩

theorem onward_tick : p.Onward s (tick s) :=
  .of_unchecked (Nat.le_succ _) id rfl id

theorem onward_push {i : Nat} {c : Certificate} (hc : p.pool[i]? = some c) :
    p.Onward s (s.push i c) :=
  .of_unchecked (Nat.le_refl _) id rfl fun h => List.forall_mem_cons.mpr ⟨hc, h⟩

theorem onward_pop (i : Nat) : p.Onward s (s.pop i) :=
  .of_unchecked (Nat.le_refl _) id rfl fun h x hx => h x (List.mem_of_mem_tail hx)

/-! ## Every part of a search -/

theorem signedBy_onward {child issuer : Slot × Certificate}
    (hchild : p.Grounded s → p.at? child.1 = some child.2)
    (hissuer : p.at? issuer.1 = some issuer.2) : p.Onward s (p.signedBy s child issuer).2 := by
  unfold signedBy
  cases hlookup : s.signatures.lookup (child.1, issuer.1) with
  | some answer => exact .refl
  | none =>
      refine ⟨Nat.le_refl _, id, fun slots answer h => ?_, fun h => ⟨h.inPool, ?_⟩⟩
      · -- a slot pair that has an answer is not the one that is added
        rw [List.lookup_cons]
        split
        · next heq => rw [eq_of_beq heq, hlookup] at h; cases h
        · exact h
      · intro first second answer hmem
        rcases List.mem_cons.mp hmem with heq | hmem
        · obtain ⟨hslots, rfl⟩ := Prod.mk.inj heq
          obtain ⟨rfl, rfl⟩ := Prod.mk.inj hslots
          exact ⟨child.2, issuer.2, hchild h, hissuer, rfl⟩
        · exact h.verified first second answer hmem

theorem issuedBy_onward (issuer : Slot × Certificate)
    (hissuer : p.at? issuer.1 = some issuer.2) {answer : Bool}
    (h : p.issuedBy s (p.current s) issuer = (answer, s')) : p.Onward s s' := by
  have honward : p.Onward s (p.issuedBy s (p.current s) issuer).2 := by
    unfold issuedBy
    split
    · exact signedBy_onward (fun h => at?_current_of_inPool h.inPool) hissuer
    · exact .refl
  rwa [h] at honward

theorem tryAnchors_onward : ∀ {l : List (Certificate × Nat)} {s : SearchState},
    (∀ x ∈ l, p.anchors[x.2]? = some x.1) → p.Onward s (p.tryAnchors l s).2
  | [], s, _ => .refl
  | (anchor, i) :: rest, s, hslots => by
      obtain ⟨hslot, hrest⟩ := List.forall_mem_cons.mp hslots
      rw [tryAnchors]
      rcases hissued : p.issuedBy s (p.current s) (.anchor i, anchor) with ⟨answer, s₁⟩
      have hchecked := issuedBy_onward (.anchor i, anchor) hslot hissued
      cases answer with
      | false => exact hchecked.trans (tryAnchors_onward hrest)
      | true =>
          dsimp only
          rcases p.checkUnder s₁ anchor with ⟨rejection | _, lines⟩
          · have hrejected : p.Onward s₁
                (({ s₁ with lines := lines.reverse ++ s₁.lines } : SearchState).reject rejection) :=
              .of_unchecked (Nat.le_refl _) id rfl id
            exact hchecked.trans (hrejected.trans (tryAnchors_onward hrest))
          · exact hchecked.trans (.of_unchecked (Nat.le_refl _) id rfl id)

/-- What a look at a partial path comes to: nothing, after a line or two,
or what the anchors say. -/
theorem visit_eq (p : PathProblem) (s : SearchState) :
    (∃ s', p.visit s = (.deadEnd, s') ∧ p.Onward (tick s) s')
    ∨ p.visit s = ((p.tryAnchors p.anchors.zipIdx (tick s)).1.elim .extendable .found,
        (p.tryAnchors p.anchors.zipIdx (tick s)).2) := by
  unfold visit
  dsimp only
  split
  · refine .inl ?_
    split
    · exact ⟨_, rfl, .refl⟩
    · exact ⟨_, rfl, .of_unchecked (Nat.le_refl _) (fun _ => rfl) rfl id⟩
  · split
    · exact .inl ⟨_, rfl, .of_unchecked (Nat.le_refl _) id rfl id⟩
    · refine .inr ?_
      rcases hanchors : p.tryAnchors p.anchors.zipIdx (tick s) with ⟨_ | _, _⟩
      all_goals
        rw [tick] at hanchors
        rw [hanchors]
        rfl

theorem visit_onward {outcome : Visit} (h : p.visit s = (outcome, s')) : p.Onward (tick s) s' := by
  rcases p.visit_eq s with ⟨s₁, hvisit, honward⟩ | hvisit
  · obtain ⟨-, rfl⟩ := Prod.mk.inj (h.symm.trans hvisit)
    exact honward
  · obtain ⟨-, rfl⟩ := Prod.mk.inj (h.symm.trans hvisit)
    exact tryAnchors_onward fun x hx => List.mem_zipIdx_iff_getElem?.mp hx

theorem tryPool_onward {next : SearchState → Option BuiltPath × SearchState}
    (hnext : ∀ s, p.Onward s (next s).2) : ∀ {l : List (Certificate × Nat)} {s : SearchState},
    (∀ x ∈ l, p.pool[x.2]? = some x.1) → p.Onward s (p.tryPool next l s).2
  | [], s, _ => .refl
  | (c, i) :: rest, s, hslots => by
      obtain ⟨hslot, hrest⟩ := List.forall_mem_cons.mp hslots
      rw [tryPool]
      split
      · rcases hissued : p.issuedBy s (p.current s) (.pool i, c) with ⟨answer, s₁⟩
        have hchecked := issuedBy_onward (.pool i, c) hslot hissued
        cases answer with
        | false => exact hchecked.trans (tryPool_onward hnext hrest)
        | true =>
            have hbelow := hchecked.trans ((onward_push hslot).trans (hnext (s₁.push i c)))
            dsimp only
            rcases hsearch : next (s₁.push i c) with ⟨_ | _, s₂⟩
            · rw [hsearch] at hbelow
              have hback := hbelow.trans (onward_pop i)
              dsimp only
              split
              · exact hback
              · exact hback.trans (tryPool_onward hnext hrest)
            · rw [hsearch] at hbelow
              exact hbelow
      · exact tryPool_onward hnext hrest

/-- A search from a partial path counts it, and from there goes on. -/
theorem extend_onward : ∀ (room : Nat) (s : SearchState), p.Onward (tick s) (p.extend room s).2
  | 0, s => by
      rw [extend]
      rcases hvisit : p.visit s with ⟨_ | _ | _, s₁⟩
      · exact visit_onward hvisit
      · exact visit_onward hvisit
      · exact visit_onward hvisit
  | room + 1, s => by
      rw [extend]
      rcases hvisit : p.visit s with ⟨_ | _ | _, s₁⟩
      · exact visit_onward hvisit
      · exact visit_onward hvisit
      · refine (visit_onward hvisit).trans (tryPool_onward ?_ ?_)
        · exact fun s => onward_tick.trans (extend_onward room s)
        · exact fun x hx => List.mem_zipIdx_iff_getElem?.mp hx

end

end PathProblem

end TrustPath
