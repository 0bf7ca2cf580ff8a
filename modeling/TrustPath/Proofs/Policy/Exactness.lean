import TrustPath.Proofs.Policy.Simulation

/-!
# Exactness of policy processing

Paths of certificates are processed as RFC 5280 has it. What is left to
show after the simulation is what certificates can say: mappings that
are read name policies only, whatever the extensions hold.

The reference takes the policies of a certificate as a set, so their
order and repetitions in the certificate do not matter to the answer.
-/

namespace TrustPath

open Rfc5280 (Proper)

/-! ## What certificates say -/

namespace PolicyStatement

theorem pairsNamed_of_mappings {extensions : List Extension} {mappings : PolicyMappings}
    (h : mappingsOf extensions = .ok mappings) :
    (∀ pair ∈ pairsOf extensions, pair.1 ≠ anyPolicy ∧ pair.2 ≠ anyPolicy)
      ∧ mappings = .ofPairs (pairsOf extensions) := by
  unfold mappingsOf at h
  dsimp only at h
  split at h
  · cases h
  · next hnone =>
    refine ⟨fun pair hpair => ?_, (Except.ok.inj h).symm⟩
    rw [Bool.not_eq_true, List.any_eq_false] at hnone
    have hfalse := hnone pair hpair
    rw [Bool.or_eq_true, beq_iff_eq, beq_iff_eq, not_or] at hfalse
    exact hfalse

/-- Mappings from or to `anyPolicy` are refused when they are read. -/
theorem mapsNamed_ofCertificate (c : Certificate) : (ofCertificate c).MapsNamed := by
  intro mappings hmappings mapping hmapping
  obtain ⟨hnamed, rfl⟩ := pairsNamed_of_mappings hmappings
  obtain ⟨issuer, hissuer, rfl⟩ := List.mem_map.mp hmapping
  obtain ⟨pair, hpair, rfl⟩ := List.mem_map.mp (TextSet.mem_ofList.mp hissuer)
  refine ⟨(hnamed pair hpair).1, fun hany => ?_⟩
  obtain ⟨other, hother, hsubject⟩ := List.mem_map.mp (TextSet.mem_ofList.mp hany)
  exact (hnamed other (List.mem_filter.mp hother).1).2 hsubject

/-- Two certificates say the same about policies, whatever the order and
the repetitions of the policies they assert. -/
structure Alike (a b : PolicyStatement) : Prop where
  selfIssued : a.selfIssued = b.selfIssued
  policies : a.policies.map (Option.map List.toFinset) = b.policies.map (Option.map List.toFinset)
  mappings : a.mappings = b.mappings
  requireExplicit : a.requireExplicit = b.requireExplicit
  inhibitMapping : a.inhibitMapping = b.inhibitMapping
  inhibitAnyPolicy : a.inhibitAnyPolicy = b.inhibitAnyPolicy

end PolicyStatement

namespace Rfc5280

open PolicyStatement (Alike)

theorem State.enter_alike (r : State) (d : Nat) {a b : PolicyStatement} (h : Alike a b)
    (isTarget : Bool) : r.enter d a isTarget = r.enter d b isTarget := by
  have hpolicies := h.policies
  unfold State.enter
  cases ha : a.policies with
  | error fault =>
      cases hb : b.policies with
      | error fault' => rfl
      | ok policies' => rw [ha, hb] at hpolicies; cases hpolicies
  | ok policies =>
      cases hb : b.policies with
      | error fault' => rw [ha, hb] at hpolicies; cases hpolicies
      | ok policies' =>
          rw [ha, hb] at hpolicies
          have hsame : policies.map List.toFinset = policies'.map List.toFinset :=
            Except.ok.inj hpolicies
          have hassert : r.assert d a isTarget policies = r.assert d b isTarget policies' := by
            cases policies with
            | none =>
                cases policies' with
                | none => rfl
                | some ps' => cases hsame
            | some ps =>
                cases policies' with
                | none => cases hsame
                | some ps' =>
                    rw [State.assert, State.assert, h.selfIssued, Option.some.inj hsame]
          change (if _ then _ else _) = (if _ then _ else _)
          rw [hassert]

theorem State.leave_alike (r : State) (d : Nat) {a b : PolicyStatement} (h : Alike a b) :
    r.leave d a = r.leave d b := by
  unfold State.leave State.constrain
  rw [h.mappings, h.selfIssued, h.requireExplicit, h.inhibitMapping, h.inhibitAnyPolicy]

theorem State.run_cons_cons (r : State) (d : Nat) (a b : PolicyStatement)
    (rest : List PolicyStatement) :
    r.run d (a :: b :: rest) =
      (r.enter d a false).bind fun r => (r.leave d a).bind fun r => r.run (d + 1) (b :: rest) :=
  rfl

theorem State.run_alike {path path' : List PolicyStatement} (h : List.Forall₂ Alike path path') :
    ∀ (r : State) (d : Nat), r.run d path = r.run d path' := by
  induction h with
  | nil => exact fun _ _ => rfl
  | cons hfirst hrest ih =>
      intro r d
      cases hrest with
      | nil => exact r.enter_alike d hfirst true
      | cons hnext hrest =>
          rw [State.run_cons_cons, State.run_cons_cons, r.enter_alike d hfirst]
          simp only [State.leave_alike _ d hfirst, ih]

theorem finalExplicit_alike (r : State) {path path' : List PolicyStatement}
    (h : List.Forall₂ Alike path path') :
    r.finalExplicit path.getLast? = r.finalExplicit path'.getLast? := by
  have hany : path.getLast?.any (·.requireExplicit = some 0)
      = path'.getLast?.any (·.requireExplicit = some 0) := by
    induction h with
    | nil => rfl
    | cons hfirst hrest ih =>
        cases hrest with
        | nil => simp only [List.getLast?_singleton, Option.any_some, hfirst.requireExplicit]
        | cons hnext hrest => simpa only [List.getLast?_cons_cons] using ih
  rw [State.finalExplicit, State.finalExplicit, hany]

/-- The answer depends on the policies of each certificate as a set. -/
theorem succeeds_alike {path path' : List PolicyStatement} (h : List.Forall₂ Alike path path')
    (parameters : PolicyParameters) : succeeds path parameters = succeeds path' parameters := by
  unfold succeeds
  rw [h.length_eq, State.run_alike h]
  simp only [finalExplicit_alike _ h]

theorem State.readable_of_enter {r r' : State} {d : Nat} {statement : PolicyStatement}
    {isTarget : Bool} (h : r.enter d statement isTarget = some r') :
    ∃ policies, statement.policies = .ok policies := by
  unfold State.enter at h
  split at h
  · cases h
  · next policies hpolicies => exact ⟨policies, hpolicies⟩

theorem State.readable_of_leave {r r' : State} {d : Nat} {statement : PolicyStatement}
    (h : r.leave d statement = some r') : ∃ mappings, statement.mappings = .ok mappings := by
  unfold State.leave at h
  split at h
  · cases h
  · next mappings hmappings => exact ⟨mappings, hmappings⟩

/-- The processing passes only certificates whose policies can be read
and, above the target, whose mappings can. -/
theorem State.readable_of_run : ∀ {path : List PolicyStatement} {r r' : State} {d : Nat},
    r.run d path = some r' →
      (∀ statement ∈ path, ∃ policies, statement.policies = .ok policies)
        ∧ ∀ statement ∈ path.dropLast, ∃ mappings, statement.mappings = .ok mappings
  | [], r, r', d, h =>
      ⟨fun _ hin => absurd hin List.not_mem_nil, fun _ hin => absurd hin List.not_mem_nil⟩
  | [target], r, r', d, h => by
      refine ⟨fun statement hin => ?_, fun _ hin => absurd hin List.not_mem_nil⟩
      rw [List.mem_singleton.mp hin]
      exact readable_of_enter h
  | statement :: next :: rest, r, r', d, h => by
      rw [State.run_cons_cons] at h
      obtain ⟨entered, henter, h⟩ := Option.bind_eq_some_iff.mp h
      obtain ⟨left, hleave, h⟩ := Option.bind_eq_some_iff.mp h
      obtain ⟨hpolicies, hmappings⟩ := readable_of_run h
      rw [List.dropLast_cons_cons]
      exact ⟨List.forall_mem_cons.mpr ⟨readable_of_enter henter, hpolicies⟩,
        List.forall_mem_cons.mpr ⟨readable_of_leave hleave, hmappings⟩⟩

theorem readable_of_succeeds {path : List PolicyStatement} {parameters : PolicyParameters}
    (h : succeeds path parameters = true) :
    (∀ statement ∈ path, ∃ policies, statement.policies = .ok policies)
      ∧ ∀ statement ∈ path.dropLast, ∃ mappings, statement.mappings = .ok mappings := by
  unfold succeeds at h
  split at h
  · cases h
  · next r hrun => exact State.readable_of_run hrun

end Rfc5280

/-! ## The processing -/

/-- What the certificates of a path say about policies. -/
def statementsOf (path : List Certificate) : List PolicyStatement :=
  path.map PolicyStatement.ofCertificate

/-- Neither the processing nor the reference succeeds on a path. -/
def Refused (path : List Certificate) (parameters : PolicyParameters) : Prop :=
  processPolicies (statementsOf path) parameters ≠ .ok ()
    ∧ Rfc5280.succeeds (statementsOf path) parameters = false

/-- Processing a path of certificates is RFC 5280. The clauses after the
first say what that comes to: policies that cannot be read, and mappings
from or to `anyPolicy` above the target, make both sides fail; and a path
whose certificates say the same gets the same answer. -/
theorem processPolicies_exact (c : Certificate) (cs : List Certificate)
    (parameters : PolicyParameters) :
    (processPolicies (statementsOf (c :: cs)) parameters = .ok ()
      ↔ Rfc5280.succeeds (statementsOf (c :: cs)) parameters = true)
    ∧ (∀ bad ∈ c :: cs, ∀ fault, PolicyStatement.policiesOf bad.extensions = .error fault →
        Refused (c :: cs) parameters)
    ∧ (∀ bad ∈ (c :: cs).dropLast, ∀ pair ∈ PolicyStatement.pairsOf bad.extensions,
        pair.1 = anyPolicy ∨ pair.2 = anyPolicy → Refused (c :: cs) parameters)
    ∧ ∀ path, List.Forall₂
          (fun a b => (PolicyStatement.ofCertificate a).Alike (PolicyStatement.ofCertificate b))
          (c :: cs) path →
        (processPolicies (statementsOf path) parameters = .ok ()
          ↔ processPolicies (statementsOf (c :: cs)) parameters = .ok ()) := by
  have hexact : ∀ (a : Certificate) (as : List Certificate),
      processPolicies (statementsOf (a :: as)) parameters = .ok ()
        ↔ Rfc5280.succeeds (statementsOf (a :: as)) parameters = true := by
    intro a as
    refine processPolicies_iff _ _ (fun statement hin => ?_) parameters
    have hin : statement ∈ (a :: as).map PolicyStatement.ofCertificate := hin
    obtain ⟨certificate, -, rfl⟩ := List.mem_map.mp hin
    exact PolicyStatement.mapsNamed_ofCertificate certificate
  have hrefused : ¬ Rfc5280.succeeds (statementsOf (c :: cs)) parameters = true →
      Refused (c :: cs) parameters :=
    fun hfails => ⟨fun hok => hfails ((hexact c cs).mp hok), Bool.not_eq_true _ ▸ hfails⟩
  refine ⟨hexact c cs, fun bad hbad fault hfault => hrefused fun hsucceeds => ?_,
    fun bad hbad pair hpair hany => hrefused fun hsucceeds => ?_, fun path hpath => ?_⟩
  · obtain ⟨policies, hpolicies⟩ :=
      (Rfc5280.readable_of_succeeds hsucceeds).1 _ (List.mem_map_of_mem hbad)
    exact absurd (hfault.symm.trans hpolicies) (by simp only [reduceCtorEq, not_false_eq_true])
  · have hin : PolicyStatement.ofCertificate bad ∈ (statementsOf (c :: cs)).dropLast := by
      rw [statementsOf, ← List.map_dropLast]
      exact List.mem_map_of_mem hbad
    obtain ⟨mappings, hmappings⟩ := (Rfc5280.readable_of_succeeds hsucceeds).2 _ hin
    have hnamed := (PolicyStatement.pairsNamed_of_mappings hmappings).1 pair hpair
    exact hany.elim hnamed.1 hnamed.2
  · cases hpath with
    | @cons _ a _ as hfirst hrest =>
        have hstatements : List.Forall₂ PolicyStatement.Alike (statementsOf (c :: cs))
            (statementsOf (a :: as)) :=
          List.forall₂_map_left_iff.mpr (List.forall₂_map_right_iff.mpr (.cons hfirst hrest))
        rw [hexact, hexact, Rfc5280.succeeds_alike hstatements]

end TrustPath
