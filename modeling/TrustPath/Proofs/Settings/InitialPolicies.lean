import TrustPath.Proofs.Der.DottedForm
import TrustPath.Proofs.Policy.Assertion
import TrustPath.Path.Evaluator
import TrustPath.Proofs.Settings.Validity

/-!
# Initial policies of valid settings

The initial policies of valid settings spell object identifiers, but
policies are compared as texts with the printed identifiers of
certificates. So what counts is whether an identifier prints as a policy
(`Oid.printed_iff`): then the policy is matched by certificates that
assert that identifier. A policy that is spelled in another way, with a
zero in front of a number, say, passes the check and matches nothing.
Where all initial policies are of that sort, no path is accepted unless
all its certificates assert `anyPolicy` (`initialPolicies_comparable`).
-/

namespace TrustPath

/-- Some object identifier prints as a text. -/
def IsPrinted (policy : String) : Prop := ∃ oid : Oid, oid.dotted = policy

namespace PolicyStatement

theorem isPrinted_of_policiesOf : ∀ {extensions : List Extension} {policies : List String},
    policiesOf extensions = .ok (some policies) → ∀ policy ∈ policies, IsPrinted policy
  | [], _, h => by cases h
  | ext :: rest, policies, h => by
      rw [policiesOf] at h
      split at h
      · obtain rfl := Option.some.inj (Except.ok.inj h)
        intro policy hin
        obtain ⟨oid, -, rfl⟩ := List.mem_map.mp hin
        exact ⟨oid, rfl⟩
      · split at h
        · cases h
        · exact isPrinted_of_policiesOf h
      · exact isPrinted_of_policiesOf h

theorem isPrinted_of_mem_pairsOf {extensions : List Extension} {pair : String × String}
    (h : pair ∈ pairsOf extensions) : IsPrinted pair.1 ∧ IsPrinted pair.2 := by
  obtain ⟨ext, -, hpair⟩ := List.mem_flatMap.mp h
  split at hpair
  · obtain ⟨⟨issuer, subject⟩, -, rfl⟩ := List.mem_map.mp hpair
    exact ⟨⟨issuer, rfl⟩, subject, rfl⟩
  · cases hpair

/-- What certificates name is printed. -/
theorem kind_ofCertificate (c : Certificate) : Rfc5280.Kind IsPrinted (ofCertificate c) where
  policies _ hpolicies := isPrinted_of_policiesOf hpolicies
  mappings mappings hmappings mapping hmapping := by
    obtain ⟨-, rfl⟩ := pairsNamed_of_mappings hmappings
    obtain ⟨issuer, hissuer, rfl⟩ := List.mem_map.mp hmapping
    obtain ⟨pair, hpair, rfl⟩ := List.mem_map.mp (TextSet.mem_ofList.mp hissuer)
    refine ⟨(isPrinted_of_mem_pairsOf hpair).1, fun subject hsubject => ?_⟩
    obtain ⟨other, hother, rfl⟩ := List.mem_map.mp (TextSet.mem_ofList.mp hsubject)
    exact (isPrinted_of_mem_pairsOf (List.mem_filter.mp hother).1).2

end PolicyStatement

theorem isPrinted_anyPolicy : IsPrinted anyPolicy := ⟨⟨[85, 29, 32, 0]⟩, by decide⟩

namespace Settings

/-- Of the initial policies of valid settings those that some identifier
prints are matched by certificates that assert it. The others are matched
by none: an initial policy spells numbers, but it may spell them in a way
in which they are not printed, or spell numbers that no identifier has. -/
theorem initialPolicies_comparable {settings : Settings} (hvalid : settings.validate = .ok ())
    (handler : NameHandler) (info : ValidationInfo) (store : PathStore) (now : Int) :
    let initial := settings.validation.initialPolicies
    let parameters :=
      (PathEvaluator.parameters ⟨settings.validation, handler⟩ info store now).policy
    (∀ policy ∈ initial, ∃ arcs, Spells policy arcs
        ∧ (IsPrinted policy ↔ policy = dottedForm arcs ∧ Oid.Printable arcs))
      ∧ (∀ (oid : Oid) (c : Certificate) (cs : List Certificate),
          oid.dotted ∈ initial → oid.dotted ≠ anyPolicy →
          (∀ s ∈ statementsOf (c :: cs), s.Asserts oid.dotted) →
          (∀ s ∈ (statementsOf (c :: cs)).dropLast, s.Spares oid.dotted) →
            processPolicies (statementsOf (c :: cs)) parameters = .ok ())
      ∧ (initial.isEmpty = false → (∀ policy ∈ initial, ¬ IsPrinted policy) →
          ∀ (c : Certificate) (cs : List Certificate),
            processPolicies (statementsOf (c :: cs)) parameters = .ok () →
              ∀ s ∈ statementsOf (c :: cs), s.Asserts anyPolicy) := by
  intro initial parameters
  have hnamed : ∀ (path : List Certificate), ∀ s ∈ statementsOf path, s.MapsNamed := by
    intro path s hs
    obtain ⟨certificate, -, rfl⟩ := List.mem_map.mp hs
    exact PolicyStatement.mapsNamed_ofCertificate certificate
  refine ⟨fun policy hin => ?_, fun oid c cs hin hne hasserts hspares => ?_,
    fun hsome hnone c cs hok => ?_⟩
  · obtain ⟨arcs, hspells, -⟩ := isDottedText_iff.mp ((validate_eq_ok.mp hvalid).1 policy hin)
    exact ⟨arcs, hspells, Oid.printed_iff hspells⟩
  · exact processPolicies_of_asserted hne hin (hnamed (c :: cs)) hasserts hspares
  · have hrequired : parameters.explicitPolicyRequired = true := by
      show (!initial.isEmpty) = true
      rw [hsome, Bool.not_false]
    have hkind : ∀ s ∈ statementsOf (c :: cs), Rfc5280.Kind IsPrinted s := by
      intro s hs
      obtain ⟨certificate, -, rfl⟩ := List.mem_map.mp hs
      exact PolicyStatement.kind_ofCertificate certificate
    exact anyPolicy_asserted hrequired hsome (fun hany => hnone _ hany isPrinted_anyPolicy) hnone
      (hnamed (c :: cs)) hkind hok

/-- Settings with one initial policy. -/
def sampleRequiring (policy : String) : Settings :=
  { validation := { initialPolicies := .ofList [policy] } }

theorem validate_sampleRequiring {policy : String} (h : Oid.isDottedText policy = true) :
    (sampleRequiring policy).validate = .ok () := by
  refine validate_eq_ok.mpr ⟨fun p hp => ?_, _, rfl⟩
  obtain rfl := List.mem_singleton.mp (TextSet.mem_ofList.mp hp)
  exact h

theorem initialPolicies_comparable_printed :
    let settings := sampleRequiring "1.2.3"
    let parameters := (PathEvaluator.parameters ⟨settings.validation, .builtin⟩
      ⟨[], [], none⟩ ⟨[], []⟩ 0).policy
    let path := [sampleAsserting "Lower" "Root" [⟨[42, 4]⟩, ⟨[42, 3]⟩],
      sampleAsserting "Target" "Lower" [⟨[42, 3]⟩]]
    settings.validate = .ok () ∧ processPolicies (statementsOf path) parameters = .ok () := by
  intro settings parameters path
  have hvalid : settings.validate = .ok () := validate_sampleRequiring (by decide)
  obtain ⟨-, hmatched, -⟩ := initialPolicies_comparable hvalid .builtin ⟨[], [], none⟩ ⟨[], []⟩ 0
  have hdotted : Oid.dotted ⟨[42, 3]⟩ = "1.2.3" := by decide
  refine ⟨hvalid, hmatched ⟨[42, 3]⟩ _ _ ?_ ?_ ?_ ?_⟩
  · rw [hdotted]
    exact TextSet.mem_ofList.mpr List.mem_cons_self
  · rw [hdotted]
    decide
  · rw [hdotted]
    exact List.forall_mem_cons.mpr
      ⟨⟨_, rfl, by decide⟩, List.forall_mem_singleton.mpr ⟨_, rfl, by decide⟩⟩
  · exact List.forall_mem_singleton.mpr ⟨_, rfl, nofun⟩

/-- A zero in front of a number is let through, and then the policy that
is meant is not matched. -/
theorem initialPolicies_not_comparable :
    let settings := sampleRequiring "1.2.03"
    let parameters := (PathEvaluator.parameters ⟨settings.validation, .builtin⟩
      ⟨[], [], none⟩ ⟨[], []⟩ 0).policy
    settings.validate = .ok () ∧ "1.2.03" ∈ settings.validation.initialPolicies
      ∧ (¬ ∃ oid : Oid, oid.dotted = "1.2.03")
      ∧ Oid.dotted ⟨[42, 3]⟩ = "1.2.3"
      ∧ processPolicies (statementsOf [sampleAsserting "Target" "Root" [⟨[42, 3]⟩]]) parameters
          ≠ .ok () := by
  intro settings parameters
  have hspells : Spells "1.2.03" [1, 2, 3] := spells_iff.mpr (by decide)
  refine ⟨validate_sampleRequiring (by decide), TextSet.mem_ofList.mpr List.mem_cons_self,
    fun hprinted => ?_, by decide, fun hok => ?_⟩
  · exact absurd ((Oid.printed_iff hspells).mp hprinted).1 (by decide)
  · have hpassed : succeeds (processPolicies
        (statementsOf [sampleAsserting "Target" "Root" [⟨[42, 3]⟩]]) parameters)
          (fun _ => true) = false := by
      decide +kernel
    rw [succeeds_iff.mpr ⟨(), hok, rfl⟩] at hpassed
    cases hpassed

end Settings

end TrustPath
