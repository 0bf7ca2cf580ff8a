import TrustPath.Proofs.Material
import TrustPath.Proofs.NameEvaluation
import TrustPath.Proofs.TextSet

/-!
# Name evaluation is exact

When a credential passes the check of its names, said without the order of
the checks (`NameEvaluator.Answers`). The evaluation answers exactly that,
whatever the handler of names does (`NameEvaluator.evaluate_exact`).

A match is between one name of the certificate and one trusted name, so the
trusted names that match are a matter of each of them alone: a union of sets
matches where one of them does (`NameEvaluator.matches_union`), and more
trusted names never match less. The only failure does not depend on the
trusted names at all.
-/

namespace TrustPath

namespace DistinguishedName

/-- The text that a name gives first for a type: it comes first in its relative name, and no more
specific relative name has one. -/
def GivesFirst (name : DistinguishedName) (oid s : String) : Prop :=
  ∃ general before after specific,
    name.rdns = general ++ ⟨before ++ ⟨oid, .text s⟩ :: after⟩ :: specific ∧
      (∀ t, ⟨oid, .text t⟩ ∉ before) ∧ ∀ rdn ∈ specific, ∀ t, ⟨oid, .text t⟩ ∉ rdn.attributes

/-- The text of an attribute, if it has the type. -/
def textOf? (oid : String) (attr : Attribute) : Option String :=
  if attr.oid = oid then attr.value.text? else none

theorem textOf?_eq_some {oid s : String} {attr : Attribute} :
    textOf? oid attr = some s ↔ attr = ⟨oid, .text s⟩ := by
  obtain ⟨type, value⟩ := attr
  cases value <;> simp [textOf?, AttributeValue.text?, Option.ite_none_right_eq_some]

theorem textOf?_eq_none {oid : String} {attrs : List Attribute} :
    (∀ attr ∈ attrs, textOf? oid attr = none) ↔ ∀ t, ⟨oid, .text t⟩ ∉ attrs := by
  simp only [Option.eq_none_iff_forall_ne_some, ne_eq, textOf?_eq_some]
  exact ⟨fun h t hmem => h _ hmem t rfl, fun h attr hattr t heq => h t (heq ▸ hattr)⟩

theorem head?_valuesOf {name : DistinguishedName} {oid s : String} :
    (name.valuesOf oid).head? = some s ↔ name.GivesFirst oid s := by
  have hvalues : name.valuesOf oid =
      name.rdns.reverse.flatMap fun rdn => rdn.attributes.filterMap (textOf? oid) :=
    List.filterMap_flatMap ..
  rw [hvalues, List.head?_flatMap]
  simp only [List.head?_filterMap, List.findSome?_eq_some_iff, List.findSome?_eq_none_iff,
    textOf?_eq_some, textOf?_eq_none]
  constructor
  · rintro ⟨specific, ⟨_⟩, general, hrdns, ⟨before, _, after, rfl, rfl, hbefore⟩, hspecific⟩
    refine ⟨general.reverse, before, after, specific.reverse, ?_, hbefore,
      fun rdn hrdn => hspecific rdn (List.mem_reverse.mp hrdn)⟩
    rw [List.reverse_eq_iff.mp hrdns]
    simp
  · rintro ⟨general, before, after, specific, hrdns, hbefore, hspecific⟩
    refine ⟨specific.reverse, _, general.reverse, ?_, ⟨before, _, after, rfl, rfl, hbefore⟩,
      fun rdn hrdn => hspecific rdn (List.mem_reverse.mp hrdn)⟩
    rw [hrdns]
    simp

end DistinguishedName

namespace NameEvaluator

open Logging

/-! ## What it is to pass -/

/-- An active check finds a name of the certificate among the trusted names. -/
inductive Matches (e : NameEvaluator) (c : Certificate) (trusted : TextSet) : Prop
  | altName {names : List GeneralName} {name : GeneralName} {s : String}
      (hactive : e.checkAltNames = true) (hnames : c.subjectAltName = .ok (some names))
      (hname : name ∈ names) (htype : name.type ∈ e.altNameTypes) (htext : name.text? = some s)
      (htrusted : s ∈ trusted)
  | commonName {s : String} (hactive : e.checkCommonName = true)
      (hfirst : c.subject.GivesFirst commonNameOid s) (hne : s ≠ "") (htrusted : s ∈ trusted)
  | subject {s : String} {dn : DistinguishedName} (hactive : e.checkSubject = true)
      (htrusted : s ∈ trusted) (hparse : e.handler.parse s = .ok dn)
      (hequal : (dn == c.subject) = true)

/-- The alternative names can be read, if they are looked at. -/
def Readable (e : NameEvaluator) (c : Certificate) : Prop :=
  e.checkAltNames = true → ∃ names, c.subjectAltName = .ok names

/-- What an evaluation answers for a certificate and trusted names, if there are any. -/
inductive Answers (e : NameEvaluator) (c : Certificate) (trusted : Option TextSet) :
    Except TrustError Bool → Prop
  | unchecked (hinactive : e.isActive = false) : Answers e c trusted (.ok true)
  | untrusting (hactive : e.isActive = true) (hempty : ∀ names ∈ trusted, names.isEmpty = true) :
      Answers e c trusted (.ok false)
  | unreadable {names : TextSet} {fault : ExtensionFault} (hactive : e.checkAltNames = true)
      (htrusted : trusted = some names) (hne : names.isEmpty = false)
      (hfault : c.subjectAltName = .error fault) :
      Answers e c trusted (.error (.invalidCertificate fault.message))
  | accepted {names : TextSet} (htrusted : trusted = some names) (hreadable : e.Readable c)
      (hmatch : e.Matches c names) : Answers e c trusted (.ok true)
  | rejected {names : TextSet} (hactive : e.isActive = true) (htrusted : trusted = some names)
      (hne : names.isEmpty = false) (hreadable : e.Readable c) (hmatch : ¬ e.Matches c names) :
      Answers e c trusted (.ok false)

variable {e : NameEvaluator} {c : Certificate} {trusted : TextSet} {max : LogLevel}

theorem Matches.isActive (h : e.Matches c trusted) : e.isActive = true := by
  cases h <;> simp [NameEvaluator.isActive, *]

theorem Matches.exists_mem (h : e.Matches c trusted) : ∃ s, s ∈ trusted := by
  cases h <;> exact ⟨_, by assumption⟩

theorem Matches.mono {more : TextSet} (h : e.Matches c trusted)
    (hmore : ∀ s ∈ trusted, s ∈ more) : e.Matches c more := by
  cases h with
  | altName hactive hnames hname htype htext htrusted =>
      exact .altName hactive hnames hname htype htext (hmore _ htrusted)
  | commonName hactive hfirst hne htrusted =>
      exact .commonName hactive hfirst hne (hmore _ htrusted)
  | subject hactive htrusted hparse hequal =>
      exact .subject hactive (hmore _ htrusted) hparse hequal

/-- A union of sets matches where one of them does. -/
theorem matches_union {a b : TextSet} :
    e.Matches c (a.union b) ↔ e.Matches c a ∨ e.Matches c b := by
  constructor
  · intro h
    cases h with
    | altName hactive hnames hname htype htext htrusted =>
        exact (TextSet.mem_union.mp htrusted).imp
          (.altName hactive hnames hname htype htext) (.altName hactive hnames hname htype htext)
    | commonName hactive hfirst hne htrusted =>
        exact (TextSet.mem_union.mp htrusted).imp
          (.commonName hactive hfirst hne) (.commonName hactive hfirst hne)
    | subject hactive htrusted hparse hequal =>
        exact (TextSet.mem_union.mp htrusted).imp
          (.subject hactive · hparse hequal) (.subject hactive · hparse hequal)
  · rintro (h | h)
    · exact h.mono fun s hs => TextSet.mem_union.mpr (.inl hs)
    · exact h.mono fun s hs => TextSet.mem_union.mpr (.inr hs)

/-! ## What the checks say -/

theorem exists_fault (h : ¬ e.Readable c) :
    e.checkAltNames = true ∧ ∃ fault, c.subjectAltName = .error fault := by
  obtain ⟨hactive, hnames⟩ := Classical.not_imp.mp h
  cases hread : c.subjectAltName with
  | ok names => exact absurd ⟨names, hread⟩ hnames
  | error fault => exact ⟨hactive, fault, rfl⟩

theorem verdict_of_unreadable {fault : ExtensionFault} (hactive : e.checkAltNames = true)
    (hfault : c.subjectAltName = .error fault) :
    e.verdict c trusted = .error (.invalidCertificate fault.message) := by
  rw [verdict, if_pos hactive, Certificate.altNames, hfault]
  rfl

/-- Alternative names that can be read are looked at one by one. -/
theorem exists_altName (trusted : TextSet) (hreadable : e.Readable c) :
    ∃ found, (if e.checkAltNames then
        (c.altNames e.altNameTypes).map fun names => names.any trusted.contains
      else .ok false) = .ok found ∧
      (found = true ↔ e.checkAltNames = true ∧ ∃ names, c.subjectAltName = .ok (some names) ∧
        ∃ name ∈ names, name.type ∈ e.altNameTypes ∧ ∃ s, name.text? = some s ∧ s ∈ trusted) := by
  cases hactive : e.checkAltNames with
  | false => exact ⟨false, rfl, by simp⟩
  | true =>
      obtain ⟨names, hnames⟩ := hreadable hactive
      rw [if_pos rfl, Certificate.altNames, hnames]
      cases names with
      | none => exact ⟨false, rfl, by simp⟩
      | some names =>
          refine ⟨_, rfl, ?_⟩
          rw [List.any_eq_true]
          simp only [List.mem_filterMap, Option.ite_none_right_eq_some, TextSet.contains_iff,
            true_and, Except.ok.injEq, Option.some.injEq, exists_eq_left']
          constructor
          · rintro ⟨s, ⟨name, hname, htype, htext⟩, htrusted⟩
            exact ⟨name, hname, htype, s, htext, htrusted⟩
          · rintro ⟨name, hname, htype, s, htext, htrusted⟩
            exact ⟨s, ⟨name, hname, htype, htext⟩, htrusted⟩

theorem any_commonName :
    (c.commonNames.head?.any fun name => !name.isEmpty && trusted.contains name) = true ↔
      ∃ s, c.subject.GivesFirst commonNameOid s ∧ s ≠ "" ∧ s ∈ trusted := by
  simp only [Option.any_eq_true, Certificate.commonNames, DistinguishedName.head?_valuesOf,
    Bool.and_eq_true, Bool.not_eq_true', TextSet.contains_iff, ne_eq, ← String.isEmpty_iff,
    Bool.not_eq_true]

theorem any_subject :
    (trusted.toList.any fun name => succeeds (e.handler.parse name) (· == c.subject)) = true ↔
      ∃ s ∈ trusted, ∃ dn, e.handler.parse s = .ok dn ∧ (dn == c.subject) = true := by
  simp only [List.any_eq_true, succeeds_iff]
  exact Iff.rfl

theorem verdict_of_readable (trusted : TextSet) (hreadable : e.Readable c) :
    ∃ passed, e.verdict c trusted = .ok passed ∧ (passed = true ↔ e.Matches c trusted) := by
  obtain ⟨found, hfound, haltName⟩ := exists_altName trusted hreadable
  rw [verdict, hfound]
  refine ⟨_, rfl, ?_⟩
  rw [Bool.or_eq_true, Bool.or_eq_true, Bool.and_eq_true, Bool.and_eq_true, haltName,
    any_commonName, any_subject]
  constructor
  · rintro (⟨hactive, names, hnames, name, hname, htype, s, htext, htrusted⟩ |
      ⟨hactive, s, hfirst, hne, htrusted⟩ | ⟨hactive, s, htrusted, dn, hparse, hequal⟩)
    · exact .altName hactive hnames hname htype htext htrusted
    · exact .commonName hactive hfirst hne htrusted
    · exact .subject hactive htrusted hparse hequal
  · intro h
    cases h with
    | altName hactive hnames hname htype htext htrusted =>
        exact .inl ⟨hactive, _, hnames, _, hname, htype, _, htext, htrusted⟩
    | commonName hactive hfirst hne htrusted =>
        exact .inr (.inl ⟨hactive, _, hfirst, hne, htrusted⟩)
    | subject hactive htrusted hparse hequal =>
        exact .inr (.inr ⟨hactive, _, htrusted, _, hparse, hequal⟩)

/-! ## The evaluation -/

section Evaluation

variable {credential : Credential} (hcertificate : credential.certificate = .ok c)

include hcertificate

/-- With an active check and trusted names, the evaluation is what the checks say. -/
theorem outcome_evaluate_some (hactive : e.isActive = true) (hne : trusted.isEmpty = false) :
    outcome (e.evaluate credential (some trusted)) max = e.verdict c trusted := by
  rw [outcome_evaluate, if_pos hactive, Option.filter_some_pos (by rw [hne]; rfl)]
  dsimp only
  rw [hcertificate]
  rfl

theorem Answers.outcome_eq {trusted : Option TextSet} {answer : Except TrustError Bool}
    (h : e.Answers c trusted answer) : outcome (e.evaluate credential trusted) max = answer := by
  cases h with
  | unchecked hinactive =>
      rw [outcome_evaluate, if_neg (by simp [hinactive])]
  | untrusting hactive hempty =>
      rw [outcome_evaluate, if_pos hactive, Option.filter_eq_none_iff.mpr]
      simpa using hempty
  | unreadable hactive htrusted hne hfault =>
      subst htrusted
      rw [outcome_evaluate_some hcertificate (by simp [NameEvaluator.isActive, hactive]) hne,
        verdict_of_unreadable hactive hfault]
  | accepted htrusted hreadable hmatch =>
      subst htrusted
      obtain ⟨passed, hverdict, hpassed⟩ := verdict_of_readable _ hreadable
      rw [outcome_evaluate_some hcertificate hmatch.isActive
        (TextSet.isEmpty_eq_false_iff.mpr hmatch.exists_mem), hverdict, hpassed.mpr hmatch]
  | rejected hactive htrusted hne hreadable hmatch =>
      subst htrusted
      obtain ⟨passed, hverdict, hpassed⟩ := verdict_of_readable _ hreadable
      rw [outcome_evaluate_some hcertificate hactive hne, hverdict,
        Bool.eq_false_iff.mpr fun h => hmatch (hpassed.mp h)]

end Evaluation

/-- There is an answer for every certificate and all trusted names. -/
theorem exists_answers (e : NameEvaluator) (c : Certificate) (trusted : Option TextSet) :
    ∃ answer, e.Answers c trusted answer := by
  cases hactive : e.isActive with
  | false => exact ⟨_, .unchecked hactive⟩
  | true =>
      by_cases hempty : ∀ names ∈ trusted, names.isEmpty = true
      · exact ⟨_, .untrusting hactive hempty⟩
      · obtain ⟨names, htrusted, hne⟩ : ∃ names ∈ trusted, names.isEmpty = false := by
          simpa using hempty
        by_cases hreadable : e.Readable c
        · by_cases hmatch : e.Matches c names
          · exact ⟨_, .accepted htrusted hreadable hmatch⟩
          · exact ⟨_, .rejected hactive htrusted hne hreadable hmatch⟩
        · obtain ⟨hchecked, fault, hfault⟩ := exists_fault hreadable
          exact ⟨_, .unreadable hchecked htrusted hne hfault⟩

/-- The evaluation answers what it is to answer, and nothing else. -/
theorem outcome_evaluate_iff {credential : Credential}
    (hcertificate : credential.certificate = .ok c) {trusted : Option TextSet}
    {answer : Except TrustError Bool} :
    outcome (e.evaluate credential trusted) max = answer ↔ e.Answers c trusted answer := by
  refine ⟨fun h => ?_, fun h => h.outcome_eq hcertificate⟩
  obtain ⟨answer', h'⟩ := exists_answers e c trusted
  exact (h'.outcome_eq hcertificate).symm.trans h ▸ h'

/-- **Name evaluation is exact.** A credential that came about has a decoded certificate, and the
evaluation answers what it is to answer for that. So over sets of trusted names it is a
disjunction, unless alternative names cannot be read, which is one failure for all of them; and
trusted names that are added never take an acceptance away. -/
theorem evaluate_exact (e : NameEvaluator) {credential : Credential}
    (hcredential : credential.Presented) (max : LogLevel) :
    ∃ c, credential.certificate = .ok c ∧
      (∀ trusted answer, outcome (e.evaluate credential trusted) max = answer ↔
        e.Answers c trusted answer) ∧
      (∀ a b : TextSet, e.isActive = true → a.isEmpty = false → b.isEmpty = false →
        (∃ fault, ∀ names ∈ [a, b, a.union b],
          outcome (e.evaluate credential (some names)) max = .error fault) ∨
        ∃ inA inB, outcome (e.evaluate credential (some a)) max = .ok inA ∧
          outcome (e.evaluate credential (some b)) max = .ok inB ∧
          outcome (e.evaluate credential (some (a.union b))) max = .ok (inA || inB)) ∧
      ∀ before after : Option TextSet, (∀ names ∈ before, ∃ more ∈ after, ∀ s ∈ names, s ∈ more) →
        outcome (e.evaluate credential before) max = .ok true →
          outcome (e.evaluate credential after) max = .ok true := by
  obtain ⟨c, hc⟩ := hcredential.exists_certificate
  refine ⟨c, hc, fun trusted answer => outcome_evaluate_iff hc, fun a b hactive ha hb => ?_,
    fun before after hmore h => ?_⟩
  · have hunion : (a.union b).isEmpty = false := by
      obtain ⟨s, hs⟩ := TextSet.isEmpty_eq_false_iff.mp ha
      exact TextSet.isEmpty_eq_false_iff.mpr ⟨s, TextSet.mem_union.mpr (.inl hs)⟩
    simp only [List.forall_mem_cons, outcome_evaluate_some hc hactive ha,
      outcome_evaluate_some hc hactive hb, outcome_evaluate_some hc hactive hunion]
    by_cases hreadable : e.Readable c
    · obtain ⟨inA, hA, hinA⟩ := verdict_of_readable a hreadable
      obtain ⟨inB, hB, hinB⟩ := verdict_of_readable b hreadable
      obtain ⟨inUnion, hverdict, hinUnion⟩ := verdict_of_readable (a.union b) hreadable
      refine .inr ⟨inA, inB, hA, hB, hverdict.trans (congrArg Except.ok ?_)⟩
      rw [Bool.eq_iff_iff, Bool.or_eq_true, hinUnion, hinA, hinB, matches_union]
    · obtain ⟨hchecked, fault, hfault⟩ := exists_fault hreadable
      have hverdict : ∀ names, e.verdict c names = .error (.invalidCertificate fault.message) :=
        fun names => verdict_of_unreadable hchecked hfault
      exact .inl ⟨_, hverdict a, hverdict b, hverdict _, by simp⟩
  · rw [outcome_evaluate_iff hc] at h ⊢
    cases h with
    | unchecked hinactive => exact .unchecked hinactive
    | accepted htrusted hreadable hmatch =>
        obtain ⟨more, hafter, hsubset⟩ := hmore _ htrusted
        exact .accepted hafter hreadable (hmatch.mono hsubset)

/-- A certificate with the common name `a` and the host name `b`. -/
def sampleNamed : Octets :=
  Octets.ofNat 34 0x30643058020101300506032b65703000301e170d3730303130313030303030305a17
    ++ Octets.ofNat 34 0x0d3730303130313030303030305a300c310a300806035504030c0161300a30050603
    ++ Octets.ofNat 34 0x2b6570030100a310300e300c0603551d1104053003820162300506032b6570030100

/-- The sample passes by its host name, and still does where another name is trusted as well. -/
theorem sample_more_names :
    Credential.new sampleNamed = .ok ⟨sampleNamed, [], [], none⟩ ∧
      outcome (({} : NameEvaluator).evaluate ⟨sampleNamed, [], [], none⟩
        (some (.ofList ["b", "c"]))) .off = .ok true := by
  have hnew : Credential.new sampleNamed = .ok ⟨sampleNamed, [], [], none⟩ := by decide +kernel
  have hfirst : outcome (({} : NameEvaluator).evaluate ⟨sampleNamed, [], [], none⟩
      (some (.singleton "b"))) .off = .ok true := by decide +kernel
  obtain ⟨c, -, -, -, hmore⟩ := evaluate_exact {} (.new hnew) .off
  refine ⟨hnew, hmore _ _ ?_ hfirst⟩
  intro names hnames
  obtain rfl := Option.mem_some_iff.mp hnames
  refine ⟨_, rfl, fun s hs => TextSet.mem_ofList.mpr ?_⟩
  rw [TextSet.mem_singleton.mp hs]
  exact List.mem_cons_self ..

end NameEvaluator

end TrustPath
