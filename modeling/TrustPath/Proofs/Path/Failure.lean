import TrustPath.Proofs.Orchestration
import TrustPath.Proofs.Path.Growth

/-!
# What an evaluation can fail for

A credential is untrusted, so nothing that it holds may turn the
evaluation into an error: an error could rule out sets of validation
information that would have answered. An evaluation fails for a fault of
the information alone (`PathEvaluator.FailsByInfo`), and then with the
first of them: there are no anchors, or one does not decode, or a
revocation list does not.

The argument has two halves. A credential cannot come about unless all
it holds decodes (`Credential.Presented`), so once the information
decodes there is a path problem; and the search in a path problem always
comes to an answer, as every fault of a certificate on the way is a
rejection and not an error.

All these errors are recoverable, and a resolver with fixed material has
none of its own. What is left to an engine are the errors of its
evaluator of names.
-/

namespace TrustPath

open PathStore (decodeAll firstFault_of_decodeAll exists_decodeAll)

theorem exists_firstFault {α : Type} {decode : Octets → Except TrustError α} {ders : List Octets}
    (h : ¬ ∀ der ∈ ders, ∃ a, decode der = .ok a) :
    ∃ error, decodeAll decode ders = .error error ∧ FirstFault decode ders error := by
  cases hall : decodeAll decode ders with
  | ok as => exact absurd (exists_decodeAll.mp ⟨as, hall⟩) h
  | error error => exact ⟨error, rfl, firstFault_of_decodeAll hall⟩

namespace PathEvaluator

variable {e : PathEvaluator} {now : Int} {info : ValidationInfo} {credential : Credential}
  {max : LogLevel}

/-! ## One set of information -/

/-- Every revocation list of the information decodes. -/
def CrlsDecode (info : ValidationInfo) : Prop :=
  ∀ der ∈ info.crls, ∃ crl, Crl.decode der = .ok crl

/-- An answer that is an error only by a fault of the information: it has
no anchors, or else the first anchor that does not decode is at fault, or
else the first revocation list that does not decode. -/
structure FailsByInfo (info : ValidationInfo) (answer : PathResult) : Prop where
  noAnchors : info.anchors = [] → answer = .fatal .noTrustAnchors
  badAnchor : ¬ AnchorsDecode info → ∃ detail,
    FirstFault Certificate.decode info.anchors (.invalidCertificate detail)
      ∧ answer = .fatal (.invalidCertificate detail)
  badCrl : info.anchors ≠ [] → AnchorsDecode info → ¬ CrlsDecode info → ∃ detail,
    FirstFault Crl.decode info.crls (.invalidCrl detail) ∧ answer = .fatal (.invalidCrl detail)
  sound : info.anchors ≠ [] → AnchorsDecode info → CrlsDecode info →
    answer = .found ∨ answer = .notFound

/-- An anchor that does not decode is the answer, whatever else is there. -/
theorem value_buildPath_of_badAnchor {error : TrustError}
    (herror : decodeAll Certificate.decode info.anchors = .error error) :
    (e.buildPath now info credential).value max = .fatal error := by
  have hne : info.anchors ≠ [] := by
    intro hnone
    rw [hnone] at herror
    cases herror
  rw [value_buildPath, outcome_attempt, problem?, List.isEmpty_eq_false_iff.mpr hne, herror]
  rfl

/-- A fault among the lists of the information comes before everything
that the credential presents. -/
theorem decodeAll_presentedCrls_of_error {error : TrustError}
    (herror : decodeAll Crl.decode info.crls = .error error) :
    decodeAll Crl.decode (e.presentedCrls info credential) = .error error := by
  rw [presentedCrls, PathStore.decodeAll_append, herror]
  rfl

/-- What a credential presents adds no fault to sound lists. -/
theorem exists_decodeAll_presentedCrls (hcredential : credential.Presented)
    (hcrls : CrlsDecode info) :
    ∃ lists, decodeAll Crl.decode (e.presentedCrls info credential) = .ok lists := by
  refine exists_decodeAll.mpr fun der hder => ?_
  rcases List.mem_append.mp hder with hder | hder
  · exact hcrls der hder
  · split at hder
    · exact hcredential.crls_decode der hder
    · exact absurd hder List.not_mem_nil

/-- A credential that came about does not make its evaluation fail. -/
theorem failsByInfo_buildPath (hcredential : credential.Presented) :
    FailsByInfo info ((e.buildPath now info credential).value max) where
  noAnchors := value_buildPath_of_noAnchors
  badAnchor := by
    intro hbad
    obtain ⟨error, herror, hfirst⟩ := exists_firstFault hbad
    obtain ⟨before, der, after, hsplit, hbefore, hder⟩ := hfirst
    obtain ⟨detail, rfl⟩ := Certificate.decode_eq_error hder
    exact ⟨detail, ⟨before, der, after, hsplit, hbefore, hder⟩, value_buildPath_of_badAnchor herror⟩
  badCrl := by
    intro hne hanchors hbad
    obtain ⟨error, herror, hfirst⟩ := exists_firstFault hbad
    obtain ⟨before, der, after, hsplit, hbefore, hder⟩ := hfirst
    obtain ⟨detail, rfl⟩ := Crl.decode_eq_error hder
    exact ⟨detail, ⟨before, der, after, hsplit, hbefore, hder⟩, value_buildPath_of_badCrl hcredential
      hanchors hne (decodeAll_presentedCrls_of_error herror)⟩
  sound := by
    intro hne hanchors hcrls
    obtain ⟨lists, hlists⟩ := exists_decodeAll_presentedCrls (e := e) hcredential hcrls
    obtain ⟨p, hp⟩ := exists_poses hcredential hanchors hne now hlists
    exact hp.answered max

/-- Every fault of validation information leaves the other sets to be
tried. -/
theorem FailsByInfo.recoverable {answer : PathResult} (h : FailsByInfo info answer)
    {error : TrustError} (herror : answer.toExcept = .error error) : error.isRecoverable = true := by
  by_cases hne : info.anchors = []
  · rw [h.noAnchors hne] at herror
    cases herror
    rfl
  · by_cases hanchors : AnchorsDecode info
    · by_cases hcrls : CrlsDecode info
      · rcases h.sound hne hanchors hcrls with hanswer | hanswer <;> rw [hanswer] at herror <;>
          cases herror
      · obtain ⟨detail, -, hanswer⟩ := h.badCrl hne hanchors hcrls
        rw [hanswer] at herror
        cases herror
        rfl
    · obtain ⟨detail, -, hanswer⟩ := h.badAnchor hanchors
      rw [hanswer] at herror
      cases herror
      rfl

/-! ## An engine with fixed material -/

/-- The engine that evaluates paths at a time, over fixed material. -/
def engine (e : PathEvaluator) (now : Int) (resolver : StaticResolver)
    (evaluateNames : Option (Credential → TextSet → Logging (Except TrustError Bool))) :
    TrustEngine Logging where
  resolver := resolver.asPart
  evaluatePath := e.validate now
  evaluateNames := evaluateNames

/-- Sets of information whose errors are all recoverable settle without
an error. -/
theorem settled_ne_error {outcome : ValidationInfo → Except TrustError Bool}
    (hrecoverable : ∀ info error, outcome info = .error error → error.isRecoverable = true)
    {infos tried : List ValidationInfo} {result : Except TrustError Bool}
    (h : TrustEngine.Settled outcome infos result tried) (error : TrustError) :
    result ≠ .error error := by
  cases h with
  | undecided _ => exact nofun
  | @decided before info after _ hdecides =>
      intro herror
      rcases hdecides with hfound | ⟨error', hfatal, hnot⟩
      · rw [hfound] at herror
        cases herror
      · rw [hrecoverable info error' hfatal] at hnot
        cases hnot

/-- An engine with fixed material fails exactly when its evaluator of
names does. -/
theorem engine_error_iff (hcredential : credential.Presented) {resolver : StaticResolver}
    {evaluateNames : Option (Credential → TextSet → Logging (Except TrustError Bool))}
    {criteria : Criteria} {error : TrustError} :
    Logging.outcome ((e.engine now resolver evaluateNames).validate credential criteria) max
        = .error error ↔
      ∃ evaluate, evaluateNames = some evaluate
        ∧ (evaluate credential (resolver.trustedNamesFor criteria)).value max = .error error := by
  constructor
  · intro hfails
    obtain ⟨result, calls, h⟩ : ∃ result calls, TrustEngine.Orchestrated
        (e.engine now resolver evaluateNames) credential criteria max result calls :=
      TrustEngine.exists_orchestrated
    have hresult : result = .error error := h.runs.outcome.symm.trans hfails
    cases h with
    | namesUnresolved _ hnames _ => cases hnames
    | @namesNotPassed trusted _ evaluate _ hnames hsome hanswer _ =>
        obtain rfl : resolver.trustedNamesFor criteria = trusted := Except.ok.inj hnames
        exact ⟨evaluate, hsome, hanswer.trans hresult⟩
    | infosUnresolved _ hinfos _ => cases hinfos
    | tried _ _ hsettled =>
        refine absurd hresult (settled_ne_error (fun info error' herror => ?_) hsettled error)
        exact (failsByInfo_buildPath hcredential).recoverable herror
  · rintro ⟨evaluate, hsome, hanswer⟩
    have h : TrustEngine.Orchestrated (e.engine now resolver evaluateNames) credential criteria max
        (.error error) [.supportsTrustedNames, .trustedNames criteria,
          .evaluateNames credential (resolver.trustedNamesFor criteria)] :=
      .namesNotPassed rfl rfl hsome hanswer nofun
    exact h.runs.outcome

/-- An untrusted credential never makes an evaluation fail: its errors
are those of the information. An engine with fixed material then fails
only as its evaluator of names does. -/
theorem fails_only_by_info (e : PathEvaluator) (now : Int) (info : ValidationInfo)
    (credential : Credential) (max : LogLevel) (hcredential : credential.Presented) :
    FailsByInfo info ((e.buildPath now info credential).value max)
      ∧ ∀ (resolver : StaticResolver)
          (evaluateNames : Option (Credential → TextSet → Logging (Except TrustError Bool)))
          (criteria : Criteria) (error : TrustError),
        Logging.outcome ((e.engine now resolver evaluateNames).validate credential criteria) max
            = .error error ↔
          ∃ evaluate, evaluateNames = some evaluate
            ∧ (evaluate credential (resolver.trustedNamesFor criteria)).value max = .error error :=
  ⟨failsByInfo_buildPath hcredential, fun _ _ _ _ => engine_error_iff hcredential⟩

/-- A revocation list of an issuer without a name. -/
def sampleCrl : Octets :=
  Octets.ofNat 38
    0x30243018300506032b65703000170d3730303130313030303030305a300506032b6570030100

/-- The sample with its chain and with a revocation list. -/
def sampleListed : Credential := { sampleChained with crls := [sampleCrl] }

theorem presented_sampleListed : sampleListed.Presented := by
  have hnew : Credential.new Candidate.sampleHidden
      = .ok ⟨Candidate.sampleHidden, [], [], none⟩ := by decide +kernel
  have hchain : Credential.withChain ⟨Candidate.sampleHidden, [], [], none⟩
      [Candidate.sampleAuthority] = .ok sampleChained := by decide +kernel
  have hcrls : sampleChained.withCrls [sampleCrl] = .ok sampleListed := by decide +kernel
  exact ((Credential.Presented.new hnew).withChain hchain).withCrls hcrls

/-- The sample against information with an empty revocation list behind
a sound one: the empty list is the answer. Without it there is no error. -/
theorem sample_fails_by_crl :
    (∃ detail, (({} : PathEvaluator).buildPath 1000000000
        ⟨[Candidate.sampleAnchor], [sampleCrl, []], some 1⟩ sampleListed).value .off
      = .fatal (.invalidCrl detail))
    ∧ ((({} : PathEvaluator).buildPath 1000000000
          ⟨[Candidate.sampleAnchor], [sampleCrl], some 1⟩ sampleListed).value .off = .found
      ∨ (({} : PathEvaluator).buildPath 1000000000
          ⟨[Candidate.sampleAnchor], [sampleCrl], some 1⟩ sampleListed).value .off
            = .notFound) := by
  have hanchors : ∀ crls, AnchorsDecode ⟨[Candidate.sampleAnchor], crls, some 1⟩ :=
    fun _ => sample_anchorsDecode (by simp)
  have hbad : ¬ CrlsDecode ⟨[Candidate.sampleAnchor], [sampleCrl, []], some 1⟩ := by
    intro h
    obtain ⟨crl, hcrl⟩ := h [] (by simp)
    cases hcrl
  have hsound : CrlsDecode ⟨[Candidate.sampleAnchor], [sampleCrl], some 1⟩ :=
    Bundle.checkAll_eq_ok.mp (by decide +kernel)
  constructor
  · obtain ⟨detail, -, hanswer⟩ :=
      (fails_only_by_info {} 1000000000 ⟨[Candidate.sampleAnchor], [sampleCrl, []], some 1⟩
        sampleListed .off presented_sampleListed).1.badCrl (List.cons_ne_nil _ _) (hanchors _) hbad
    exact ⟨detail, hanswer⟩
  · exact (fails_only_by_info {} 1000000000 _ sampleListed .off presented_sampleListed).1.sound
      (List.cons_ne_nil _ _) (hanchors _) hsound

end PathEvaluator

end TrustPath
