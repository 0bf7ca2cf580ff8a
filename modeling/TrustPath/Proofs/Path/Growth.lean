import TrustPath.Proofs.Path.Budget
import TrustPath.Proofs.Path.Evaluation

/-!
# More material

A search that has more to work with looks at other partial paths in
another order, yet it loses nothing. The argument goes through the tree
and not through the search: every partial path of the smaller problem is
one of the larger (`PathProblem.Reached.grow`), a candidate depends on
nothing but the path, the anchor, the revocation lists and the
parameters, so it completes there as well, and the larger walk can only
miss it by giving up (`PathProblem.Grows.solve`).

`PathEvaluator.Extends` is the same relation between evaluations, where
certificates are encodings and their order and repetition do not matter.
A short chain never makes a search give up (`PathEvaluator.not_gaveUp`).
-/

namespace TrustPath

namespace PathProblem

/-- A problem with all the material of another, in any order, and with
at least its depth. -/
structure Grows (p q : PathProblem) : Prop where
  target : q.target = p.target
  anchors : ∀ c ∈ p.anchors, c ∈ q.anchors
  pool : ∀ c ∈ p.pool, c ∈ q.pool
  crls : q.crls = p.crls
  depth : NoDeeper p.parameters.maxPathLength q.parameters.maxPathLength
  revocation : q.parameters.revocationEnabled = p.parameters.revocationEnabled
  policy : q.parameters.policy = p.parameters.policy
  now : q.parameters.now = p.parameters.now
  holds : q.holds = p.holds

variable {p q : PathProblem}

theorem Grows.issues (h : Grows p q) (issuer child : Certificate) :
    q.issues issuer child = p.issues issuer child := by
  rw [PathProblem.issues, PathProblem.issues, h.holds]

theorem Grows.lastOf (h : Grows p q) (above : List Certificate) :
    q.lastOf above = p.lastOf above := by
  cases above with
  | nil => exact h.target
  | cons c rest => rfl

theorem Grows.hasRoom (h : Grows p q) {above : List Certificate} (hroom : p.hasRoom above = true) :
    q.hasRoom above = true := by
  obtain ⟨hlength, hlimit⟩ := hasRoom_iff.mp hroom
  exact hasRoom_iff.mpr ⟨hlength, hlimit.of_noDeeper h.depth⟩

theorem Grows.extensions (h : Grows p q) {above : List Certificate} {c : Certificate}
    (hc : c ∈ p.extensions above) : c ∈ q.extensions above := by
  obtain ⟨hpool, hissues, hfresh⟩ := mem_extensions.mp hc
  refine mem_extensions.mpr ⟨h.pool c hpool, ?_, ?_⟩
  · rw [h.issues, h.lastOf]
    exact hissues
  · rw [h.target]
    exact hfresh

/-- Every partial path is one of the larger problem too. -/
theorem Reached.grow (h : Grows p q) {above : List Certificate} (hreached : p.Reached above) :
    q.Reached above := by
  induction hreached with
  | target => exact .target
  | extend _ hroom hc ih => exact ih.extend (h.hasRoom hroom) (h.extensions hc)

theorem Grows.accepted? (h : Grows p q) {above : List Certificate} {built : BuiltPath}
    (hbuilt : p.accepted? above = some built) : (q.accepted? above).isSome = true := by
  obtain ⟨-, hanchor, hissues, hacceptable⟩ := accepted?_eq_some hbuilt
  refine accepted?_isSome (h.anchors _ hanchor) ?_ ?_
  · rw [h.issues, h.lastOf]
    exact hissues
  · rw [h.target, h.holds, h.crls]
    exact hacceptable.of_deeper h.depth h.revocation h.policy h.now

/-- What is solved in a problem is solved in a larger one, unless the
search gives up there. -/
theorem Grows.solve (h : Grows p q) {built : BuiltPath} (hsolve : p.solve.1 = .ok built) :
    (∃ built', q.solve.1 = .ok built') ∨ q.solve.1 = .error .budgetExceeded := by
  rw [solve_eq_answer] at hsolve ⊢
  cases hq : q.anchors.find? (·.der == q.target.der) with
  | some anchor => exact Or.inl ⟨_, rfl⟩
  | none =>
      -- no anchor of the larger problem is the target, so none of the smaller one is
      have hp : p.anchors.find? (·.der == p.target.der) = none := by
        rw [List.find?_eq_none] at hq ⊢
        exact fun anchor hanchor => h.target ▸ hq anchor (h.anchors anchor hanchor)
      rw [hp] at hsolve
      obtain ⟨above, hreached, hbuilt⟩ := answer_eq_ok hsolve
      exact answer_of_accepted (hreached.grow h) (h.accepted? hbuilt)

end PathProblem

namespace PathEvaluator

variable {e : PathEvaluator} {now : Int} {info info' : ValidationInfo}
  {credential credential' : Credential}

/-- An evaluation of the same entity with the same revocation lists, with
every certificate of the chain and every anchor of another, and with at
least its depth. -/
structure Extends (e : PathEvaluator) (info info' : ValidationInfo)
    (credential credential' : Credential) : Prop where
  entity : credential'.entity = credential.entity
  chain : ∀ der ∈ credential.chain, der ∈ credential'.chain
  crls : e.presentedCrls info' credential' = e.presentedCrls info credential
  anchors : ∀ der ∈ info.anchors, der ∈ info'.anchors
  depth : NoDeeper (e.depth info) (e.depth info')

/-- Every anchor of the information decodes. -/
def AnchorsDecode (info : ValidationInfo) : Prop :=
  ∀ der ∈ info.anchors, ∃ c, Certificate.decode der = .ok c

/-- The search gave up. -/
def GaveUp (e : PathEvaluator) (now : Int) (info : ValidationInfo) (credential : Credential)
    (max : LogLevel) : Prop :=
  Logging.outcome (e.attempt now info credential) max = .ok (.error .budgetExceeded)

/-- An evaluation of a credential against anchors that decode poses a
problem, unless there are no anchors or a revocation list does not
decode. -/
theorem exists_poses (hcredential : credential.Presented) (hanchors : AnchorsDecode info)
    (hne : info.anchors ≠ []) (now : Int) {lists : List Crl}
    (hlists : PathStore.decodeAll Crl.decode (e.presentedCrls info credential) = .ok lists) :
    ∃ p, e.Poses now info credential p := by
  obtain ⟨anchors, hdecoded⟩ := PathStore.exists_decodeAll.mpr hanchors
  obtain ⟨pool, hpool⟩ := PathStore.exists_decodeAll.mpr hcredential.chain_decodes
  obtain ⟨target, htarget⟩ := hcredential.exists_certificate
  let crls := lists.filter (PathStore.admits e.options now)
  exact ⟨{ target, anchors, pool, crls, parameters := e.parameters info ⟨pool, crls⟩ now },
    hne, hdecoded, htarget, hpool, ⟨lists, hlists, rfl⟩, rfl, rfl⟩

/-- Material that extends other material poses a larger problem. -/
theorem Extends.grows (h : e.Extends info info' credential credential') {p q : PathProblem}
    (hp : e.Poses now info credential p) (hq : e.Poses now info' credential' q) :
    p.Grows q := by
  have hmem : ∀ {ders ders' : List Octets} {cs cs' : List Certificate},
      PathStore.decodeAll Certificate.decode ders = .ok cs →
      PathStore.decodeAll Certificate.decode ders' = .ok cs' →
      (∀ der ∈ ders, der ∈ ders') → ∀ c ∈ cs, c ∈ cs' := by
    intro ders ders' cs cs' hcs hcs' hsub c hc
    obtain ⟨der, hder, hdecode⟩ := (PathStore.mem_decodeAll hcs).mp hc
    exact (PathStore.mem_decodeAll hcs').mpr ⟨der, hsub der hder, hdecode⟩
  have hcrls : q.crls = p.crls := by
    obtain ⟨lists, hlists, hp⟩ := hp.crls
    obtain ⟨lists', hlists', hq⟩ := hq.crls
    rw [h.crls, hlists] at hlists'
    obtain rfl := Except.ok.inj hlists'
    exact hq.symm.trans hp
  have htarget : q.target = p.target := by
    have hboth := hq.target
    rw [Credential.certificate, h.entity] at hboth
    exact Except.ok.inj (hboth.symm.trans hp.target)
  refine ⟨htarget, hmem hp.anchors hq.anchors h.anchors, hmem hp.pool hq.pool h.chain, hcrls, ?_,
    ?_, ?_, ?_, hq.holds.trans hp.holds.symm⟩ <;> rw [← hp.parameters, ← hq.parameters]
  · exact h.depth
  · show e.checksRevocation ⟨q.pool, q.crls⟩ = e.checksRevocation ⟨p.pool, p.crls⟩
    rw [hcrls]
    rfl
  · rfl
  · rfl

/-- The search of an evaluation that poses a problem. -/
theorem Poses.attempt {p : PathProblem} (hp : e.Poses now info credential p) (max : LogLevel) :
    Logging.outcome (e.attempt now info credential) max = .ok p.solve.1 := by
  rw [outcome_attempt, problem?_eq_ok.mpr hp]
  rfl

/-- Where there is a path problem there is an answer. -/
theorem Poses.answered {p : PathProblem} (hp : e.Poses now info credential p) (max : LogLevel) :
    (e.buildPath now info credential).value max = .found
      ∨ (e.buildPath now info credential).value max = .notFound := by
  rw [value_buildPath, hp.attempt]
  cases p.solve.1 with
  | ok built => exact Or.inl rfl
  | error failure => exact Or.inr rfl

/-- What is found with some material is found with more, unless the
search gives up there. -/
theorem Extends.found (h : e.Extends info info' credential credential')
    (hcredential : credential'.Presented) (hanchors : AnchorsDecode info') (now : Int)
    (max max' : LogLevel) (hfound : (e.buildPath now info credential).value max = .found) :
    (e.buildPath now info' credential').value max' = .found
      ∨ e.GaveUp now info' credential' max' := by
  obtain ⟨p, hp, built, hsolve⟩ := value_buildPath_eq_found.mp hfound
  obtain ⟨lists, hlists, -⟩ := hp.crls
  have hne : info'.anchors ≠ [] := by
    obtain ⟨der, hder⟩ := List.exists_mem_of_ne_nil _ hp.anchored
    exact List.ne_nil_of_mem (h.anchors der hder)
  obtain ⟨q, hq⟩ := exists_poses hcredential hanchors hne now (h.crls ▸ hlists)
  rcases (h.grows hp hq).solve hsolve with hbuilt | hgaveUp
  · exact Or.inl (value_buildPath_eq_found.mpr ⟨q, hq, hbuilt⟩)
  · right
    rw [GaveUp, hq.attempt, hgaveUp]

/-- Without anchors an evaluation answers nothing. -/
theorem value_buildPath_of_noAnchors {max : LogLevel} (h : info.anchors = []) :
    (e.buildPath now info credential).value max = .fatal .noTrustAnchors := by
  rw [value_buildPath, outcome_attempt, problem?, h]
  rfl

/-- A revocation list that does not decode is the answer, if everything
else does. -/
theorem value_buildPath_of_badCrl (hcredential : credential.Presented)
    (hanchors : AnchorsDecode info) (hne : info.anchors ≠ []) {error : TrustError}
    (herror : PathStore.decodeAll Crl.decode (e.presentedCrls info credential) = .error error)
    {max : LogLevel} : (e.buildPath now info credential).value max = .fatal error := by
  obtain ⟨anchors, hdecoded⟩ := PathStore.exists_decodeAll.mpr hanchors
  obtain ⟨pool, hpool⟩ := PathStore.exists_decodeAll.mpr hcredential.chain_decodes
  obtain ⟨target, htarget⟩ := hcredential.exists_certificate
  rw [value_buildPath, outcome_attempt, problem?, List.isEmpty_eq_false_iff.mpr hne, hdecoded,
    hpool, herror, show credential.certificate = .ok target from htarget]
  rfl

/-- More material never loses a path: what one evaluation finds, another
with all its material and at least its depth finds too, unless it gives
up. Two evaluations with the same material, in whatever order and
however often repeated, answer alike if neither gives up. -/
theorem more_never_loses (e : PathEvaluator) (now : Int) (info info' : ValidationInfo)
    (credential credential' : Credential) (max max' : LogLevel)
    (hcredential : credential'.Presented) (hanchors : AnchorsDecode info')
    (h : e.Extends info info' credential credential') :
    ((e.buildPath now info credential).value max = .found →
        (e.buildPath now info' credential').value max' = .found
          ∨ e.GaveUp now info' credential' max')
      ∧ (credential.Presented → e.Extends info' info credential' credential →
        ¬ e.GaveUp now info credential max → ¬ e.GaveUp now info' credential' max' →
        (e.buildPath now info credential).value max
          = (e.buildPath now info' credential').value max') := by
  refine ⟨h.found hcredential hanchors now max max', fun hfirst hback hsearched hsearched' => ?_⟩
  have hanchors' : AnchorsDecode info := fun der hder => hanchors der (h.anchors der hder)
  by_cases hne : info.anchors = []
  · have hne' : info'.anchors = [] :=
      List.eq_nil_iff_forall_not_mem.mpr fun der hder => by
        have hin := hback.anchors der hder
        rw [hne] at hin
        exact List.not_mem_nil hin
    rw [value_buildPath_of_noAnchors hne, value_buildPath_of_noAnchors hne']
  · have hne' : info'.anchors ≠ [] := by
      obtain ⟨der, hder⟩ := List.exists_mem_of_ne_nil _ hne
      exact List.ne_nil_of_mem (h.anchors der hder)
    cases hlists : PathStore.decodeAll Crl.decode (e.presentedCrls info credential) with
    | error error =>
        rw [value_buildPath_of_badCrl hfirst hanchors' hne hlists,
          value_buildPath_of_badCrl hcredential hanchors hne' (h.crls ▸ hlists)]
    | ok lists =>
        obtain ⟨p, hp⟩ := exists_poses hfirst hanchors' hne now hlists
        obtain ⟨q, hq⟩ := exists_poses hcredential hanchors hne' now (h.crls ▸ hlists)
        have hforth := h.found hcredential hanchors now max max'
        have hback := hback.found hfirst hanchors' now max' max
        rw [value_buildPath, value_buildPath, hp.attempt, hq.attempt] at hforth hback ⊢
        rcases hpsolve : p.solve.1 with failure | built <;>
          rcases hqsolve : q.solve.1 with failure' | built'
        · rfl
        · rw [hpsolve, hqsolve] at hback
          rcases hback rfl with hcontra | hgaveUp
          · cases hcontra
          · exact absurd hgaveUp hsearched
        · rw [hpsolve, hqsolve] at hforth
          rcases hforth rfl with hcontra | hgaveUp
          · cases hcontra
          · exact absurd hgaveUp hsearched'
        · rfl

/-! ## Short chains -/

/-- At most the rest of the chain may go on a path. -/
theorem Poses.length_unused_le {p : PathProblem} (hp : e.Poses now info credential p) :
    (p.unused []).length ≤ credential.others.length := by
  obtain ⟨target, htarget, others, hothers, hpool⟩ := PathStore.decodeAll_cons_eq_ok.mp hp.pool
  obtain rfl : target = p.target := Except.ok.inj (htarget.symm.trans hp.target)
  rw [PathProblem.unused, ← hpool, List.filter_cons_of_neg (by simp),
    ← PathStore.length_decodeAll hothers]
  exact List.length_filter_le ..

/-- With at most five certificates besides the entity's the search never
gives up, whatever they are. -/
theorem not_gaveUp (hfew : credential.others.length ≤ 5) (max : LogLevel) :
    ¬ e.GaveUp now info credential max := by
  intro hgaveUp
  rw [GaveUp, outcome_attempt] at hgaveUp
  cases hp : e.problem? now info credential with
  | error error => rw [hp] at hgaveUp; cases hgaveUp
  | ok p =>
      rw [hp] at hgaveUp
      exact PathProblem.solve_ne_budgetExceeded
        ((problem?_eq_ok.mp hp).length_unused_le.trans hfew) (Except.ok.inj hgaveUp)

/-! ## A sample -/

/-- The sample with its chain out of order and an authority repeated. -/
def sampleRepeated : Credential :=
  ⟨Candidate.sampleHidden,
    [Candidate.sampleAuthority, Candidate.sampleHidden, Candidate.sampleAuthority], [], none⟩

/-- The sample with one more certificate in front of the chain. -/
def sampleEnlarged : Credential :=
  ⟨Candidate.sampleHidden, [sampleCertificate, Candidate.sampleAuthority], [], none⟩

theorem sample_decodes : ∀ der ∈ [Candidate.sampleAnchor, sampleCertificate,
    Candidate.sampleAuthority, Candidate.sampleHidden], ∃ c, Certificate.decode der = .ok c :=
  Bundle.checkAll_eq_ok.mp (by decide +kernel)

theorem sample_anchorsDecode
    (h : info.anchors ⊆ [Candidate.sampleAnchor, sampleCertificate]) : AnchorsDecode info :=
  fun der hder => sample_decodes der (List.mem_append_left _ (h hder))

theorem sample_presented {others : List Octets}
    (h : others ⊆ [sampleCertificate, Candidate.sampleAuthority, Candidate.sampleHidden]) :
    Credential.Presented ⟨Candidate.sampleHidden, others, [], none⟩ := by
  refine .of_decodes fun der hder => sample_decodes der (List.mem_cons_of_mem _ ?_)
  rcases List.mem_cons.mp hder with rfl | hder
  · simp
  · exact h hder

/-- The sample is found again with another anchor, another certificate in
its chain and no limit on the depth. It is answered alike, and so found,
with its chain out of order and with certificates repeated. -/
theorem sample_found_again :
    (({} : PathEvaluator).buildPath 1000000000
        ⟨[sampleCertificate, Candidate.sampleAnchor], [], some (-1)⟩ sampleEnlarged).value .off
      = .found
    ∧ (({} : PathEvaluator).buildPath 1000000000 sampleInfo sampleChained).value .off
      = (({} : PathEvaluator).buildPath 1000000000
          ⟨[Candidate.sampleAnchor, Candidate.sampleAnchor], [], some 1⟩ sampleRepeated).value .off
    ∧ (({} : PathEvaluator).buildPath 1000000000
          ⟨[Candidate.sampleAnchor, Candidate.sampleAnchor], [], some 1⟩ sampleRepeated).value .off
      = .found := by
  constructor
  · have hlarger : ({} : PathEvaluator).Extends sampleInfo
        ⟨[sampleCertificate, Candidate.sampleAnchor], [], some (-1)⟩ sampleChained sampleEnlarged :=
      { entity := rfl
        chain := by simp [sampleChained, sampleEnlarged, Credential.chain]
        crls := rfl
        anchors := by simp [sampleInfo]
        depth := fun hdepth => absurd hdepth (by decide) }
    exact ((more_never_loses {} 1000000000 _ _ _ _ .off .off (sample_presented (by simp))
      (sample_anchorsDecode (by simp)) hlarger).1 sample_found).resolve_right
        (not_gaveUp (by decide) .off)
  · have hforth : ({} : PathEvaluator).Extends sampleInfo
        ⟨[Candidate.sampleAnchor, Candidate.sampleAnchor], [], some 1⟩ sampleChained
        sampleRepeated :=
      { entity := rfl
        chain := by simp [sampleChained, sampleRepeated, Credential.chain]
        crls := rfl
        anchors := by simp [sampleInfo]
        depth := fun _ => by decide }
    have hback : ({} : PathEvaluator).Extends
        ⟨[Candidate.sampleAnchor, Candidate.sampleAnchor], [], some 1⟩ sampleInfo sampleRepeated
        sampleChained :=
      { entity := rfl
        chain := by simp [sampleChained, sampleRepeated, Credential.chain]
        crls := rfl
        anchors := by simp [sampleInfo]
        depth := fun _ => by decide }
    have halike := (more_never_loses {} 1000000000 _ _ _ _ .off .off (sample_presented (by simp))
      (sample_anchorsDecode (by simp)) hforth).2 (sample_presented (by simp)) hback
        (not_gaveUp (by decide) .off) (not_gaveUp (by decide) .off)
    exact ⟨halike, halike.symm.trans sample_found⟩

end PathEvaluator

end TrustPath
