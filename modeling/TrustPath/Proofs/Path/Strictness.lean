import TrustPath.Proofs.Path.Growth

/-!
# The strictness of revocation settings

Two evaluations of the same material that differ in their revocation
settings only. The settings decide whether revocation is checked and
which outdated lists are there, but an outdated list never determines a
status (`PathEvaluator.status_admitted`). So where both check, they
check alike, and the evaluation that checks less accepts every candidate
that the other accepts (`PathEvaluator.Relaxes`).

Neither the lists nor the settings enter the tree of partial paths, so
both searches visit the same partial paths in the same order
(`PathProblem.Eases.preorder`). The laxer one stops at the same candidate
or at an earlier one, which is why it cannot run out of its budget where
the stricter one has found a path.
-/

namespace TrustPath

namespace PathProblem

/-! ## The same tree with laxer checks -/

/-- A problem with the tree of another in which every candidate completes
that completes there. -/
structure Eases (p q : PathProblem) : Prop where
  target : q.target = p.target
  anchors : q.anchors = p.anchors
  pool : q.pool = p.pool
  holds : q.holds = p.holds
  depth : q.parameters.lengthLimit = p.parameters.lengthLimit
  accepts : ∀ issuers anchor,
    Candidate.Acceptable p.holds p.crls p.parameters p.target issuers anchor →
      Candidate.Acceptable q.holds q.crls q.parameters q.target issuers anchor

namespace Eases

variable {p q : PathProblem}

theorem lastOf (h : Eases p q) (above : List Certificate) : q.lastOf above = p.lastOf above := by
  cases above with
  | nil => exact h.target
  | cons c rest => rfl

theorem issues (h : Eases p q) (issuer child : Certificate) :
    q.issues issuer child = p.issues issuer child := by
  rw [PathProblem.issues, PathProblem.issues, h.holds]

theorem extensions (h : Eases p q) (above : List Certificate) :
    q.extensions above = p.extensions above := by
  unfold PathProblem.extensions
  simp only [h.pool, h.lastOf, h.issues, h.target]

theorem hasRoom (h : Eases p q) (above : List Certificate) : q.hasRoom above = p.hasRoom above := by
  unfold PathProblem.hasRoom exceedsLimit
  rw [h.depth]

/-- The two trees are walked in the same order. The induction is on the
room that is left, as the recursion is. -/
theorem preorder (h : Eases p q) (above : List Certificate) :
    q.preorder above = p.preorder above := by
  induction above using PathProblem.preorder.induct p with
  | case1 above ih =>
      cases hroom : p.hasRoom above with
      | false => rw [preorder_of_full hroom, preorder_of_full ((h.hasRoom above).trans hroom)]
      | true =>
          rw [preorder_of_hasRoom hroom, preorder_of_hasRoom ((h.hasRoom above).trans hroom),
            h.extensions]
          congr 1
          exact List.flatMap_congr fun c _ => ih hroom c

theorem accepted? (h : Eases p q) {above : List Certificate}
    (hsome : (p.accepted? above).isSome = true) : (q.accepted? above).isSome = true := by
  obtain ⟨built, hbuilt⟩ := Option.isSome_iff_exists.mp hsome
  obtain ⟨-, hanchor, hissues, hacceptable⟩ := accepted?_eq_some hbuilt
  refine accepted?_isSome (h.anchors ▸ hanchor) ?_ (h.accepts _ _ hacceptable)
  rw [h.issues, h.lastOf]
  exact hissues

/-- What is solved stays solved when the checks get laxer. -/
theorem solve (h : Eases p q) (hsolve : ∃ built, p.solve.1 = .ok built) :
    ∃ built, q.solve.1 = .ok built := by
  obtain ⟨built, hbuilt⟩ := hsolve
  rw [solve_eq_answer] at hbuilt ⊢
  rw [h.anchors, h.target]
  cases hfind : p.anchors.find? (·.der == p.target.der) with
  | some anchor => exact ⟨_, rfl⟩
  | none =>
      rw [hfind] at hbuilt
      obtain ⟨above, hvisited, hsome⟩ := exists_answer_iff.mp ⟨built, hbuilt⟩
      exact exists_answer_iff.mpr ⟨above, by rwa [h.preorder], h.accepted? hsome⟩

end Eases

end PathProblem

namespace PathEvaluator

variable {e e' : PathEvaluator} {now : Int} {info : ValidationInfo} {credential : Credential}
  {max : LogLevel}

/-! ## Evaluations that check less -/

/-- An evaluator with all settings of another but those of revocation,
which checks revocation only where the other does, whatever lists are
presented. -/
structure Relaxes (now : Int) (e e' : PathEvaluator) : Prop where
  same : e'.options =
    { e.options with
      forceRevocationEnabled := e'.options.forceRevocationEnabled
      revocationEnabled := e'.options.revocationEnabled
      processExpiredCrls := e'.options.processExpiredCrls }
  checks : ∀ (pool : List Certificate) (lists : List Crl),
    e'.checksRevocation ⟨pool, lists.filter (PathStore.admits e'.options now)⟩ = true →
      e.checksRevocation ⟨pool, lists.filter (PathStore.admits e.options now)⟩ = true

/-- What is done about outdated lists makes no difference to a status. -/
theorem status_admitted {holds : Signed → PublicKey → Bool} {c issuer : Certificate}
    (options : ValidationOptions) (now : Int) (lists : List Crl) :
    (Revocation.status holds c issuer (lists.filter (PathStore.admits options now)) now).1
      = (Revocation.status holds c issuer
          (lists.filter fun crl => options.processEmptyCrls || !crl.revoked.isEmpty) now).1 := by
  refine Revocation.status_eq_of_counting fun crl hcounts => ?_
  have hcurrent : crl.isExpired now = false := Crl.isExpired_eq_false.mpr hcounts.current
  simp [PathStore.admits, hcurrent]

namespace Relaxes

theorem presentedCrls (h : Relaxes now e e') :
    e'.presentedCrls info credential = e.presentedCrls info credential := by
  unfold PathEvaluator.presentedCrls
  rw [h.same]

/-- The lists clear the same certificates in both evaluations. -/
theorem clear_iff (h : Relaxes now e e') {holds : Signed → PublicKey → Bool}
    {c issuer : Certificate} (lists : List Crl) :
    Revocation.Clear holds (lists.filter (PathStore.admits e'.options now)) now c issuer
      ↔ Revocation.Clear holds (lists.filter (PathStore.admits e.options now)) now c issuer := by
  rw [← Revocation.status_eq_good, ← Revocation.status_eq_good, status_admitted, status_admitted,
    h.same]

/-- The problem that an evaluation poses is eased by less checking. -/
theorem eases (h : Relaxes now e e') {p : PathProblem} (hp : e.Poses now info credential p) :
    ∃ q, e'.Poses now info credential q ∧ p.Eases q := by
  obtain ⟨lists, hlists, hcrls⟩ := hp.crls
  let crls := lists.filter (PathStore.admits e'.options now)
  let parameters := e'.parameters info ⟨p.pool, crls⟩ now
  have hdepth : parameters.maxPathLength = p.parameters.maxPathLength := by
    rw [← hp.parameters]
    show e'.depth info = e.depth info
    unfold depth
    rw [h.same]
  have hpolicy : parameters.policy = p.parameters.policy := by
    rw [← hp.parameters]
    show PolicyParameters.mk .. = PolicyParameters.mk ..
    rw [h.same]
  have hnow : parameters.now = p.parameters.now := by rw [← hp.parameters]; rfl
  refine ⟨{ p with crls, parameters }, ⟨hp.anchored, hp.anchors, hp.target, hp.pool,
    ⟨lists, by rw [h.presentedCrls, hlists], rfl⟩, rfl, hp.holds⟩, rfl, rfl, rfl, rfl, ?_, ?_⟩
  · unfold PathParameters.lengthLimit
    rw [hdepth]
  · intro issuers anchor hacceptable
    refine { hacceptable with
      inForce := by rw [hnow]; exact hacceptable.inForce
      depth := by rw [hdepth]; exact hacceptable.depth
      policies := by rw [hpolicy]; exact hacceptable.policies
      revocation := fun henabled => ?_ }
    have hchecks : p.parameters.revocationEnabled = true := by
      rw [← hp.parameters, ← hcrls]
      exact h.checks p.pool lists henabled
    refine (hacceptable.revocation hchecks).imp fun c issuer hclear => ?_
    rw [← hp.parameters, ← hcrls] at hclear
    exact (h.clear_iff lists).mpr hclear

/-- What is found is found with less checking too. -/
theorem found (h : Relaxes now e e')
    (hfound : (e.buildPath now info credential).value max = .found) :
    (e'.buildPath now info credential).value max = .found := by
  obtain ⟨p, hp, hsolve⟩ := value_buildPath_eq_found.mp hfound
  obtain ⟨q, hq, heases⟩ := h.eases hp
  exact value_buildPath_eq_found.mpr ⟨q, hq, heases.solve hsolve⟩

/-- The material fails to decode in the same way. -/
theorem problem?_eq_error (h : Relaxes now e e') {error : TrustError}
    (herror : e.problem? now info credential = .error error) :
    e'.problem? now info credential = .error error := by
  unfold problem? at herror ⊢
  rw [h.presentedCrls]
  cases hempty : info.anchors.isEmpty with
  | true =>
      rw [hempty] at herror
      exact herror
  | false =>
      rw [hempty] at herror
      -- the last step builds the problem, and building cannot fail
      simpa only [Bool.false_eq_true, if_false, bind_eq_error, pure, Except.pure, reduceCtorEq,
        and_false, exists_false, or_false] using herror

end Relaxes

/-- Evaluations that check revocation in the same places answer alike. -/
theorem value_buildPath_congr (h : Relaxes now e e') (h' : Relaxes now e' e) :
    (e.buildPath now info credential).value max = (e'.buildPath now info credential).value max := by
  cases hproblem : e.problem? now info credential with
  | error error =>
      rw [value_buildPath, value_buildPath, outcome_attempt, outcome_attempt, hproblem,
        h.problem?_eq_error hproblem]
  | ok p =>
      have hp := problem?_eq_ok.mp hproblem
      obtain ⟨q, hq, -⟩ := h.eases hp
      rcases hp.answered max with hfound | hnot
      · rw [hfound, h.found hfound]
      · rcases hq.answered max with hfound | hnot'
        · rw [hfound, h'.found hfound]
        · rw [hnot, hnot']

/-! ## The settings -/

/-- The evaluator with revocation checking forced on or off. -/
def forcing (e : PathEvaluator) (enabled : Bool) : PathEvaluator :=
  { e with options := e.options.forceRevocation enabled }

/-- The evaluator that checks revocation if there are lists. -/
def unforced (e : PathEvaluator) : PathEvaluator :=
  { e with options := { e.options with forceRevocationEnabled := false } }

/-- The evaluator that takes outdated lists, or leaves them out. -/
def takingOutdated (e : PathEvaluator) (taken : Bool) : PathEvaluator :=
  { e with options := { e.options with processExpiredCrls := taken } }

theorem relaxes_unforced (now : Int) (e : PathEvaluator) :
    Relaxes now (e.forcing true) e.unforced where
  same := rfl
  checks := fun _ _ _ => rfl

theorem relaxes_forcing_false (now : Int) (e : PathEvaluator) :
    Relaxes now e.unforced (e.forcing false) where
  same := rfl
  checks := fun _ _ henabled => absurd henabled Bool.false_ne_true

/-- Leaving outdated lists out can only leave fewer lists, and with no
lists nothing is checked. -/
theorem relaxes_takingOutdated (now : Int) (e : PathEvaluator) :
    Relaxes now (e.takingOutdated true) (e.takingOutdated false) where
  same := rfl
  checks := by
    intro pool lists henabled
    have hmore : ∀ crl, PathStore.admits (e.takingOutdated false).options now crl = true →
        PathStore.admits (e.takingOutdated true).options now crl = true := by
      intro crl hadmits
      simp only [PathStore.admits, takingOutdated, Bool.and_eq_true] at hadmits ⊢
      exact ⟨hadmits.1, Bool.true_or _⟩
    unfold checksRevocation at henabled ⊢
    by_cases hforced : e.options.forceRevocationEnabled = true
    · simpa [takingOutdated, hforced] using henabled
    · have hforced' : ∀ taken, (e.takingOutdated taken).options.forceRevocationEnabled = false :=
        fun _ => Bool.eq_false_iff.mpr hforced
      simp only [hforced', Bool.false_eq_true, if_false, Bool.not_eq_true',
        List.isEmpty_eq_false_iff_exists_mem, List.mem_filter] at henabled ⊢
      obtain ⟨crl, hmem, hadmits⟩ := henabled
      exact ⟨crl, hmem, hmore crl hadmits⟩

theorem relaxes_forcing (now : Int) (e : PathEvaluator) (taken taken' : Bool) :
    Relaxes now ((e.forcing true).takingOutdated taken)
      ((e.forcing true).takingOutdated taken') where
  same := rfl
  checks := fun _ _ _ => rfl

/-- Revocation settings are ordered by strictness. What is found with
checking forced on is found without forcing, and what is found without
forcing is found with checking forced off. What is found with outdated
lists is found without them, and if checking is forced on they make no
difference: they never determine a status. -/
theorem revocation_settings_ordered (e : PathEvaluator) (now : Int) (info : ValidationInfo)
    (credential : Credential) (max : LogLevel) :
    (((e.forcing true).buildPath now info credential).value max = .found →
        (e.unforced.buildPath now info credential).value max = .found)
      ∧ ((e.unforced.buildPath now info credential).value max = .found →
        ((e.forcing false).buildPath now info credential).value max = .found)
      ∧ (((e.takingOutdated true).buildPath now info credential).value max = .found →
        ((e.takingOutdated false).buildPath now info credential).value max = .found)
      ∧ (((e.forcing true).takingOutdated true).buildPath now info credential).value max
          = (((e.forcing true).takingOutdated false).buildPath now info credential).value max
      ∧ ∀ c issuer crls,
          (Revocation.status Signed.holdsUnder c issuer
              (crls.filter fun crl => !crl.isExpired now) now).1
            = (Revocation.status Signed.holdsUnder c issuer crls now).1 := by
  refine ⟨(relaxes_unforced now e).found, (relaxes_forcing_false now e).found,
    (relaxes_takingOutdated now e).found, ?_, fun _ _ => Revocation.status_filter_current⟩
  exact value_buildPath_congr (relaxes_forcing now e true false) (relaxes_forcing now e false true)

end PathEvaluator

end TrustPath
