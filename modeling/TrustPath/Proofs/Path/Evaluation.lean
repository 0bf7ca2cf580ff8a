import TrustPath.Path.Evaluator
import TrustPath.Proofs.Material
import TrustPath.Proofs.Path.AlternativeNames

/-!
# Evaluations as path problems

What an evaluation answers, with nothing of what it writes. The material
of a credential and of validation information is decoded into one
`PathProblem` (`PathEvaluator.problem?`), and the evaluation is the
search for a path in it (`PathEvaluator.value_buildPath`), under every
maximum level of the log alike.
-/

namespace TrustPath

namespace PathStore

variable {options : ValidationOptions} {handler : NameHandler} {now : Int} {max : LogLevel}

theorem outcome_takeCrls : ∀ ders : List Octets,
    Logging.outcome (takeCrls options handler now ders) max
      = (·.filter (admits options now)) <$> decodeAll Crl.decode ders
  | [] => rfl
  | der :: rest => by
      simp only [takeCrls, Logging.outcome_bind, Logging.outcome_ofExcept, outcome_takeCrls rest,
        decodeAll]
      cases Crl.decode der with
      | error e => rfl
      | ok crl =>
          cases decodeAll Crl.decode rest with
          | error e => rfl
          | ok crls =>
              show Except.ok _ = Except.ok ((crl :: crls).filter (admits options now))
              rw [List.filter_cons]

theorem outcome_takeSource (source : String) (ders : List Octets) :
    Logging.outcome (takeSource options handler now source ders) max
      = (·.filter (admits options now)) <$> decodeAll Crl.decode ders := by
  unfold takeSource
  cases ders with
  | nil => rfl
  | cons der rest =>
      show Logging.outcome (takeCrls options handler now (der :: rest)) max = _
      exact outcome_takeCrls (der :: rest)

end PathStore

/-- The answer that an attempt stands for. -/
def PathResult.ofAttempt : Except TrustError (Except PathFailure BuiltPath) → PathResult
  | .ok (.ok _) => .found
  | .ok (.error _) => .notFound
  | .error error => .fatal error

namespace PathEvaluator

/-- The revocation lists that are presented for an evaluation, those of
the information first. -/
def presentedCrls (e : PathEvaluator) (info : ValidationInfo) (credential : Credential) :
    List Octets :=
  info.crls ++ if e.options.processCredentialCrls then credential.crls else []

/-- The path problem of an evaluation, or the first fault of its
material. -/
def problem? (e : PathEvaluator) (now : Int) (info : ValidationInfo) (credential : Credential) :
    Except TrustError PathProblem := do
  if info.anchors.isEmpty then throw .noTrustAnchors
  let anchors ← PathStore.decodeAll Certificate.decode info.anchors
  let target ← credential.certificate
  let pool ← PathStore.decodeAll Certificate.decode credential.chain
  let presented ← PathStore.decodeAll Crl.decode (e.presentedCrls info credential)
  let crls := presented.filter (PathStore.admits e.options now)
  return { target, anchors, pool, crls, parameters := e.parameters info ⟨pool, crls⟩ now }

/-- An evaluation poses a path problem: its material decodes to that of
the problem. -/
structure Poses (e : PathEvaluator) (now : Int) (info : ValidationInfo) (credential : Credential)
    (p : PathProblem) : Prop where
  anchored : info.anchors ≠ []
  anchors : PathStore.decodeAll Certificate.decode info.anchors = .ok p.anchors
  target : credential.certificate = .ok p.target
  pool : PathStore.decodeAll Certificate.decode credential.chain = .ok p.pool
  crls : ∃ presented,
    PathStore.decodeAll Crl.decode (e.presentedCrls info credential) = .ok presented
      ∧ presented.filter (PathStore.admits e.options now) = p.crls
  parameters : e.parameters info ⟨p.pool, p.crls⟩ now = p.parameters
  holds : p.holds = Signed.holdsUnder

theorem problem?_eq_ok {e : PathEvaluator} {now : Int} {info : ValidationInfo}
    {credential : Credential} {p : PathProblem} :
    e.problem? now info credential = .ok p ↔ e.Poses now info credential p := by
  unfold problem?
  constructor
  · intro h
    cases hempty : info.anchors.isEmpty with
    | true => rw [hempty] at h; cases h
    | false =>
        rw [hempty] at h
        obtain ⟨anchors, hanchors, h⟩ := bind_eq_ok.mp h
        obtain ⟨target, htarget, h⟩ := bind_eq_ok.mp h
        obtain ⟨pool, hpool, h⟩ := bind_eq_ok.mp h
        obtain ⟨presented, hpresented, h⟩ := bind_eq_ok.mp h
        obtain rfl := pure_eq_ok.mp h
        exact ⟨by simpa using hempty, hanchors, htarget, hpool, ⟨presented, hpresented, rfl⟩, rfl,
          rfl⟩
  · rintro ⟨hne, hanchors, htarget, hpool, ⟨presented, hpresented, hcrls⟩, hparameters, hholds⟩
    obtain ⟨target, anchors, pool, crls, parameters, holds⟩ := p
    dsimp only at hanchors htarget hpool hcrls hparameters hholds
    subst hholds hcrls hparameters
    rw [List.isEmpty_eq_false_iff.mpr hne]
    refine bind_eq_ok.mpr ⟨anchors, hanchors, bind_eq_ok.mpr ⟨target, htarget,
      bind_eq_ok.mpr ⟨pool, hpool, bind_eq_ok.mpr ⟨presented, hpresented, rfl⟩⟩⟩⟩

theorem outcome_prepare (e : PathEvaluator) (now : Int) (info : ValidationInfo)
    (credential : Credential) (max : LogLevel) :
    Logging.outcome (PathStore.prepare info credential e.options e.handler now) max = do
      let pool ← PathStore.decodeAll Certificate.decode credential.chain
      let presented ← PathStore.decodeAll Crl.decode (e.presentedCrls info credential)
      return ⟨pool, presented.filter (PathStore.admits e.options now)⟩ := by
  rw [presentedCrls, PathStore.decodeAll_append]
  simp only [PathStore.prepare, Logging.outcome_bind, Logging.outcome_liftM,
    Logging.outcome_ofExcept, PathStore.outcome_takeSource, bind_assoc, pure_bind, bind_map_left,
    List.filter_append]
  rfl

/-- An attempt comes to the search in the path problem, if there is one. -/
theorem outcome_attempt (e : PathEvaluator) (now : Int) (info : ValidationInfo)
    (credential : Credential) (max : LogLevel) :
    Logging.outcome (e.attempt now info credential) max
      = (·.solve.1) <$> e.problem? now info credential := by
  unfold attempt problem?
  cases info.anchors.isEmpty with
  | true => rfl
  | false =>
      simp only [Bool.false_eq_true, if_false, Logging.outcome_bind, Logging.outcome_liftM,
        Logging.outcome_ofExcept, outcome_prepare, bind_assoc, pure_bind, map_bind, map_pure]
      refine bind_congr fun anchors => bind_congr fun target => bind_congr fun pool =>
        bind_congr fun presented => ?_
      split
      · next built heq =>
        rw [heq]
        rfl
      · next failure heq =>
        rw [heq]
        rfl

/-- An evaluation answers what its attempt comes to. -/
theorem value_buildPath (e : PathEvaluator) (now : Int) (info : ValidationInfo)
    (credential : Credential) (max : LogLevel) :
    (e.buildPath now info credential).value max
      = PathResult.ofAttempt (Logging.outcome (e.attempt now info credential) max) := by
  rw [buildPath, Logging.value_bind, Logging.value_bind]
  show Logging.value _ max = PathResult.ofAttempt (Logging.value (e.attempt now info credential).run max)
  rcases Logging.value (e.attempt now info credential).run max with error | failure | built
  · rfl
  · dsimp only
    rw [Logging.value_bind]
    split <;> rfl
  · rfl

/-- A path is found exactly when the evaluation poses a problem that the
search solves. -/
theorem value_buildPath_eq_found {e : PathEvaluator} {now : Int} {info : ValidationInfo}
    {credential : Credential} {max : LogLevel} :
    (e.buildPath now info credential).value max = .found ↔
      ∃ p, e.Poses now info credential p ∧ ∃ built, p.solve.1 = .ok built := by
  rw [value_buildPath, outcome_attempt]
  constructor
  · intro h
    cases hp : e.problem? now info credential with
    | error error => rw [hp] at h; cases h
    | ok p =>
        rw [hp] at h
        refine ⟨p, problem?_eq_ok.mp hp, ?_⟩
        cases hsolve : p.solve.1 with
        | ok built => exact ⟨built, rfl⟩
        | error failure =>
            replace h : PathResult.ofAttempt (.ok p.solve.1) = .found := h
            rw [hsolve] at h
            cases h
  · rintro ⟨p, hp, built, hsolve⟩
    rw [problem?_eq_ok.mpr hp]
    show PathResult.ofAttempt (.ok p.solve.1) = .found
    rw [hsolve]
    rfl

/-! ## A sample -/

/-- A certificate without names and with an empty key. -/
def sampleCertificate : Octets :=
  Octets.ofNat 36 0x3046303a020101300506032b65703000301e170d3730303130313030303030305a170d37
    ++ Octets.ofNat 36 0x30303130313030303030305a3000300a300506032b6570030100300506032b6570030100

/-- The sample without a chain. -/
def sampleCredential : Credential := ⟨sampleCertificate, [], [], none⟩

/-- A certification authority as the only anchor, with at most one authority under it. -/
def sampleInfo : ValidationInfo := ⟨[Candidate.sampleAnchor], [], some 1⟩

/-- A certificate with the authority that issued it, which the anchor issued. -/
def sampleChained : Credential := ⟨Candidate.sampleHidden, [Candidate.sampleAuthority], [], none⟩

theorem sample_found :
    (({} : PathEvaluator).buildPath 1000000000 sampleInfo sampleChained).value .off = .found := by
  decide +kernel

end PathEvaluator

end TrustPath
