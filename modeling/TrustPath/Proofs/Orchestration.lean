import TrustPath.Engine
import TrustPath.Proofs.Outcome

/-!
# The orchestration of an engine

In which order an engine calls its parts, and what it makes of their
answers. The parts are arbitrary: `TrustEngine.recorded` takes an engine
over any parts and writes down every call that is made to them.

`TrustEngine.Orchestrated` says, without the engine, which results and
which calls belong together; `TrustEngine.validate_exact` proves that a
validation gives exactly that result after exactly these calls.

A recorded computation and the plain one are followed together
(`Runs`): the recorded one answers the same and adds its calls to
those before it. Computations that follow each other add their calls up
(`Runs.bind`), so each function of the engine needs one lemma for each
way in which its parts can answer, and the loop over the sets of
information one induction on those that do not settle it
(`tryInfos_settled`).
-/

namespace TrustPath

/-! ## Recording -/

/-- A call to a part of an engine, with what it is given. -/
inductive EngineCall
  | supportsTrustedNames
  | trustedNames (criteria : Criteria)
  | evaluateNames (credential : Credential) (trusted : TextSet)
  | infos (criteria : Criteria)
  | evaluatePath (info : ValidationInfo) (credential : Credential)

/-- Computations that keep the calls made so far, in order. -/
abbrev Recording : Type → Type := StateT (List EngineCall) Logging

namespace TrustEngine

/-- Write a call down and make it. -/
def record {α : Type} (call : EngineCall) (answer : Logging α) : Recording α := fun before => do
  let a ← answer
  return (a, before ++ [call])

/-- The engine with the same parts, each call to which is written down. -/
def recorded (engine : TrustEngine Logging) : TrustEngine Recording where
  resolver :=
    { supportsTrustedNames := record .supportsTrustedNames engine.resolver.supportsTrustedNames
      trustedNames := fun criteria =>
        record (.trustedNames criteria) (engine.resolver.trustedNames criteria)
      infos := fun criteria => record (.infos criteria) (engine.resolver.infos criteria) }
  evaluatePath := fun info credential =>
    record (.evaluatePath info credential) (engine.evaluatePath info credential)
  evaluateNames := engine.evaluateNames.map fun evaluate credential trusted =>
    record (.evaluateNames credential trusted) (evaluate credential trusted)

/-- A validation with its calls: the result and the calls, in order. -/
def trace (engine : TrustEngine Logging) (credential : Credential) (criteria : Criteria)
    (max : LogLevel) : Except TrustError Bool × List EngineCall :=
  ((engine.recorded.validate credential criteria).run.run []).value max

/-! ## What a validation is to do -/

/-- A failure of the resolver as it is reported: one of resolution stays
as it is, any other is wrapped with its text. -/
inductive ReportedAs : TrustError → TrustError → Prop
  | same (detail : String) : ReportedAs (.resolutionFailed detail) (.resolutionFailed detail)
  | wrapped {e : TrustError} (h : ∀ detail, e ≠ .resolutionFailed detail) :
      ReportedAs e (.resolutionFailed e.message)

/-- An outcome of a set of information that ends the validation: a path,
or an error that is not only of this set. -/
def Decides (outcome : Except TrustError Bool) : Prop :=
  outcome = .ok true ∨ ∃ e, outcome = .error e ∧ e.isRecoverable = false

/-- Sets of information that are tried in order come to a result, with
these sets tried: up to the first that decides, or all of them. -/
inductive Settled (outcome : ValidationInfo → Except TrustError Bool) :
    List ValidationInfo → Except TrustError Bool → List ValidationInfo → Prop
  | decided {before : List ValidationInfo} {info : ValidationInfo} (after : List ValidationInfo)
      (hbefore : ∀ i ∈ before, ¬ Decides (outcome i)) (h : Decides (outcome info)) :
      Settled outcome (before ++ info :: after) (outcome info) (before ++ [info])
  | undecided {infos : List ValidationInfo} (h : ∀ i ∈ infos, ¬ Decides (outcome i)) :
      Settled outcome infos (.ok false) infos

section Orchestrated

variable (engine : TrustEngine Logging) (credential : Credential) (criteria : Criteria)
  (max : LogLevel)

/-- The name check is passed, or does not apply, after these calls. -/
inductive NamesPass : List EngineCall → Prop
  | unsupported (h : engine.resolver.supportsTrustedNames.value max = false) :
      NamesPass [.supportsTrustedNames]
  | unchecked {trusted : TextSet} (h : engine.resolver.supportsTrustedNames.value max = true)
      (hnames : (engine.resolver.trustedNames criteria).value max = .ok trusted)
      (hnone : engine.evaluateNames = none) :
      NamesPass [.supportsTrustedNames, .trustedNames criteria]
  | accepted {trusted : TextSet} {evaluate : Credential → TextSet → Logging (Except TrustError Bool)}
      (h : engine.resolver.supportsTrustedNames.value max = true)
      (hnames : (engine.resolver.trustedNames criteria).value max = .ok trusted)
      (hsome : engine.evaluateNames = some evaluate)
      (haccepts : (evaluate credential trusted).value max = .ok true) :
      NamesPass [.supportsTrustedNames, .trustedNames criteria, .evaluateNames credential trusted]

/-- A validation comes to a result after these calls to the parts. -/
inductive Orchestrated : Except TrustError Bool → List EngineCall → Prop
  | namesUnresolved {e reported : TrustError}
      (h : engine.resolver.supportsTrustedNames.value max = true)
      (hnames : (engine.resolver.trustedNames criteria).value max = .error e)
      (hreported : ReportedAs e reported) :
      Orchestrated (.error reported) [.supportsTrustedNames, .trustedNames criteria]
  | namesNotPassed {trusted : TextSet} {answer : Except TrustError Bool}
      {evaluate : Credential → TextSet → Logging (Except TrustError Bool)}
      (h : engine.resolver.supportsTrustedNames.value max = true)
      (hnames : (engine.resolver.trustedNames criteria).value max = .ok trusted)
      (hsome : engine.evaluateNames = some evaluate)
      (hanswer : (evaluate credential trusted).value max = answer) (hnot : answer ≠ .ok true) :
      Orchestrated answer
        [.supportsTrustedNames, .trustedNames criteria, .evaluateNames credential trusted]
  | infosUnresolved {calls : List EngineCall} {e reported : TrustError}
      (hpass : NamesPass engine credential criteria max calls)
      (hinfos : (engine.resolver.infos criteria).value max = .error e)
      (hreported : ReportedAs e reported) :
      Orchestrated (.error reported) (calls ++ [.infos criteria])
  | tried {calls : List EngineCall} {infos tried : List ValidationInfo}
      {result : Except TrustError Bool} (hpass : NamesPass engine credential criteria max calls)
      (hinfos : (engine.resolver.infos criteria).value max = .ok infos)
      (hsettled : Settled (fun info => (engine.evaluatePath info credential).value max) infos result
        tried) :
      Orchestrated result
        (calls ++ .infos criteria :: tried.map (EngineCall.evaluatePath · credential))

end Orchestrated

/-! ## Recorded and plain computations -/

/-- A plain computation and its recorded form come to a result, the
recorded one with these calls. -/
structure Runs {α : Type} (max : LogLevel) (plain : ExceptT TrustError Logging α)
    (recording : ExceptT TrustError Recording α) (result : Except TrustError α)
    (calls : List EngineCall) : Prop where
  outcome : Logging.outcome plain max = result
  recorded : ∀ before, Logging.value (recording.run.run before) max = (result, before ++ calls)

namespace Runs

variable {α β : Type} {max : LogLevel} {x : ExceptT TrustError Logging α}
  {x' : ExceptT TrustError Recording α} {f : α → ExceptT TrustError Logging β}
  {f' : α → ExceptT TrustError Recording β} {calls more : List EngineCall}

theorem pure (a : α) : Runs max (Pure.pure a) (Pure.pure a) (.ok a) [] :=
  ⟨rfl, fun before => by rw [List.append_nil]; rfl⟩

theorem throw (e : TrustError) : Runs (α := α) max (throw e) (throw e) (.error e) [] :=
  ⟨rfl, fun before => by rw [List.append_nil]; rfl⟩

/-- One computation after another: the calls add up. -/
theorem bind {a : α} {result : Except TrustError β} (hx : Runs max x x' (.ok a) calls)
    (hf : Runs max (f a) (f' a) result more) :
    Runs max (x >>= f) (x' >>= f') result (calls ++ more) := by
  refine ⟨?_, fun before => ?_⟩
  · rw [Logging.outcome_bind, hx.outcome]
    exact hf.outcome
  · rw [ExceptT.run_bind, StateT.run_bind, Logging.value_bind, hx.recorded, ← List.append_assoc]
    exact hf.recorded (before ++ calls)

/-- A failure ends the computation: nothing after it is called. -/
theorem bind_error {e : TrustError} (hx : Runs max x x' (.error e) calls) :
    Runs max (x >>= f) (x' >>= f') (.error e) calls := by
  refine ⟨?_, fun before => ?_⟩
  · rw [Logging.outcome_bind, hx.outcome]
    rfl
  · rw [ExceptT.run_bind, StateT.run_bind, Logging.value_bind, hx.recorded]
    rfl

/-- Lines of the log leave the calls and the result to what follows. -/
theorem after_log {level : LogLevel} {text : String} {y : ExceptT TrustError Logging β}
    {y' : ExceptT TrustError Recording β} {result : Except TrustError β}
    (hy : Runs max y y' result calls) :
    Runs max (MonadLog.log level text >>= fun _ => y) (MonadLog.log level text >>= fun _ => y') result
      calls := by
  have hlog : Runs max (MonadLog.log level text) (MonadLog.log level text) (.ok ()) [] :=
    ⟨rfl, fun before => by rw [List.append_nil]; rfl⟩
  exact hlog.bind hy

theorem lift_record (call : EngineCall) (answer : Logging α) :
    Runs max (ExceptT.lift answer) (ExceptT.lift (record call answer)) (.ok (answer.value max))
      [call] :=
  ⟨rfl, fun _ => rfl⟩

theorem ofAnswer_record (call : EngineCall) (answer : Logging (Except TrustError α)) :
    Runs max (ofAnswer answer) (ofAnswer (record call answer)) (answer.value max) [call] :=
  ⟨rfl, fun _ => rfl⟩

theorem value_record (call : EngineCall) (answer : Logging α) (before : List EngineCall) :
    Logging.value (StateT.run (record call answer) before) max
      = (answer.value max, before ++ [call]) :=
  rfl

theorem ofResolution_ok (call : EngineCall) {answer : Logging (Except TrustError α)} {a : α}
    (h : answer.value max = .ok a) :
    Runs max (ofResolution answer) (ofResolution (record call answer)) (.ok a) [call] := by
  refine ⟨?_, fun before => ?_⟩
  · unfold Logging.outcome ofResolution
    rw [ExceptT.run_mk, Logging.value_bind, h]
    rfl
  · unfold ofResolution
    rw [ExceptT.run_mk, StateT.run_bind, Logging.value_bind, value_record, h]
    rfl

theorem ofResolution_error (call : EngineCall) {answer : Logging (Except TrustError α)}
    {e reported : TrustError} (h : answer.value max = .error e) (hreported : ReportedAs e reported) :
    Runs max (ofResolution answer) (ofResolution (record call answer)) (.error reported) [call] := by
  have hfailure : resolutionFailure e = reported := by
    cases hreported with
    | same detail => rfl
    | wrapped hne =>
        cases e with
        | resolutionFailed detail => exact absurd rfl (hne detail)
        | _ => rfl
  refine ⟨?_, fun before => ?_⟩
  · unfold Logging.outcome ofResolution
    rw [ExceptT.run_mk, Logging.value_bind, h]
    exact congrArg Except.error hfailure
  · unfold ofResolution
    rw [ExceptT.run_mk, StateT.run_bind, Logging.value_bind, value_record, h, ← hfailure]
    rfl

end Runs

/-! ## The functions of the engine -/

section Functions

variable {engine : TrustEngine Logging} {credential : Credential} {criteria : Criteria}
  {max : LogLevel}

theorem resolveNames_unsupported (h : engine.resolver.supportsTrustedNames.value max = false) :
    Runs max (engine.resolveNames criteria) (engine.recorded.resolveNames criteria) (.ok none)
      [.supportsTrustedNames] := by
  refine (Runs.lift_record .supportsTrustedNames _).bind (?_ : Runs max _ _ _ [])
  rw [h]
  exact .after_log (.pure none)

theorem resolveNames_ok {trusted : TextSet}
    (h : engine.resolver.supportsTrustedNames.value max = true)
    (hnames : (engine.resolver.trustedNames criteria).value max = .ok trusted) :
    Runs max (engine.resolveNames criteria) (engine.recorded.resolveNames criteria)
      (.ok (some trusted)) [.supportsTrustedNames, .trustedNames criteria] := by
  refine (Runs.lift_record .supportsTrustedNames _).bind
    (?_ : Runs max _ _ _ [.trustedNames criteria])
  rw [h]
  exact (Runs.ofResolution_ok (.trustedNames criteria) hnames).bind (.pure (some trusted))

theorem resolveNames_error {e reported : TrustError}
    (h : engine.resolver.supportsTrustedNames.value max = true)
    (hnames : (engine.resolver.trustedNames criteria).value max = .error e)
    (hreported : ReportedAs e reported) :
    Runs max (engine.resolveNames criteria) (engine.recorded.resolveNames criteria)
      (.error reported) [.supportsTrustedNames, .trustedNames criteria] := by
  refine (Runs.lift_record .supportsTrustedNames _).bind
    (?_ : Runs max _ _ _ [.trustedNames criteria])
  rw [h]
  exact (Runs.ofResolution_error (.trustedNames criteria) hnames hreported).bind_error

theorem checkNames_none : Runs max (engine.checkNames credential none)
    (engine.recorded.checkNames credential none) (.ok true) [] := by
  unfold checkNames recorded
  cases engine.evaluateNames with
  | none => exact .after_log (.pure true)
  | some evaluate => exact .after_log (.pure true)

theorem checkNames_unchecked {trusted : Option TextSet} (h : engine.evaluateNames = none) :
    Runs max (engine.checkNames credential trusted) (engine.recorded.checkNames credential trusted)
      (.ok true) [] := by
  unfold checkNames recorded
  rw [h]
  exact .after_log (.pure true)

theorem checkNames_some {trusted : TextSet}
    {evaluate : Credential → TextSet → Logging (Except TrustError Bool)}
    (h : engine.evaluateNames = some evaluate) :
    Runs max (engine.checkNames credential (some trusted))
      (engine.recorded.checkNames credential (some trusted)) ((evaluate credential trusted).value max)
      [.evaluateNames credential trusted] := by
  unfold checkNames recorded
  rw [h]
  exact .ofAnswer_record _ _

theorem tryInfos_nil :
    Runs max (engine.tryInfos credential []) (engine.recorded.tryInfos credential []) (.ok false) [] :=
  .after_log (.pure false)

/-- The first set that decides is the last that is looked at. -/
theorem tryInfos_decided {info : ValidationInfo} (after : List ValidationInfo)
    (h : Decides ((engine.evaluatePath info credential).value max)) :
    Runs max (engine.tryInfos credential (info :: after))
      (engine.recorded.tryInfos credential (info :: after))
      ((engine.evaluatePath info credential).value max) [.evaluatePath info credential] := by
  refine (Runs.lift_record (.evaluatePath info credential) _).bind (?_ : Runs max _ _ _ [])
  rcases h with h | ⟨e, h, hfatal⟩
  · rw [h]
    exact .after_log (.pure true)
  · rw [h]
    dsimp only
    rw [hfatal]
    exact .throw e

/-- A set that does not decide leaves the result to the others. -/
theorem tryInfos_undecided {info : ValidationInfo} {after : List ValidationInfo}
    {result : Except TrustError Bool} {calls : List EngineCall}
    (h : ¬ Decides ((engine.evaluatePath info credential).value max))
    (hafter : Runs max (engine.tryInfos credential after)
      (engine.recorded.tryInfos credential after) result calls) :
    Runs max (engine.tryInfos credential (info :: after))
      (engine.recorded.tryInfos credential (info :: after)) result
      (.evaluatePath info credential :: calls) := by
  refine (Runs.lift_record (.evaluatePath info credential) _).bind (?_ : Runs max _ _ _ calls)
  cases hvalue : (engine.evaluatePath info credential).value max with
  | ok found =>
      cases found with
      | true => exact absurd (Or.inl hvalue) h
      | false => exact hafter
  | error e =>
      dsimp only
      cases hrecoverable : e.isRecoverable with
      | true => exact .after_log hafter
      | false => exact absurd (Or.inr ⟨e, hvalue, hrecoverable⟩) h

/-- Sets of information are tried until one decides. The induction is on
those before it. -/
theorem tryInfos_settled {infos tried : List ValidationInfo} {result : Except TrustError Bool}
    (h : Settled (fun info => (engine.evaluatePath info credential).value max) infos result tried) :
    Runs max (engine.tryInfos credential infos) (engine.recorded.tryInfos credential infos) result
      (tried.map (EngineCall.evaluatePath · credential)) := by
  cases h with
  | @decided before info after hbefore hinfo =>
      induction before with
      | nil => exact tryInfos_decided after hinfo
      | cons first rest ih =>
          obtain ⟨hfirst, hrest⟩ := List.forall_mem_cons.mp hbefore
          exact tryInfos_undecided hfirst (ih hrest)
  | undecided hall =>
      induction infos with
      | nil => exact tryInfos_nil
      | cons first rest ih =>
          obtain ⟨hfirst, hrest⟩ := List.forall_mem_cons.mp hall
          exact tryInfos_undecided hfirst (ih hrest)

end Functions

/-! ## The validation as a whole -/

section Validation

variable {engine : TrustEngine Logging} {credential : Credential} {criteria : Criteria}
  {max : LogLevel}

/-- Before the sets of information are resolved, a validation resolves
the names and checks them. -/
theorem validate_of_passed {calls more : List EngineCall} {result : Except TrustError Bool}
    (hpass : NamesPass engine credential criteria max calls)
    (hrest : Runs max
      (do let infos ← ofResolution (engine.resolver.infos criteria)
          logTrace ("resolved " ++ toString infos.length ++ " sets of PKIX validation information")
          engine.tryInfos credential infos)
      (do let infos ← ofResolution (engine.recorded.resolver.infos criteria)
          logTrace ("resolved " ++ toString infos.length ++ " sets of PKIX validation information")
          engine.recorded.tryInfos credential infos) result more) :
    Runs max (engine.validate credential criteria) (engine.recorded.validate credential criteria)
      result (calls ++ more) := by
  refine .after_log ?_
  cases hpass with
  | unsupported h => exact (resolveNames_unsupported h).bind (checkNames_none.bind hrest)
  | unchecked h hnames hnone =>
      exact (resolveNames_ok h hnames).bind ((checkNames_unchecked hnone).bind hrest)
  | @accepted trusted evaluate h hnames hsome haccepts =>
      have hcheck : Runs max (engine.checkNames credential (some trusted)) _ _ _ :=
        checkNames_some hsome
      rw [haccepts] at hcheck
      exact (resolveNames_ok h hnames).bind (hcheck.bind hrest)

/-- What a validation is to do is what it does. -/
theorem Orchestrated.runs {result : Except TrustError Bool} {calls : List EngineCall}
    (h : Orchestrated engine credential criteria max result calls) :
    Runs max (engine.validate credential criteria) (engine.recorded.validate credential criteria)
      result calls := by
  cases h with
  | namesUnresolved hsupports hnames hreported =>
      exact .after_log (resolveNames_error hsupports hnames hreported).bind_error
  | @namesNotPassed trusted _ evaluate hsupports hnames hsome hanswer hnot =>
      have hcheck : Runs max (engine.checkNames credential (some trusted)) _ _ _ :=
        checkNames_some hsome
      rw [hanswer] at hcheck
      refine .after_log ((resolveNames_ok hsupports hnames).bind ?_)
      cases result with
      | error e => exact hcheck.bind_error
      | ok passed =>
          cases passed with
          | true => exact absurd rfl hnot
          | false => exact hcheck.bind (.after_log (.pure false))
  | infosUnresolved hpass hinfos hreported =>
      exact validate_of_passed hpass
        (Runs.ofResolution_error (.infos criteria) hinfos hreported).bind_error
  | tried hpass hinfos hsettled =>
      exact validate_of_passed hpass
        ((Runs.ofResolution_ok (.infos criteria) hinfos).bind (.after_log (tryInfos_settled hsettled)))

/-- Every failure of the resolver is reported in one way. -/
theorem exists_reportedAs (e : TrustError) : ∃ reported, ReportedAs e reported := by
  cases e with
  | resolutionFailed detail => exact ⟨_, .same detail⟩
  | _ => exact ⟨_, .wrapped fun detail h => by cases h⟩

/-- Sets of information always come to a result. -/
theorem exists_settled (outcome : ValidationInfo → Except TrustError Bool) :
    ∀ infos, ∃ result tried, Settled outcome infos result tried
  | [] => ⟨_, _, .undecided fun i hi => absurd hi List.not_mem_nil⟩
  | info :: rest => by
      by_cases h : Decides (outcome info)
      · exact ⟨_, _, .decided rest (fun i hi => absurd hi List.not_mem_nil) h⟩
      · obtain ⟨result, tried, hsettled⟩ := exists_settled outcome rest
        cases hsettled with
        | @decided before info' after hbefore hdecides =>
            exact ⟨_, _, @Settled.decided outcome (info :: before) info' after
              (List.forall_mem_cons.mpr ⟨h, hbefore⟩) hdecides⟩
        | undecided hall => exact ⟨_, _, .undecided (List.forall_mem_cons.mpr ⟨h, hall⟩)⟩

theorem exists_orchestrated_of_passed {calls : List EngineCall}
    (hpass : NamesPass engine credential criteria max calls) :
    ∃ result calls, Orchestrated engine credential criteria max result calls := by
  cases hinfos : (engine.resolver.infos criteria).value max with
  | error e =>
      obtain ⟨reported, hreported⟩ := exists_reportedAs e
      exact ⟨_, _, .infosUnresolved hpass hinfos hreported⟩
  | ok infos =>
      obtain ⟨result, tried, hsettled⟩ :=
        exists_settled (fun info => (engine.evaluatePath info credential).value max) infos
      exact ⟨_, _, .tried hpass hinfos hsettled⟩

/-- Whatever the parts answer, there is something to be done. -/
theorem exists_orchestrated :
    ∃ result calls, Orchestrated engine credential criteria max result calls := by
  cases hsupports : engine.resolver.supportsTrustedNames.value max with
  | false => exact exists_orchestrated_of_passed (.unsupported hsupports)
  | true =>
      cases hnames : (engine.resolver.trustedNames criteria).value max with
      | error e =>
          obtain ⟨reported, hreported⟩ := exists_reportedAs e
          exact ⟨_, _, .namesUnresolved hsupports hnames hreported⟩
      | ok trusted =>
          cases hevaluate : engine.evaluateNames with
          | none => exact exists_orchestrated_of_passed (.unchecked hsupports hnames hevaluate)
          | some evaluate =>
              by_cases hanswer : (evaluate credential trusted).value max = .ok true
              · exact exists_orchestrated_of_passed (.accepted hsupports hnames hevaluate hanswer)
              · exact ⟨_, _, .namesNotPassed hsupports hnames hevaluate rfl hanswer⟩

/-- A validation comes to a result after calls exactly when they are what
it is to do, and without the record it comes to the same result. -/
theorem validate_exact (engine : TrustEngine Logging) (credential : Credential)
    (criteria : Criteria) (max : LogLevel) (result : Except TrustError Bool)
    (calls : List EngineCall) :
    (engine.trace credential criteria max = (result, calls)
        ↔ Orchestrated engine credential criteria max result calls)
      ∧ Logging.outcome (engine.validate credential criteria) max
          = (engine.trace credential criteria max).1 := by
  have htrace : ∀ {result calls}, Orchestrated engine credential criteria max result calls →
      engine.trace credential criteria max = (result, calls) := fun h => h.runs.recorded []
  obtain ⟨done, made, h⟩ : ∃ result calls,
      Orchestrated engine credential criteria max result calls := exists_orchestrated
  refine ⟨⟨fun heq => ?_, htrace⟩, ?_⟩
  · obtain ⟨rfl, rfl⟩ := Prod.mk.inj (heq.symm.trans (htrace h))
    exact h
  · rw [htrace h]
    exact h.runs.outcome

end Validation

end TrustEngine

end TrustPath
