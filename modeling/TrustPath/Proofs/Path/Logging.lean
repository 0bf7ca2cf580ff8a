import TrustPath.Proofs.Logging
import TrustPath.Proofs.Path.Evaluation

/-!
# What an evaluation writes

The log has no influence on what an evaluation answers, neither by its
maximum level nor by how names are written, and the level only filters what
is written (`PathEvaluator.logging_exact`).

Everything up to the end of the attempt is levelled. An evaluation asks for a
level in one place, after an attempt that built no path: there the reason is
the last line in full detail, and under lower levels an error without the
reason takes its place (`PathEvaluator.Unexplained`).
-/

namespace TrustPath

open Logging

namespace PathStore

variable {options : ValidationOptions} {handler : NameHandler} {now : Int}

theorem levelled_takeCrls :
    ∀ ders, Levelled (takeCrls options handler now ders).run
  | [] => .run_pure _
  | _ :: rest =>
      .run_bind (.run_ofExcept _) fun _ => .run_bind (.run_liftM (.lines _)) fun _ =>
        .run_bind (levelled_takeCrls rest) fun _ => .run_pure _

theorem levelled_takeSource (source : String) (ders : List Octets) :
    Levelled (takeSource options handler now source ders).run := by
  unfold takeSource
  cases ders with
  | nil => exact .run_pure _
  | cons der rest =>
      exact .run_bind (.run_liftM (.line _ _)) fun _ => levelled_takeCrls (der :: rest)

theorem levelled_prepare (info : ValidationInfo) (credential : Credential) :
    Levelled (prepare info credential options handler now).run :=
  .run_bind (.run_liftM (.line _ _)) fun _ => .run_bind (.run_liftM (.line _ _)) fun _ =>
    .run_bind (.run_ofExcept _) fun _ => .run_bind (.run_liftM (.lines _)) fun _ =>
      .run_bind (levelled_takeSource _ _) fun _ => .run_bind (levelled_takeSource _ _) fun _ =>
        .run_pure _

end PathStore

namespace PathEvaluator

variable {e : PathEvaluator} {now : Int} {info : ValidationInfo} {credential : Credential}

theorem levelled_attempt : Levelled (e.attempt now info credential).run := by
  unfold attempt
  cases info.anchors.isEmpty with
  | true => exact .pure _
  | false =>
      refine .run_bind (.run_liftM (.line _ _)) fun _ => .run_bind (.run_ofExcept _) fun _ =>
        .run_bind (.run_liftM (.lines _)) fun _ => .run_bind (.run_ofExcept _) fun _ =>
          .run_bind (PathStore.levelled_prepare _ _) fun _ =>
            .run_bind (.run_liftM (.lines _)) fun _ => ?_
      -- The search runs apart from the log, so its lines are the same under all levels.
      dsimp only
      generalize PathProblem.solve _ = solved
      obtain ⟨result, lines⟩ := solved
      refine .run_bind (.run_liftM (.lines lines)) fun _ => ?_
      cases result with
      | ok path => exact .run_bind (.run_liftM (.lines _)) fun _ => .run_pure _
      | error failure => exact .run_pure _

/-- What is written about a credential for which there is no path. -/
def noPathText (e : PathEvaluator) (credential : Credential) : String :=
  "PKIX path construction failed for untrusted credential: " ++ credential.token e.handler

/-- No path was built, and the log says why in full detail only: the reason is the last line there,
and an error without the reason takes its place under every lower level that admits errors. -/
structure Unexplained (e : PathEvaluator) (credential : Credential) (failure : PathFailure)
    (m : Logging PathResult) : Prop where
  value_eq : ∀ max, m.value max = .notFound
  written_eq : ∃ before : List LogLine,
    m.written .trace = before ++ [⟨.trace, e.noPathText credential ++ ": " ++ failure.message⟩] ∧
      ∀ max, m.written max =
        if .error ≤ max ∧ max ≤ .debug then
          admitted max before ++ [⟨.error, e.noPathText credential⟩]
        else admitted max (m.written .trace)

/-- An evaluation up to the end of its attempt. -/
def begun (e : PathEvaluator) (now : Int) (info : ValidationInfo) (credential : Credential) :
    Logging (Except TrustError (Except PathFailure BuiltPath)) := do
  Logging.line .debug
    ("attempting PKIX path validation on untrusted credential: " ++ credential.token e.handler)
  (e.attempt now info credential).run

/-- An evaluation after its attempt. -/
def concluded (e : PathEvaluator) (credential : Credential) :
    Except TrustError (Except PathFailure BuiltPath) → Logging PathResult
  | .ok (.ok _) => return .found
  | .ok (.error failure) => do
    if ← Logging.enabled .trace then
      Logging.line .trace (e.noPathText credential ++ ": " ++ failure.message)
    else Logging.line .error (e.noPathText credential)
    return .notFound
  | .error error => do
    Logging.line .error ("PKIX validation failure for untrusted credential: "
      ++ credential.token e.handler ++ ": " ++ error.message)
    return .fatal error

theorem buildPath_eq_bind :
    e.buildPath now info credential = e.begun now info credential >>= e.concluded credential := by
  rw [buildPath, begun, bind_assoc]
  refine bind_congr fun _ => bind_congr fun result => ?_
  rcases result with error | failure | built <;> rfl

theorem levelled_begun : Levelled (e.begun now info credential) :=
  .bind (.line _ _) fun _ => levelled_attempt

theorem written_concluded (failure : PathFailure) (max : LogLevel) :
    (e.concluded credential (.ok (.error failure))).written max =
      if .error ≤ max ∧ max ≤ .debug then [⟨.error, e.noPathText credential⟩]
      else admitted max [⟨.trace, e.noPathText credential ++ ": " ++ failure.message⟩] := by
  cases max <;> rfl

/-- An attempt without a path leaves the evaluation unexplained. -/
theorem unexplained_buildPath {failure : PathFailure}
    (h : (e.begun now info credential).value .trace = .ok (.error failure)) :
    e.Unexplained credential failure (e.buildPath now info credential) := by
  have hvalue : ∀ max, (e.begun now info credential).value max = .ok (.error failure) :=
    fun max => (levelled_begun.value_eq max).trans h
  have hwritten : ∀ max, (e.buildPath now info credential).written max
      = admitted max ((e.begun now info credential).written .trace)
        ++ (e.concluded credential (.ok (.error failure))).written max := by
    intro max
    rw [buildPath_eq_bind, written_bind, hvalue, levelled_begun.written_eq max]
  refine ⟨fun max => ?_, (e.begun now info credential).written .trace, ?_, fun max => ?_⟩
  · rw [buildPath_eq_bind, value_bind, hvalue]
    cases max <;> rfl
  · rw [hwritten, written_concluded, admitted_trace]
    rfl
  · rw [hwritten .trace, admitted_trace, hwritten max, written_concluded, written_concluded]
    split
    · rfl
    · exact (admitted_append ..).symm

/-- An attempt that ends otherwise is followed by nothing that depends on the level. -/
theorem levelled_concluded {result : Except TrustError (Except PathFailure BuiltPath)}
    (h : ∀ failure, result ≠ .ok (.error failure)) : Levelled (e.concluded credential result) := by
  rcases result with error | failure | built
  · exact .bind (.line _ _) fun _ => .pure _
  · exact absurd rfl (h failure)
  · exact .pure _

theorem answered_buildPath
    (h : ∀ failure, (e.begun now info credential).value .trace ≠ .ok (.error failure)) :
    Levelled (e.buildPath now info credential)
      ∧ ∀ max, (e.buildPath now info credential).value max ≠ .notFound := by
  constructor
  · rw [buildPath_eq_bind]
    exact levelled_begun.bind_value (levelled_concluded h)
  · intro max hvalue
    rw [value_buildPath] at hvalue
    replace hvalue : PathResult.ofAttempt ((e.begun now info credential).value max) = _ := hvalue
    rw [levelled_begun.value_eq max] at hvalue
    generalize (e.begun now info credential).value .trace = result at h hvalue
    rcases result with error | failure | built
    · cases hvalue
    · exact h failure rfl
    · cases hvalue

/-- **Logging has no influence, and levels only filter.** An evaluation answers the same under all
maximum levels and with all handlers of names. Under a maximum level it writes the lines of full
detail that the level admits, in their order; only where no path was built, the last of them is
the reason, and an error without the reason takes its place. -/
theorem logging_exact (e : PathEvaluator) (now : Int) (info : ValidationInfo)
    (credential : Credential) :
    (∀ handler max max', (({ e with handler } : PathEvaluator).buildPath now info credential).value
        max' = (e.buildPath now info credential).value max) ∧
      (Levelled (e.buildPath now info credential)
          ∧ (∀ max, (e.buildPath now info credential).value max ≠ .notFound) ∨
        ∃ p failure, e.Poses now info credential p ∧ p.solve.1 = .error failure
          ∧ e.Unexplained credential failure (e.buildPath now info credential)) := by
  refine ⟨fun handler max max' => ?_, ?_⟩
  · rw [value_buildPath, value_buildPath, outcome_attempt, outcome_attempt]
    rfl
  · have hbegun : (e.begun now info credential).value .trace
        = (·.solve.1) <$> e.problem? now info credential := outcome_attempt ..
    by_cases hanswered :
        ∀ failure, (e.begun now info credential).value .trace ≠ .ok (.error failure)
    · exact .inl (answered_buildPath hanswered)
    · obtain ⟨failure, hfailure⟩ := not_forall_not.mp hanswered
      obtain ⟨p, hp, hsolve⟩ := map_eq_ok.mp (hbegun.symm.trans hfailure)
      exact .inr ⟨p, failure, problem?_eq_ok.mp hp, hsolve, unexplained_buildPath hfailure⟩

end PathEvaluator

end TrustPath
