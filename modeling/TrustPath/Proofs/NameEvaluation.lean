import TrustPath.NameEvaluator
import TrustPath.Proofs.Outcome

/-!
# What the checks of names answer

Each check of a credential's names writes lines of log on its way. What it
answers is a search among the trusted names or among the names of the
certificate, with no log in it. The checks are made in order and the first
that passes decides, so together they answer a disjunction (`verdict`), with
the one failure there can be: alternative names that cannot be read.
-/

namespace TrustPath.NameEvaluator

open Logging

variable (e : NameEvaluator) (c : Certificate) (max : LogLevel)

/-- Some of the names is read as a name that equals the subject. -/
theorem value_matchSubjectAmong (subject : DistinguishedName) (names : List String) :
    value (e.matchSubjectAmong subject names) max =
      names.any fun name => succeeds (e.handler.parse name) (· == subject) := by
  induction names with
  | nil => rfl
  | cons name names ih =>
      rw [List.any_cons, ← ih, matchSubjectAmong]
      cases e.handler.parse name with
      | error fault => rfl
      | ok dn =>
          by_cases hsubject : (dn == subject) = true
          · simp [succeeds, hsubject]
          · simp [succeeds, hsubject]

theorem value_matchSubject (trusted : TextSet) :
    value (e.matchSubject c trusted) max =
      trusted.toList.any fun name => succeeds (e.handler.parse name) (· == c.subject) :=
  value_matchSubjectAmong e max c.subject trusted.toList

/-- Some alternative name of a kind that is checked is among the trusted names. -/
theorem outcome_matchAltNames (trusted : TextSet) :
    outcome (e.matchAltNames c trusted) max =
      (c.altNames e.altNameTypes).map fun names => names.any trusted.contains := by
  rw [matchAltNames, outcome_bind, outcome_logDebug, pure_bind, outcome_bind, outcome_ofExcept]
  cases c.altNames e.altNameTypes with
  | error fault => rfl
  | ok names =>
      refine bind_eq_ok.mpr ⟨names, rfl, ?_⟩
      rw [outcome_bind, outcome_logDebug, pure_bind]
      cases hfind : names.find? trusted.contains with
      | none =>
          have hnone := List.find?_eq_none.mp hfind
          exact congrArg Except.ok (List.any_eq_false.mpr hnone).symm
      | some name =>
          have hany : names.any trusted.contains = true :=
            List.any_eq_true.mpr ⟨name, List.mem_of_find?_eq_some hfind, List.find?_some hfind⟩
          exact congrArg Except.ok hany.symm

/-- The most specific common name is among the trusted names, and not empty. -/
theorem value_matchCommonName (trusted : TextSet) :
    value (matchCommonName c trusted) max =
      c.commonNames.head?.any fun name => !name.isEmpty && trusted.contains name := by
  rw [matchCommonName, value_bind]
  cases c.commonNames.head? with
  | none => rfl
  | some name =>
      dsimp only [Option.any_some]
      rw [value_bind]
      cases !name.isEmpty && trusted.contains name with
      | false => rfl
      | true => rfl

/-- A check that is not active does not pass, and cannot fail. -/
theorem outcome_runCheck (active : Bool) (check : ExceptT TrustError Logging Bool)
    (passed : String) :
    outcome (runCheck active check passed) max =
      if active then outcome check max else .ok false := by
  cases active with
  | false => rfl
  | true =>
      rw [runCheck, Bool.not_true, if_neg Bool.false_ne_true, outcome_bind, if_pos rfl]
      rcases outcome check max with error | _ | _
      · rfl
      · rfl
      · rfl

/-- Where a check that cannot fail passes, that is the answer; otherwise it is left to what
follows. -/
theorem outcome_runCheck_then (active : Bool) (check : Logging Bool) (passed : String)
    (next : ExceptT TrustError Logging Bool) {answer : Bool}
    (hnext : outcome next max = .ok answer) :
    outcome (do if ← runCheck active check passed then return true else next) max
      = .ok (active && value check max || answer) := by
  rw [outcome_bind, outcome_runCheck, outcome_liftM]
  cases active with
  | false => exact hnext
  | true =>
      show outcome (if value check max = true then Pure.pure true else next) max = _
      cases value check max with
      | false => exact hnext
      | true => rfl

/-- What the active checks say together. -/
def verdict (trusted : TextSet) : Except TrustError Bool := do
  let altName ← (if e.checkAltNames then
    (c.altNames e.altNameTypes).map fun names => names.any trusted.contains else .ok false)
  let commonName := c.commonNames.head?.any fun name => !name.isEmpty && trusted.contains name
  let subject := trusted.toList.any fun name => succeeds (e.handler.parse name) (· == c.subject)
  return altName || (e.checkCommonName && commonName || e.checkSubject && subject)

theorem outcome_runChecks (token : String) (trusted : TextSet) :
    outcome (e.runChecks c token trusted) max = e.verdict c trusted := by
  rw [runChecks, outcome_bind, outcome_runCheck, outcome_matchAltNames, verdict]
  refine bind_congr fun altName => ?_
  cases altName with
  | true => rfl
  | false =>
      rw [if_neg Bool.false_ne_true, ← value_matchCommonName c max, ← value_matchSubject e c max]
      refine outcome_runCheck_then max _ _ _ _ ?_
      rw [← Bool.or_false (e.checkSubject && _)]
      exact outcome_runCheck_then max _ _ _ _ rfl

/-- Without an active check a credential passes, and without trusted names it does not; otherwise
the checks say. -/
theorem outcome_evaluate (credential : Credential) (trusted : Option TextSet) :
    outcome (e.evaluate credential trusted) max =
      if e.isActive then
        match trusted.filter (!·.isEmpty) with
        | none => .ok false
        | some names => credential.certificate >>= fun c => e.verdict c names
      else .ok true := by
  rw [evaluate]
  cases e.isActive with
  | false => rfl
  | true =>
      cases trusted.filter (!·.isEmpty) with
      | none => rfl
      | some names =>
          rw [Bool.not_true, if_neg Bool.false_ne_true, if_pos rfl]
          dsimp only
          simp only [outcome_bind, outcome_logDebug, outcome_ofExcept, outcome_runChecks, pure_bind]

end TrustPath.NameEvaluator
