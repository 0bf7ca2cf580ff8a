import TrustPath.Credential
import TrustPath.Criteria
import TrustPath.Log
import TrustPath.Resolver
import TrustPath.TextSet
import TrustPath.ValidationInfo

/-!
# The trust engine

The engine decides whether a credential is trusted. Its parts are a resolver, which supplies
trusted names and sets of validation information, an evaluator of paths, and possibly an evaluator
of names. The credential has to pass the name check, if one applies, and then one of the sets of
information has to yield a path. An error from one set only rules out that set if it is
recoverable; any other error ends the validation.

The parts are computations in any monad that can write log lines, so that what is said about the
engine covers parts that keep state of their own, and the order in which they are called.
-/

namespace TrustPath

/-- What supplies trusted names and validation information. -/
structure TrustResolver (m : Type → Type) where
  supportsTrustedNames : m Bool
  trustedNames : Criteria → m (Except TrustError TextSet)
  infos : Criteria → m (Except TrustError (List ValidationInfo))

/-- Fixed material as a part of an engine. It supports trusted names, and nothing it is asked for
fails. -/
def StaticResolver.asPart (resolver : StaticResolver) : TrustResolver Logging where
  supportsTrustedNames := return true
  trustedNames := fun criteria => return .ok (← resolver.resolveTrustedNames criteria)
  infos := fun criteria => return .ok (resolver.resolve criteria)

/-- The parts of an engine. -/
structure TrustEngine (m : Type → Type) where
  resolver : TrustResolver m
  evaluatePath : ValidationInfo → Credential → m (Except TrustError Bool)
  evaluateNames : Option (Credential → TextSet → m (Except TrustError Bool))

namespace TrustEngine

variable {m : Type → Type}

def checksNames (engine : TrustEngine m) : Bool := engine.evaluateNames.isSome

def summary (engine : TrustEngine m) : String :=
  "PkixX509CredentialTrustEngine \x7b name_checking: " ++ toString engine.checksNames ++ ", .. \x7d"

/-- A failure of the resolver, which is one of resolution whatever its cause. -/
def resolutionFailure : TrustError → TrustError
  | .resolutionFailed detail => .resolutionFailed detail
  | other => .resolutionFailed other.message

variable [Monad m] [MonadLog m]

def ofAnswer {α : Type} (answer : m (Except TrustError α)) : ExceptT TrustError m α :=
  ExceptT.mk answer

/-- Go on with what the resolver answers, or fail as resolution does. -/
def ofResolution {α : Type} (answer : m (Except TrustError α)) : ExceptT TrustError m α :=
  ExceptT.mk (do
    match ← answer with
    | .ok a => return .ok a
    | .error e => return .error (resolutionFailure e))

/-- The trusted names, if the resolver can supply them. -/
def resolveNames (engine : TrustEngine m) (criteria : Criteria) :
    ExceptT TrustError m (Option TextSet) := do
  if ← ExceptT.lift engine.resolver.supportsTrustedNames then
    return some (← ofResolution (engine.resolver.trustedNames criteria))
  else
    logDebug
      "PKIX resolver does not support resolution of trusted names, skipping name checking"
    return none

/-- Whether the credential passes the name check, if one applies. -/
def checkNames (engine : TrustEngine m) (credential : Credential) (trusted : Option TextSet) :
    ExceptT TrustError m Bool := do
  match engine.evaluateNames, trusted with
  | none, _ =>
    logDebug "no credential name evaluator was available, skipping trusted name evaluation"
    return true
  | some _, none =>
    logDebug "trusted names are not applicable, skipping trusted name evaluation"
    return true
  | some evaluate, some names => ofAnswer (evaluate credential names)

/-- Try sets of information in order until one yields a path. -/
def tryInfos (engine : TrustEngine m) (credential : Credential) :
    List ValidationInfo → ExceptT TrustError m Bool
  | [] => do
    logDebug "trust of untrusted credential could not be established via PKIX validation"
    return false
  | info :: rest => do
    match ← ExceptT.lift (engine.evaluatePath info credential) with
    | .ok true =>
      logDebug "credential trust established via PKIX validation"
      return true
    | .ok false => tryInfos engine credential rest
    | .error e =>
      if e.isRecoverable then
        logDebug ("error performing PKIX validation on untrusted credential: " ++ e.message)
        tryInfos engine credential rest
      else throw e

/-- Decide whether a credential is trusted under criteria. -/
def validate (engine : TrustEngine m) (credential : Credential) (criteria : Criteria) :
    ExceptT TrustError m Bool := do
  logDebug "beginning PKIX validation using trusted validation information"
  let trusted ← engine.resolveNames criteria
  if ← engine.checkNames credential trusted then
    let infos ← ofResolution (engine.resolver.infos criteria)
    logTrace ("resolved " ++ toString infos.length ++ " sets of PKIX validation information")
    engine.tryInfos credential infos
  else
    logDebug "evaluation of credential against trusted names failed, aborting PKIX validation"
    return false

end TrustEngine

end TrustPath
