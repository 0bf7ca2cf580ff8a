import TrustPath.Fingerprint
import TrustPath.Path.Search
import TrustPath.Path.Store

/-!
# Evaluating a credential by its path

A credential is evaluated against one set of validation information by building a path from its
certificate to one of the anchors. That no path can be built is an answer; that the information
has no anchor or that something does not decode is an error.
-/

namespace TrustPath

/-- What an attempt to build a path comes to. -/
inductive PathResult
  | found
  | notFound
  | fatal (error : TrustError)
deriving Repr, DecidableEq

def PathResult.toExcept : PathResult → Except TrustError Bool
  | .found => .ok true
  | .notFound => .ok false
  | .fatal error => .error error

/-- How credentials are evaluated: the options, and how names are written in the log. -/
structure PathEvaluator where
  options : ValidationOptions := {}
  handler : NameHandler := .builtin

namespace PathEvaluator

def describe (e : PathEvaluator) (c : Certificate) : String :=
  e.handler.name c.subject ++ " (sha256 " ++ fingerprint c.der ++ ")"

/-- The greatest depth of a path: that of the information, or else of the options. -/
def depth (e : PathEvaluator) (info : ValidationInfo) : Int :=
  info.depth.getD e.options.defaultVerificationDepth

def checksRevocation (e : PathEvaluator) (store : PathStore) : Bool :=
  if e.options.forceRevocationEnabled then e.options.revocationEnabled else !store.crls.isEmpty

/-- What the search depends on. An explicit policy is required when there are initial ones. -/
def parameters (e : PathEvaluator) (info : ValidationInfo) (store : PathStore) (now : Int) :
    PathParameters :=
  { maxPathLength := e.depth info
    revocationEnabled := e.checksRevocation store
    policy :=
      { initialPolicies := e.options.initialPolicies
        explicitPolicyRequired := !e.options.initialPolicies.isEmpty
        policyMappingInhibited := e.options.policyMappingInhibited
        anyPolicyInhibited := e.options.anyPolicyInhibited }
    now }

def parameterLines (e : PathEvaluator) (info : ValidationInfo) (store : PathStore) :
    List LogLine :=
  let depth : LogLine := ⟨.trace, "setting max verification depth to: " ++ toString (e.depth info)⟩
  let revocation : LogLine := ⟨.trace,
    if e.options.forceRevocationEnabled then
      "revocation checking is being forced to: " ++ toString e.options.revocationEnabled
    else if store.crls.isEmpty then "no CRLs present in cert store, disabling revocation checking"
    else "at least one CRL was present in cert store, enabling revocation checking"⟩
  let policies : List LogLine :=
    if e.options.initialPolicies.isEmpty then []
    else [⟨.debug, "initial policies are being set to: "
      ++ Text.quotedSet e.options.initialPolicies.toList⟩]
  depth :: revocation :: policies

def pathLines (e : PathEvaluator) (target : Certificate) (path : BuiltPath) : List LogLine :=
  ⟨.debug, "built valid PKIX cert path"⟩
    :: ⟨.debug, "target certificate: " ++ e.describe target⟩
    :: path.certificates.map (fun c => ⟨.debug, "cert path certificate: " ++ e.describe c⟩)
    ++ [⟨.debug, "trust anchor: " ++ e.describe path.anchor⟩]

/-- Build a path, or give the reason why there is none. -/
def attempt (e : PathEvaluator) (now : Int) (info : ValidationInfo) (credential : Credential) :
    ExceptT TrustError Logging (Except PathFailure BuiltPath) := do
  if info.anchors.isEmpty then throw .noTrustAnchors
  Logging.line .trace "constructing trust anchors for PKIX validation"
  let anchors ← MonadExcept.ofExcept (PathStore.decodeAll Certificate.decode info.anchors)
  Logging.lines (anchors.map fun c => ⟨.trace, "trust anchor: " ++ e.describe c⟩)
  let target ← MonadExcept.ofExcept credential.certificate
  let store ← PathStore.prepare info credential e.options e.handler now
  Logging.lines (e.parameterLines info store)
  let problem : PathProblem :=
    { target, anchors, pool := store.certificates, crls := store.crls
      parameters := e.parameters info store now }
  let (result, lines) := problem.solve
  Logging.lines lines
  match result with
  | .ok path => Logging.lines (e.pathLines target path)
  | .error _ => pure ()
  return result

/-- Evaluate a credential. The reason why no path could be built is only written in full detail. -/
def buildPath (e : PathEvaluator) (now : Int) (info : ValidationInfo) (credential : Credential) :
    Logging PathResult := do
  let token := credential.token e.handler
  Logging.line .debug ("attempting PKIX path validation on untrusted credential: " ++ token)
  match ← (e.attempt now info credential).run with
  | .ok (.ok _) => return .found
  | .ok (.error failure) =>
    let text := "PKIX path construction failed for untrusted credential: " ++ token
    if ← Logging.enabled .trace then Logging.line .trace (text ++ ": " ++ failure.message)
    else Logging.line .error text
    return .notFound
  | .error error =>
    Logging.line .error ("PKIX validation failure for untrusted credential: " ++ token ++ ": "
      ++ error.message)
    return .fatal error

/-- Evaluate a credential, with a negative answer where there is no path. -/
def validate (e : PathEvaluator) (now : Int) (info : ValidationInfo) (credential : Credential) :
    Logging (Except TrustError Bool) := do
  return (← e.buildPath now info credential).toExcept

end PathEvaluator

end TrustPath
