import TrustPath.Credential
import TrustPath.Log
import TrustPath.TextSet

/-!
# Evaluating names

The names of a credential are checked against a set of trusted names. Three checks may be active:
the alternative names of some kinds and the most specific common name have to be members of the
set, and the subject has to equal a member that is read as a distinguished name. The first match
decides. Without an active check every credential passes; otherwise no names trust nobody.
-/

namespace TrustPath

/-- Which checks are active, the kinds of alternative names that are checked, and how
distinguished names are read and written. -/
structure NameEvaluator where
  checkAltNames : Bool := true
  checkCommonName : Bool := true
  checkSubject : Bool := true
  altNameTypes : List AltNameType := [.dns, .uri]
  handler : NameHandler := .builtin

namespace NameEvaluator

/-- Check these kinds of alternative names, in the order of their tags and without repetition. -/
def withAltNameTypes (e : NameEvaluator) (types : List AltNameType) : NameEvaluator :=
  { e with altNameTypes := AltNameType.all.filter (types.contains ·) }

def isActive (e : NameEvaluator) : Bool := e.checkAltNames || e.checkCommonName || e.checkSubject

def matchAltNames (e : NameEvaluator) (c : Certificate) (trusted : TextSet) :
    ExceptT TrustError Logging Bool := do
  logDebug "processing subject alt names"
  let names ← MonadExcept.ofExcept (c.altNames e.altNameTypes)
  logDebug ("extracted subject alt names from certificate: " ++ Text.quotedList names)
  match names.find? trusted.contains with
  | some name =>
    logDebug ("matched subject alt name to trusted names: " ++ name)
    return true
  | none => return false

/-- Whether the most specific common name is trusted. -/
def matchCommonName (c : Certificate) (trusted : TextSet) : Logging Bool := do
  logDebug "processing subject DN common name"
  match c.commonNames.head? with
  | none => return false
  | some name =>
    logDebug ("extracted common name from certificate: " ++ name)
    if !name.isEmpty && trusted.contains name then
      logDebug ("matched subject DN common name to trusted names: " ++ name)
      return true
    else return false

def matchSubjectAmong (e : NameEvaluator) (subject : DistinguishedName) :
    List String → Logging Bool
  | [] => return false
  | name :: rest => do
    match e.handler.parse name with
    | .ok dn =>
      logDebug ("evaluating DN parsed from trusted name: " ++ name)
      if dn == subject then
        logDebug ("matched subject DN to trusted names: " ++ e.handler.name subject)
        return true
      else matchSubjectAmong e subject rest
    | .error _ =>
      logDebug ("trusted name was not a DN or could not be parsed: " ++ name)
      matchSubjectAmong e subject rest

def matchSubject (e : NameEvaluator) (c : Certificate) (trusted : TextSet) : Logging Bool := do
  logDebug "processing subject DN"
  logDebug ("extracted subject DN from certificate: " ++ e.handler.name c.subject)
  e.matchSubjectAmong c.subject trusted.toList

/-- Run one check if it is active, and say so if it passes. -/
def runCheck (active : Bool) (check : ExceptT TrustError Logging Bool) (passed : String) :
    ExceptT TrustError Logging Bool := do
  if !active then return false
  else if ← check then
    logDebug passed
    return true
  else return false

def runChecks (e : NameEvaluator) (c : Certificate) (token : String) (trusted : TextSet) :
    ExceptT TrustError Logging Bool := do
  let passed (basis : String) : String :=
    "credential " ++ token ++ " passed name check based on " ++ basis
  if ← runCheck e.checkAltNames (e.matchAltNames c trusted) (passed "subject alt names") then
    return true
  else if ← runCheck e.checkCommonName (matchCommonName c trusted)
      (passed "subject common name") then
    return true
  else if ← runCheck e.checkSubject (e.matchSubject c trusted) (passed "subject DN") then
    return true
  else
    MonadLog.log .info ("credential failed name check: " ++ token)
    return false

/-- Evaluate a credential against trusted names, if there are any. -/
def evaluate (e : NameEvaluator) (credential : Credential) (trusted : Option TextSet) :
    ExceptT TrustError Logging Bool := do
  if !e.isActive then
    logDebug "no trusted name options are active, skipping name evaluation"
    return true
  else match trusted.filter (!·.isEmpty) with
  | none =>
    logDebug "supplied trusted names are missing or empty, failing name evaluation"
    return false
  | some names =>
    let token := credential.token e.handler
    logDebug ("checking trusted names against credential: " ++ token)
    logDebug ("trusted names being evaluated are: " ++ Text.quotedSet names.toList)
    let c ← MonadExcept.ofExcept credential.certificate
    e.runChecks c token names

end NameEvaluator

end TrustPath
