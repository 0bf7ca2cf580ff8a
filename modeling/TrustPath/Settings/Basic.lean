import TrustPath.Bundle
import TrustPath.NameEvaluator
import TrustPath.Options
import TrustPath.Resolver

/-!
# Settings

Settings describe a whole source of trust: the options of path validation, the checks of names,
and the trust anchors, revocation lists and trusted names of one set of information. Settings are
valid if their initial policies are object identifiers and their bundles decode, so that what is
built of valid settings has no malformed material.
-/

namespace TrustPath

/-- Which checks of names are active, and the kinds of alternative names that they cover. -/
structure NameCheckSettings where
  checkAltNames : Bool := true
  checkCommonName : Bool := true
  checkSubject : Bool := true
  altNameTypes : List AltNameType := [.dns, .uri]
deriving Repr, DecidableEq

/-- One set of validation information, its bundles as texts, and the names that are trusted. -/
structure TrustSettings where
  trustAnchors : Option String := none
  crls : Option String := none
  verificationDepth : Option Int := none
  trustedNames : TextSet := .empty
  supportDynamicTrustedNames : Bool := false
deriving Repr, DecidableEq

/-- Settings of a source of trust. -/
structure Settings where
  validation : ValidationOptions := {}
  nameChecks : NameCheckSettings := {}
  trust : TrustSettings := {}
deriving Repr, DecidableEq

/-! ## Bundles in settings -/

/-- A text in which the two characters `\n` stand for the end of a line. -/
def unescapeLineEnds : List Char → List Char
  | '\\' :: 'n' :: rest => '\n' :: unescapeLineEnds rest
  | c :: rest => c :: unescapeLineEnds rest
  | [] => []

/-- The items of a bundle, which is the setting of this name: none if it is missing or blank, and
otherwise at least one. -/
def decodeBundle (name : String) (decode : Octets → Except TrustError (List Octets))
    (bundle : Option String) : Except TrustError (List Octets) :=
  match bundle.filter fun text => !text.toList.all Text.isBlank with
  | none => .ok []
  | some text =>
    match decode (Octets.ofText (String.ofList (unescapeLineEnds text.toList))) with
    | .error e => .error (.badParam (name ++ ": " ++ e.message))
    | .ok [] => .error (.badParam (name ++ ": no usable PEM blocks found"))
    | .ok ders => .ok ders

namespace TrustSettings

def anchorDers (trust : TrustSettings) : Except TrustError (List Octets) :=
  decodeBundle "trust_anchors" Bundle.certificates trust.trustAnchors

def crlDers (trust : TrustSettings) : Except TrustError (List Octets) :=
  decodeBundle "crls" Bundle.crls trust.crls

def info (trust : TrustSettings) : Except TrustError ValidationInfo := do
  let anchors ← trust.anchorDers
  let crls ← trust.crlDers
  return ⟨anchors, crls, trust.verificationDepth⟩

end TrustSettings

namespace Settings

/-- Check that the initial policies are object identifiers; the first that is none is reported. -/
def checkPolicies (policies : TextSet) : Except TrustError Unit :=
  match policies.toList.find? (!Oid.isDottedText ·) with
  | some policy => .error (.badParam ("initial policy is not a valid OID: " ++ policy))
  | none => .ok ()

def validate (settings : Settings) : Except TrustError Unit := do
  checkPolicies settings.validation.initialPolicies
  let _ ← settings.trust.info

/-- The evaluator of names that the settings describe. -/
def nameEvaluator (settings : Settings) : NameEvaluator :=
  { checkAltNames := settings.nameChecks.checkAltNames
    checkCommonName := settings.nameChecks.checkCommonName
    checkSubject := settings.nameChecks.checkSubject : NameEvaluator }.withAltNameTypes
    settings.nameChecks.altNameTypes

def resolver (settings : Settings) : Except TrustError StaticResolver := do
  let info ← settings.trust.info
  return ⟨[info], settings.trust.trustedNames, settings.trust.supportDynamicTrustedNames⟩

end Settings

end TrustPath
