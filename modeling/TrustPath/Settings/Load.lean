import TrustPath.Config.Json5
import TrustPath.Config.Path
import TrustPath.Config.Ron
import TrustPath.Config.Toml.Document
import TrustPath.Settings.Basic

/-!
# Loading settings

Settings are loaded from a text in one of four formats. What the text says is laid over the
default settings, so that it only has to mention what differs; the outcome is read section by
section, and the settings have to be valid. Unknown keys do not matter. A section may also be a
list, whose members are its fields in their order.
-/

namespace TrustPath

/-- The formats of settings. -/
inductive SettingsFormat
  | json
  | json5
  | toml
  | ron
deriving Repr, DecidableEq

namespace SettingsFormat

/-- The format with a name, in any case of letters. -/
def ofName? (name : String) : Option SettingsFormat :=
  match Text.lowercase name with
  | "json" => some .json
  | "json5" => some .json5
  | "toml" => some .toml
  | "ron" => some .ron
  | _ => none

def parse? : SettingsFormat → String → Option ConfigValue
  | .json => Json.parse?
  | .json5 => Json5.parse?
  | .toml => Toml.parse?
  | .ron => Ron.parse?

end SettingsFormat

/-! ## Sections -/

/-- The fields of a section: the entries of a table, or the members of a list, which belong to the
names of the fields in their order. -/
def ConfigValue.fields? (names : List String) : ConfigValue → Option ConfigTable
  | .table entries => some entries
  | .array values => some (names.zip values)
  | _ => none

/-- A field of a section, or the default if it is missing. -/
def ConfigTable.field? {α : Type} (fields : ConfigTable) (name : String)
    (read : ConfigValue → Option α) (default : α) : Option α :=
  match fields.get? name with
  | some value => read value
  | none => some default

def ConfigValue.toTextSet? (value : ConfigValue) : Option TextSet :=
  (value.toList? ConfigValue.toText?).map TextSet.ofList

/-- A value read as a kind of alternative name, which is named in any case of letters. -/
def ConfigValue.toAltNameType? (value : ConfigValue) : Option AltNameType :=
  value.choice?.bind fun name => AltNameType.ofLabel? (Text.lowercase name)

/-- A list as a field of a section, which has no field for an empty one. -/
def ConfigTable.listField (name : String) (values : List ConfigValue) : ConfigTable :=
  if values.isEmpty then [] else [(name, .array values)]

namespace ValidationOptions

def fieldNames : List String :=
  ["default_verification_depth", "process_empty_crls", "process_expired_crls",
   "process_credential_crls", "force_revocation_enabled", "revocation_enabled",
   "policy_mapping_inhibited", "any_policy_inhibited", "initial_policies"]

def toConfig (o : ValidationOptions) : ConfigValue :=
  .table
    ([("default_verification_depth", .int o.defaultVerificationDepth),
      ("process_empty_crls", .bool o.processEmptyCrls),
      ("process_expired_crls", .bool o.processExpiredCrls),
      ("process_credential_crls", .bool o.processCredentialCrls),
      ("force_revocation_enabled", .bool o.forceRevocationEnabled),
      ("revocation_enabled", .bool o.revocationEnabled),
      ("policy_mapping_inhibited", .bool o.policyMappingInhibited),
      ("any_policy_inhibited", .bool o.anyPolicyInhibited)]
    ++ ConfigTable.listField "initial_policies"
      (o.initialPolicies.toList.map ConfigValue.string))

def ofConfig? (value : ConfigValue) : Option ValidationOptions := do
  let fields ← value.fields? fieldNames
  let o : ValidationOptions := {}
  let flag (name : String) (default : Bool) : Option Bool :=
    fields.field? name ConfigValue.toBool? default
  return {
    defaultVerificationDepth := ← fields.field? "default_verification_depth"
      ConfigValue.toInt32? o.defaultVerificationDepth
    processEmptyCrls := ← flag "process_empty_crls" o.processEmptyCrls
    processExpiredCrls := ← flag "process_expired_crls" o.processExpiredCrls
    processCredentialCrls := ← flag "process_credential_crls" o.processCredentialCrls
    forceRevocationEnabled := ← flag "force_revocation_enabled" o.forceRevocationEnabled
    revocationEnabled := ← flag "revocation_enabled" o.revocationEnabled
    policyMappingInhibited := ← flag "policy_mapping_inhibited" o.policyMappingInhibited
    anyPolicyInhibited := ← flag "any_policy_inhibited" o.anyPolicyInhibited
    initialPolicies := ← fields.field? "initial_policies" ConfigValue.toTextSet?
      o.initialPolicies }

end ValidationOptions

namespace NameCheckSettings

def fieldNames : List String :=
  ["check_subject_alt_names", "check_subject_dn_common_name", "check_subject_dn",
   "subject_alt_name_types"]

def toConfig (s : NameCheckSettings) : ConfigValue :=
  .table
    ([("check_subject_alt_names", .bool s.checkAltNames),
      ("check_subject_dn_common_name", .bool s.checkCommonName),
      ("check_subject_dn", .bool s.checkSubject)]
    ++ ConfigTable.listField "subject_alt_name_types"
      (s.altNameTypes.map fun kind => .string kind.label))

def ofConfig? (value : ConfigValue) : Option NameCheckSettings := do
  let fields ← value.fields? fieldNames
  let s : NameCheckSettings := {}
  return {
    checkAltNames := ← fields.field? "check_subject_alt_names" ConfigValue.toBool?
      s.checkAltNames
    checkCommonName := ← fields.field? "check_subject_dn_common_name" ConfigValue.toBool?
      s.checkCommonName
    checkSubject := ← fields.field? "check_subject_dn" ConfigValue.toBool? s.checkSubject
    altNameTypes := ← fields.field? "subject_alt_name_types"
      (ConfigValue.toList? ConfigValue.toAltNameType?) s.altNameTypes }

end NameCheckSettings

namespace TrustSettings

def fieldNames : List String :=
  ["trust_anchors", "crls", "verification_depth", "trusted_names",
   "support_dynamic_trusted_names"]

def toConfig (s : TrustSettings) : ConfigValue :=
  .table
    ([("trust_anchors", (s.trustAnchors.map ConfigValue.string).getD .nil),
      ("crls", (s.crls.map ConfigValue.string).getD .nil),
      ("verification_depth", (s.verificationDepth.map ConfigValue.int).getD .nil)]
    ++ ConfigTable.listField "trusted_names" (s.trustedNames.toList.map ConfigValue.string)
    ++ [("support_dynamic_trusted_names", .bool s.supportDynamicTrustedNames)])

def ofConfig? (value : ConfigValue) : Option TrustSettings := do
  let fields ← value.fields? fieldNames
  let s : TrustSettings := {}
  let text? := ConfigValue.toOption? ConfigValue.toText?
  return {
    trustAnchors := ← fields.field? "trust_anchors" text? s.trustAnchors
    crls := ← fields.field? "crls" text? s.crls
    verificationDepth := ← fields.field? "verification_depth"
      (ConfigValue.toOption? ConfigValue.toInt32?) s.verificationDepth
    trustedNames := ← fields.field? "trusted_names" ConfigValue.toTextSet? s.trustedNames
    supportDynamicTrustedNames := ← fields.field? "support_dynamic_trusted_names"
      ConfigValue.toBool? s.supportDynamicTrustedNames }

end TrustSettings

namespace Settings

def toConfig (s : Settings) : ConfigValue :=
  .table [("validation", s.validation.toConfig), ("name_checks", s.nameChecks.toConfig),
    ("trust", s.trust.toConfig)]

def ofConfig? (value : ConfigValue) : Option Settings := do
  let fields ← value.fields? ["validation", "name_checks", "trust"]
  let s : Settings := {}
  return {
    validation := ← fields.field? "validation" ValidationOptions.ofConfig? s.validation
    nameChecks := ← fields.field? "name_checks" NameCheckSettings.ofConfig? s.nameChecks
    trust := ← fields.field? "trust" TrustSettings.ofConfig? s.trust }

/-- The settings that a text lays over the default ones, if the text can be read. -/
def read? (format : SettingsFormat) (text : String) : Option Settings := do
  match ← format.parse? text with
  | .table entries => ofConfig? ((toConfig {}).overlay entries)
  | _ => none

/-- Load settings from a text in a format of this name. -/
def load (text formatName : String) : Except TrustError Settings :=
  match SettingsFormat.ofName? formatName with
  | none => .error (.badParam ("unsupported settings format: " ++ formatName))
  | some format =>
    match read? format text with
    | none => .error (.badParam "the settings cannot be read")
    | some settings => settings.validate.map fun _ => settings

end Settings

end TrustPath
