import TrustPath.Credential
import TrustPath.Log
import TrustPath.Options
import TrustPath.ValidationInfo

/-!
# The material for building paths

The certificates of a credential's chain and the revocation lists that the options admit are
decoded before a path is searched for. An encoding that does not decode ends the preparation. The
log says what was taken and what was left out.
-/

namespace TrustPath

/-- The untrusted certificates and the revocation lists of a search. -/
structure PathStore where
  certificates : List Certificate
  crls : List Crl

namespace PathStore

/-- Decode every encoding in order, or stop at the first that does not decode. -/
def decodeAll {α : Type} (decode : Octets → Except TrustError α) :
    List Octets → Except TrustError (List α)
  | [] => .ok []
  | der :: rest => do return (← decode der) :: (← decodeAll decode rest)

def certificateLine (handler : NameHandler) (c : Certificate) : LogLine :=
  ⟨.trace, "added certificate from entity cert chain to cert store with subject name '"
    ++ handler.name c.subject ++ "' issued by '" ++ handler.name c.issuer
    ++ "' with serial number '" ++ Octets.toHexWith ":" c.serial ++ "'"⟩

def admits (options : ValidationOptions) (now : Int) (crl : Crl) : Bool :=
  (options.processEmptyCrls || !crl.revoked.isEmpty)
    && (options.processExpiredCrls || !crl.isExpired now)

/-- The lines about a list: why it was left out, or that it was taken and what is special about
it. -/
def crlLines (options : ValidationOptions) (handler : NameHandler) (now : Int) (crl : Crl) :
    List LogLine :=
  let issuer := handler.name crl.issuer
  let source := "from issuer " ++ issuer ++ " dated " ++ crl.thisUpdate.text
  if crl.revoked.isEmpty && !options.processEmptyCrls then
    [⟨.trace, "empty CRL not added to cert store, " ++ source⟩]
  else if crl.isExpired now && !options.processExpiredCrls then
    [⟨.trace, "expired CRL not added to cert store, " ++ source⟩]
  else
    let added : LogLine := ⟨.trace, "added CRL to cert store " ++ source⟩
    let empty : LogLine := ⟨.trace, "CRL added to cert store " ++ source ++ " was empty"⟩
    let expired : List LogLine := match crl.nextUpdate with
      | some due =>
        if due.timestamp < now then
          [⟨.warn, "using CRL from issuer " ++ issuer ++ " with a nextUpdate in the past: "
            ++ due.text⟩]
        else []
      | none => []
    added :: (if crl.revoked.isEmpty then [empty] else []) ++ expired

/-- Decode revocation lists in order and keep those that are admitted. -/
def takeCrls (options : ValidationOptions) (handler : NameHandler) (now : Int) :
    List Octets → ExceptT TrustError Logging (List Crl)
  | [] => return []
  | der :: rest => do
    let crl ← MonadExcept.ofExcept (Crl.decode der)
    Logging.lines (crlLines options handler now crl)
    let crls ← takeCrls options handler now rest
    return if admits options now crl then crl :: crls else crls

/-- Take the revocation lists of one source, if it has any. -/
def takeSource (options : ValidationOptions) (handler : NameHandler) (now : Int) (source : String)
    (ders : List Octets) : ExceptT TrustError Logging (List Crl) := do
  if ders.isEmpty then return []
  Logging.line .trace ("processing CRLs from " ++ source)
  takeCrls options handler now ders

/-- Prepare the material of a search: the certificates of the chain, and the revocation lists of
the information and, if the options want them, of the credential. -/
def prepare (info : ValidationInfo) (credential : Credential) (options : ValidationOptions)
    (handler : NameHandler) (now : Int) : ExceptT TrustError Logging PathStore := do
  Logging.line .trace "creating cert store to use during path validation"
  Logging.line .trace "adding entity certificate chain to cert store"
  let certificates ← MonadExcept.ofExcept (decodeAll Certificate.decode credential.chain)
  Logging.lines (certificates.map (certificateLine handler))
  let supplied ← takeSource options handler now "PKIX validation information" info.crls
  let presented ← takeSource options handler now "untrusted credential"
    (if options.processCredentialCrls then credential.crls else [])
  return ⟨certificates, supplied ++ presented⟩

end PathStore

end TrustPath
