import TrustPath.Pem
import TrustPath.Crl

/-!
# Bundles of certificates and revocation lists

Material comes as a PEM text with any number of blocks, of which those with the right label count,
or as a single DER encoding. Every item has to decode.
-/

namespace TrustPath.Bundle

def certificateLabels : List String := ["CERTIFICATE", "X509 CERTIFICATE"]

def crlLabels : List String := ["X509 CRL"]

/-- The encodings in a bundle: the blocks with one of the labels, or the whole as one encoding. -/
def items (labels : List String) (data : Octets) : Except String (List Octets) :=
  if Pem.looksLikePem data then
    match Pem.blocks data with
    | .error fault => .error fault.message
    | .ok blocks => .ok ((blocks.filter (·.label ∈ labels)).map (·.contents))
  else .ok [data]

/-- Check that every encoding decodes; the first that does not gives the error. -/
def checkAll {α : Type} (decode : Octets → Except TrustError α) :
    List Octets → Except TrustError Unit
  | [] => .ok ()
  | der :: rest =>
    match decode der with
    | .error e => .error e
    | .ok _ => checkAll decode rest

def certificates (data : Octets) : Except TrustError (List Octets) :=
  match items certificateLabels data with
  | .error detail => .error (.invalidCertificate detail)
  | .ok ders => (checkAll Certificate.decode ders).map fun _ => ders

def crls (data : Octets) : Except TrustError (List Octets) :=
  match items crlLabels data with
  | .error detail => .error (.invalidCrl detail)
  | .ok ders => (checkAll Crl.decode ders).map fun _ => ders

end TrustPath.Bundle
