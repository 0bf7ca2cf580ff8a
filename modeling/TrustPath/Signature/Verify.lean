import TrustPath.Certificate.Basic
import TrustPath.Signature.Rsa
import TrustPath.Signature.Ecdsa
import TrustPath.Signature.Ed25519

/-!
# Checking signatures

The algorithm beside a signature chooses how it is checked. The bits of the key are used whatever
algorithm the key names, but for ECDSA the key's parameters have to name the curve. An algorithm
that is not known, or a key that does not fit it, means that the signature does not hold.
-/

namespace TrustPath

namespace Signature

def sha1WithRsa : Oid := ⟨[0x2a, 0x86, 0x48, 0x86, 0xf7, 0x0d, 0x01, 0x01, 0x05]⟩
def sha1WithRsaOld : Oid := ⟨[0x2b, 0x0e, 0x03, 0x02, 0x1d]⟩
def sha256WithRsa : Oid := ⟨[0x2a, 0x86, 0x48, 0x86, 0xf7, 0x0d, 0x01, 0x01, 0x0b]⟩
def sha384WithRsa : Oid := ⟨[0x2a, 0x86, 0x48, 0x86, 0xf7, 0x0d, 0x01, 0x01, 0x0c]⟩
def sha512WithRsa : Oid := ⟨[0x2a, 0x86, 0x48, 0x86, 0xf7, 0x0d, 0x01, 0x01, 0x0d]⟩
def ecdsaWithSha256 : Oid := ⟨[0x2a, 0x86, 0x48, 0xce, 0x3d, 0x04, 0x03, 0x02]⟩
def ecdsaWithSha384 : Oid := ⟨[0x2a, 0x86, 0x48, 0xce, 0x3d, 0x04, 0x03, 0x03]⟩
def ed25519 : Oid := ⟨[0x2b, 0x65, 0x70]⟩
def curveP256 : Oid := ⟨[0x2a, 0x86, 0x48, 0xce, 0x3d, 0x03, 0x01, 0x07]⟩
def curveP384 : Oid := ⟨[0x2b, 0x81, 0x04, 0x00, 0x22]⟩

def curveOf? (key : PublicKey) : Option Ecdsa.Curve :=
  match key.algorithm.parameters with
  | none => none
  | some e =>
    if (⟨e.content⟩ : Oid) = curveP256 then some Ecdsa.p256
    else if (⟨e.content⟩ : Oid) = curveP384 then some Ecdsa.p384
    else none

end Signature

open Signature in
def Signed.holdsUnder (s : Signed) (key : PublicKey) : Bool :=
  let rsa (d : Rsa.Digest) : Bool := Rsa.verify d key.bits s.message s.signature
  let ecdsa (hash : Octets → Octets) : Bool :=
    match curveOf? key with
    | some curve => Ecdsa.verify curve key.bits (hash s.message) s.signature
    | none => false
  let oid := s.algorithm.oid
  if oid = sha1WithRsa ∨ oid = sha1WithRsaOld then rsa Rsa.sha1
  else if oid = sha256WithRsa then rsa Rsa.sha256
  else if oid = sha384WithRsa then rsa Rsa.sha384
  else if oid = sha512WithRsa then rsa Rsa.sha512
  else if oid = ecdsaWithSha256 then ecdsa Sha2.sha256
  else if oid = ecdsaWithSha384 then ecdsa Sha2.sha384
  else if oid = ed25519 then Ed25519.verify key.bits s.message s.signature
  else false

end TrustPath
