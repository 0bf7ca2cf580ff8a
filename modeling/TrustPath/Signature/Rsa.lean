import TrustPath.Der.Strict
import TrustPath.Signature.Modular
import TrustPath.Hash.Sha1

/-!
# RSA signatures

Verification of PKCS #1 version 1.5 signatures: the signature raised to the public exponent has
to be the padded digest, octet for octet.
-/

namespace TrustPath.Rsa

/-- A digest function with the octets that announce it inside a signature and the least size of
a key, in bits, that it is used with. -/
structure Digest where
  hash : Octets → Octets
  lead : Octets
  leastBits : Nat

/-- SHA-1, kept for old signatures; keys may be short. -/
def sha1 : Digest :=
  ⟨Sha1.sha1,
    [0x30, 0x21, 0x30, 0x09, 0x06, 0x05, 0x2b, 0x0e, 0x03, 0x02, 0x1a, 0x05, 0x00, 0x04, 0x14],
    1024⟩

/-- SHA-256. -/
def sha256 : Digest :=
  ⟨Sha2.sha256,
    [0x30, 0x31, 0x30, 0x0d, 0x06, 0x09, 0x60, 0x86, 0x48, 0x01, 0x65, 0x03, 0x04, 0x02, 0x01,
      0x05, 0x00, 0x04, 0x20],
    2048⟩

def sha384 : Digest :=
  ⟨Sha2.sha384,
    [0x30, 0x41, 0x30, 0x0d, 0x06, 0x09, 0x60, 0x86, 0x48, 0x01, 0x65, 0x03, 0x04, 0x02, 0x02,
      0x05, 0x00, 0x04, 0x30],
    2048⟩

def sha512 : Digest :=
  ⟨Sha2.sha512,
    [0x30, 0x51, 0x30, 0x0d, 0x06, 0x09, 0x60, 0x86, 0x48, 0x01, 0x65, 0x03, 0x04, 0x02, 0x03,
      0x05, 0x00, 0x04, 0x40],
    2048⟩

/-- The octets that hold a number. -/
def size (n : Nat) : Nat := (n.log2 + 8) / 8

/-- Whether modulus and exponent make a usable key: both odd, the modulus within its bounds
counted in whole octets, the exponent from 3 to thirty-three bits. -/
def isUsable (leastBits modulus exponent : Nat) : Bool :=
  modulus % 2 == 1 && decide (leastBits ≤ 8 * size modulus) && decide (modulus < Nat.pow 2 8192)
    && exponent % 2 == 1 && decide (3 ≤ exponent) && decide (exponent < Nat.pow 2 33)

/-- The padded digest in as many octets as the modulus has. -/
def padded (d : Digest) (octets : Nat) (message : Octets) : Octets :=
  let info := d.lead ++ d.hash message
  [0x00, 0x01] ++ List.replicate (octets - info.length - 3) 0xff ++ [0x00] ++ info

/-- Whether the signature is the message's under the key, a `SEQUENCE` of modulus and exponent. -/
def verify (d : Digest) (key message signature : Octets) : Bool :=
  match Der.Strict.pair? key with
  | none => false
  | some (modulus, exponent) =>
    let s := Octets.toNat signature
    isUsable d.leastBits modulus exponent && signature.length == size modulus
      && decide (s < modulus)
      && Octets.ofNat (size modulus) (Modular.pow s exponent modulus)
        == padded d (size modulus) message

end TrustPath.Rsa
