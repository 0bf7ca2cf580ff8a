import TrustPath.Octets
import TrustPath.Signature.Modular
import TrustPath.Hash.Sha2

/-!
# Ed25519 signatures

Verification over the twisted Edwards curve `-x ^ 2 + y ^ 2 = 1 + d x ^ 2 y ^ 2` modulo
`2 ^ 255 - 19`. Points are kept in extended coordinates, where `(x, y, z, t)` stands for
`(x / z, y / z)` and `t = x y / z`; one rule of addition serves for every pair of points.
-/

namespace TrustPath.Ed25519

def prime : Nat := Nat.pow 2 255 - 19

def order : Nat := Nat.pow 2 252 + 27742317777372353535851937790883648493

/-- The coefficient of the curve. -/
def d : Nat := 37095705934669439343138083508754565189542113879843219016388785533085940283555

/-- A point in extended coordinates. -/
structure Point where
  x : Nat
  y : Nat
  z : Nat
  t : Nat

def neutral : Point := ⟨0, 1, 1, 0⟩

def affine (x y : Nat) : Point := ⟨x, y, 1, x * y % prime⟩

def base : Point :=
  affine 15112221349535400772501151409588531511454012693041857206046113283949847762202
    46316835694926478169428394003475163141307993866256225615783033603165251855960

def add (p q : Point) : Point :=
  let a := Modular.sub p.y p.x prime * Modular.sub q.y q.x prime % prime
  let b := (p.y + p.x) * (q.y + q.x) % prime
  let c := 2 * (p.t * q.t % prime) * d % prime
  let e := 2 * (p.z * q.z) % prime
  let f := Modular.sub b a prime
  let g := Modular.sub e c prime
  let h := (e + c) % prime
  let k := (b + a) % prime
  ⟨f * g % prime, h * k % prime, g * h % prime, f * k % prime⟩

def negate (p : Point) : Point :=
  ⟨Modular.sub 0 p.x prime, p.y, p.z, Modular.sub 0 p.t prime⟩

/-- `u` times one point plus `v` times another, bit by bit from the highest. -/
def combine (u v : Nat) (p q : Point) : Point :=
  let both := add p q
  (List.range (max u.log2 v.log2 + 1)).reverse.foldl
    (fun r i =>
      let r := add r r
      match u.testBit i, v.testBit i with
      | true, true => add r both
      | true, false => add r p
      | false, true => add r q
      | false, false => r)
    neutral

/-- The number that octets spell, least significant octet first. -/
def littleEndian (octets : Octets) : Nat := Octets.toNat octets.reverse

/-- A square root of `u / v` in the field, if there is one. -/
def rootOfRatio? (u v : Nat) : Option Nat :=
  let v3 := v * v % prime * v % prime
  let v7 := v3 * v3 % prime * v % prime
  let r := u * v3 % prime * Modular.pow (u * v7 % prime) ((prime - 5) / 8) prime % prime
  let check := v * (r * r % prime) % prime
  if check = u then some r
  else if check = Modular.sub 0 u prime then
    some (r * Modular.pow 2 ((prime - 1) / 4) prime % prime)
  else none

/-- The point that thirty-two octets encode: the second coordinate, and in the highest bit the
parity of the first. -/
def decode? (octets : Octets) : Option Point :=
  let n := littleEndian octets
  let y := n % Nat.pow 2 255 % prime
  let y2 := y * y % prime
  match rootOfRatio? (Modular.sub y2 1 prime) ((d * y2 + 1) % prime) with
  | none => none
  | some r =>
    let x := if r % 2 = n / Nat.pow 2 255 then r else Modular.sub 0 r prime
    some (affine x y)

def encode (p : Point) : Octets :=
  let z := Modular.inverse p.z prime
  let x := p.x * z % prime
  let y := p.y * z % prime
  (Octets.ofNat 32 (y + x % 2 * Nat.pow 2 255)).reverse

/-- Whether the signature is the message's under the key. -/
def verify (key message signature : Octets) : Bool :=
  key.length == 32 && signature.length == 64 &&
    match decode? key with
    | none => false
    | some a =>
      let r := signature.take 32
      let s := littleEndian (signature.drop 32)
      let k := littleEndian (Sha2.sha512 (r ++ key ++ message)) % order
      decide (s < order) && encode (combine s k base (negate a)) == r

end TrustPath.Ed25519
