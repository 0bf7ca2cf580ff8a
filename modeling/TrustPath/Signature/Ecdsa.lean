import TrustPath.Der.Strict
import TrustPath.Signature.Modular
import TrustPath.Hash.Sha2

/-!
# ECDSA signatures

Verification over the curves P-256 and P-384. Points are kept in Jacobian coordinates, where
`(x, y, z)` stands for `(x / z ^ 2, y / z ^ 3)` and `z = 0` for the point at infinity.
-/

namespace TrustPath.Ecdsa

/-- A curve `y ^ 2 = x ^ 3 - 3 x + b` over a prime field, with a generator of prime order. -/
structure Curve where
  size : Nat
  prime : Nat
  b : Nat
  order : Nat
  generatorX : Nat
  generatorY : Nat

def p256 : Curve where
  size := 32
  prime := 0xffffffff00000001000000000000000000000000ffffffffffffffffffffffff
  b := 0x5ac635d8aa3a93e7b3ebbd55769886bc651d06b0cc53b0f63bce3c3e27d2604b
  order := 0xffffffff00000000ffffffffffffffffbce6faada7179e84f3b9cac2fc632551
  generatorX := 0x6b17d1f2e12c4247f8bce6e563a440f277037d812deb33a0f4a13945d898c296
  generatorY := 0x4fe342e2fe1a7f9b8ee7eb4a7c0f9e162bce33576b315ececbb6406837bf51f5

def p384 : Curve where
  size := 48
  prime := 0xfffffffffffffffffffffffffffffffffffffffffffffffffffffffffffffffeffffffff0000000000000000ffffffff
  b := 0xb3312fa7e23ee7e4988e056be3f82d19181d9c6efe8141120314088f5013875ac656398d8a2ed19d2a85c8edd3ec2aef
  order := 0xffffffffffffffffffffffffffffffffffffffffffffffffc7634d81f4372ddf581a0db248b0a77aecec196accc52973
  generatorX := 0xaa87ca22be8b05378eb1c71ef320ad746e1d3b628ba79b9859f741e082542a385502f25dbf55296c3a545e3872760ab7
  generatorY := 0x3617de4a96262c6f5d9e98bf9292dc29f8f41dbd289a147ce9da3113b5f0b8c00a60b1ce1d7e819d7a431d7c90ea0e5f

/-- A point in Jacobian coordinates. -/
structure Point where
  x : Nat
  y : Nat
  z : Nat

def infinity : Point := ⟨1, 1, 0⟩

def Curve.generator (c : Curve) : Point := ⟨c.generatorX, c.generatorY, 1⟩

/-- A point added to itself. -/
def double (c : Curve) (p : Point) : Point :=
  if p.z = 0 ∨ p.y = 0 then infinity
  else
    let m := c.prime
    let delta := p.z * p.z % m
    let gamma := p.y * p.y % m
    let beta := p.x * gamma % m
    let alpha := 3 * (Modular.sub p.x delta m * ((p.x + delta) % m)) % m
    let x := Modular.sub (alpha * alpha) (8 * beta % m) m
    let y := Modular.sub (alpha * Modular.sub (4 * beta) x m) (8 * (gamma * gamma) % m) m
    ⟨x, y, 2 * (p.y * p.z) % m⟩

def add (c : Curve) (p q : Point) : Point :=
  if p.z = 0 then q
  else if q.z = 0 then p
  else
    let m := c.prime
    let pz2 := p.z * p.z % m
    let qz2 := q.z * q.z % m
    let u1 := p.x * qz2 % m
    let u2 := q.x * pz2 % m
    let s1 := p.y * (q.z * qz2 % m) % m
    let s2 := q.y * (p.z * pz2 % m) % m
    let h := Modular.sub u2 u1 m
    let r := Modular.sub s2 s1 m
    if h = 0 then (if r = 0 then double c p else infinity)
    else
      let h2 := h * h % m
      let h3 := h * h2 % m
      let v := u1 * h2 % m
      let x := Modular.sub (r * r) ((h3 + 2 * v) % m) m
      let y := Modular.sub (r * Modular.sub v x m) (s1 * h3 % m) m
      ⟨x, y, p.z * q.z % m * h % m⟩

/-- `u` times one point plus `v` times another, bit by bit from the highest. -/
def combine (c : Curve) (u v : Nat) (p q : Point) : Point :=
  let both := add c p q
  (List.range (max u.log2 v.log2 + 1)).reverse.foldl
    (fun r i =>
      let r := double c r
      match u.testBit i, v.testBit i with
      | true, true => add c r both
      | true, false => add c r p
      | false, true => add c r q
      | false, false => r)
    infinity

/-- The point that a key's octets give without compression, if it lies on the curve. -/
def pointOf? (c : Curve) (key : Octets) : Option Point :=
  match key with
  | 4 :: rest =>
    if rest.length = 2 * c.size then
      let x := Octets.toNat (rest.take c.size)
      let y := Octets.toNat (rest.drop c.size)
      if x < c.prime ∧ y < c.prime
          ∧ y * y % c.prime = (x * x * x + (c.prime - 3) * x + c.b) % c.prime
      then some ⟨x, y, 1⟩
      else none
    else none
  | _ => none

/-- Whether the first coordinate of a point, taken modulo the order, is `r`. -/
def hasAbscissa (c : Curve) (p : Point) (r : Nat) : Bool :=
  let z2 := p.z * p.z % c.prime
  p.z != 0 && (r * z2 % c.prime == p.x
    || (decide (r + c.order < c.prime) && (r + c.order) * z2 % c.prime == p.x))

/-- Whether the signature, a `SEQUENCE` of two numbers, is the digest's under the key. Of the
digest as many octets count as the curve's numbers have. -/
def verify (c : Curve) (key digest signature : Octets) : Bool :=
  match pointOf? c key, Der.Strict.pair? signature with
  | some q, some (r, s) =>
    decide (r < c.order) && decide (s < c.order) &&
      let e := Octets.toNat (digest.take c.size) % c.order
      let w := Modular.inverse s c.order
      hasAbscissa c (combine c (e * w % c.order) (r * w % c.order) c.generator q) r
  | _, _ => false

end TrustPath.Ecdsa
