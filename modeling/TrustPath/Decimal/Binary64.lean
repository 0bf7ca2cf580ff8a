/-!
# Binary floating-point numbers

A number of the 64-bit binary format of IEEE 754 as an exact value: an integer of at most
fifty-three bits times a power of two. Exact quotients are rounded to the nearest such number, of
two equally near ones to that with the even integer. Products and quotients of two numbers are the
exact ones, rounded.
-/

namespace TrustPath

/-- A binary floating-point number of 64 bits. A finite one is `mantissa * 2 ^ exponent`. -/
inductive Binary64
  | finite (negative : Bool) (mantissa : Nat) (exponent : Int)
  | infinite (negative : Bool)
  | nan
deriving Repr, DecidableEq

namespace Binary64

def minExponent : Int := -1074

/-- The least number of bits above which a finite number overflows. -/
def maxBits : Int := 1024

/-- The greatest `e` with `2 ^ e ≤ num / den`, for positive `num` and `den`. -/
def floorLog (num den : Nat) : Int :=
  let guess : Int := (num.log2 : Int) - (den.log2 : Int)
  if num * Nat.pow 2 (-guess).toNat < den * Nat.pow 2 guess.toNat then guess - 1 else guess

/-- The integer nearest to a quotient; of two equally near ones the even one. -/
def roundHalfEven (num den : Nat) : Nat :=
  let q := num / den
  let r := num % den
  if 2 * r < den then q
  else if den < 2 * r then q + 1
  else if q % 2 = 0 then q else q + 1

def ofRatio (negative : Bool) (num den : Nat) : Binary64 :=
  if num = 0 then .finite negative 0 0
  else
    let e := max (floorLog num den - 52) minExponent
    let m := roundHalfEven (num * Nat.pow 2 (-e).toNat) (den * Nat.pow 2 e.toNat)
    let (m, e) := if m = Nat.pow 2 53 then (Nat.pow 2 52, e + 1) else (m, e)
    if maxBits < e + 53 ∧ Nat.pow 2 52 ≤ m then .infinite negative
    else .finite negative m e

/-- The number nearest to `digits * 10 ^ exponent`, with a sign. Exponents that are far out of
range are settled without computing the power. -/
def ofDecimal (negative : Bool) (digits : Nat) (exponent : Int) : Binary64 :=
  let magnitude : Int := (digits.log2 : Int) / 4 + exponent
  if digits = 0 then .finite negative 0 0
  else if 400 < magnitude then .infinite negative
  else if exponent + (digits.log2 : Int) < -400 then .finite negative 0 0
  else ofRatio negative (digits * Nat.pow 10 exponent.toNat) (Nat.pow 10 (-exponent).toNat)

def isZero : Binary64 → Bool
  | .finite _ m _ => m = 0
  | _ => false

def neg : Binary64 → Binary64
  | .finite negative m e => .finite (!negative) m e
  | .infinite negative => .infinite (!negative)
  | .nan => .nan

def mul : Binary64 → Binary64 → Binary64
  | .finite s m e, .finite t n f =>
    ofRatio (s != t) (m * n * Nat.pow 2 (e + f).toNat) (Nat.pow 2 (-(e + f)).toNat)
  | _, _ => .nan

/-- The quotient of two finite numbers, the second not zero, rounded. -/
def div : Binary64 → Binary64 → Binary64
  | .finite s m e, .finite t n f =>
    if n = 0 then .nan
    else ofRatio (s != t) (m * Nat.pow 2 (e - f).toNat) (n * Nat.pow 2 (f - e).toNat)
  | _, _ => .nan

/-- The integer nearest to a finite number; of two equally near ones that away from zero. -/
def round? : Binary64 → Option Int
  | .finite negative m e =>
    let magnitude : Nat :=
      if 0 ≤ e then m * Nat.pow 2 e.toNat
      else (2 * m + Nat.pow 2 (-e).toNat) / Nat.pow 2 ((-e).toNat + 1)
    some (if negative then -magnitude else magnitude)
  | _ => none

end Binary64

end TrustPath
