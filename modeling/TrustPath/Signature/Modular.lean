/-!
# Modular powers

Powers modulo a number by repeated squaring, and the bits of a number from the highest down, by
which points of a curve are multiplied.
-/

namespace TrustPath.Modular

/-- The bits of a number, the highest first. -/
def bits (n : Nat) : List Bool :=
  if n = 0 then [] else (List.range (n.log2 + 1)).reverse.map n.testBit

def pow (base exponent modulus : Nat) : Nat :=
  (bits exponent).foldl
    (fun r bit =>
      let square := r * r % modulus
      if bit then square * base % modulus else square)
    (1 % modulus)

/-- The inverse of a number modulo a prime, by Fermat's little theorem. -/
def inverse (a prime : Nat) : Nat := pow a (prime - 2) prime

/-- `a - b` modulo `modulus`, for `b` below the modulus. -/
def sub (a b modulus : Nat) : Nat := (a + modulus - b) % modulus

end TrustPath.Modular
