import TrustPath.Decimal.Binary64

/-!
# The text of a floating-point number

A finite number is written with the fewest decimal digits that read back as the same number; of
several such decimals the one nearest to it is taken. The digits are always written positionally,
with a point only if there is a fraction.
-/

namespace TrustPath.Binary64

/-- The numbers that round to a positive number `m * 2 ^ e` lie between these two, in units of
`2 ^ (e - 2)`; the interval below a power of two is half as long. -/
def interval (m : Nat) (e : Int) : Nat × Nat :=
  (if m = Nat.pow 2 52 ∧ minExponent < e then 4 * m - 1 else 4 * m - 2, 4 * m + 2)

/-- The factors that compare `c * 10 ^ k` with `x * 2 ^ e`: the first is less than the second if
`c` times the first factor is less than `x` times the second. -/
def factors (k e : Int) : Nat × Nat :=
  (Nat.pow 10 k.toNat * Nat.pow 2 (-e).toNat, Nat.pow 10 (-k).toNat * Nat.pow 2 e.toNat)

/-- The multiple of `10 ^ k` nearest to `m * 2 ^ e` that reads back as it, if there is one. -/
def onGrid? (m : Nat) (e k : Int) : Option Nat :=
  let (a, b) := factors k (e - 2)
  let (lo, hi) := interval m e
  let inside (c : Nat) : Bool :=
    if m % 2 = 0 then decide (lo * b ≤ c * a) && decide (c * a ≤ hi * b)
    else decide (lo * b < c * a) && decide (c * a < hi * b)
  let c := 4 * m * b / a
  let below := 4 * m * b - c * a
  let above := (c + 1) * a - 4 * m * b
  match inside c, inside (c + 1) with
  | true, true => some (if above < below then c + 1 else c)
  | true, false => some c
  | false, true => some (c + 1)
  | false, false => none

/-- The exponents of ten to try, the greatest first. -/
def gridExponents : List Int := (List.range 640).map fun (i : Nat) => 310 - (i : Int)

/-- The fewest digits that read back as a positive number, as a whole number and an exponent of
ten. -/
def shortest (m : Nat) (e : Int) : Nat × Int :=
  (gridExponents.findSome? fun k => (onGrid? m e k).map fun c => (c, k)).getD (0, 0)

/-- Digits with a point before the last `places` of them. -/
def withPoint (digits : List Char) (places : Nat) : List Char :=
  let padded := List.replicate (places + 1 - digits.length) '0' ++ digits
  padded.take (padded.length - places) ++ '.' :: padded.drop (padded.length - places)

def text : Binary64 → String
  | .nan => "NaN"
  | .infinite negative => if negative then "-inf" else "inf"
  | .finite negative m e =>
    let sign := if negative then ['-'] else []
    let digits :=
      if m = 0 then ['0']
      else
        let (c, k) := shortest m e
        let digits := Nat.toDigits 10 c
        if 0 ≤ k then digits ++ List.replicate k.toNat '0' else withPoint digits (-k).toNat
    String.ofList (sign ++ digits)

end TrustPath.Binary64
