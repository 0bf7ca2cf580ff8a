/-!
# Sets and maps of code points

A property of characters is given by the ranges of code points that have it, ends included and
in increasing order. What characters become is given by runs of consecutive code points.
-/

namespace TrustPath.Text

abbrev CodePoints := List (Nat × Nat)

namespace CodePoints

/-- Whether some range of the set holds the character. -/
def has (set : CodePoints) (c : Char) : Bool :=
  set.any fun range => decide (range.1 ≤ c.toNat) && decide (c.toNat ≤ range.2)

end CodePoints

/-- Runs of consecutive code points: the first of each, and what it and those after it become. -/
abbrev CodePointMap (α : Type) := List (Nat × List α)

namespace CodePointMap

variable {α : Type}

def get? (map : CodePointMap α) (c : Char) : Option α :=
  map.findSome? fun (first, values) =>
    if first ≤ c.toNat then values[c.toNat - first]? else none

def codePointOf? [BEq α] (map : CodePointMap α) (value : α) : Option Nat :=
  map.findSome? fun (first, values) => (values.idxOf? value).map (first + ·)

end CodePointMap

/-- Code points `first, first + step, …, last`, each of which moves by `shift`. -/
structure CodePointRun where
  first : Nat
  last : Nat
  step : Nat
  shift : Int
deriving Repr, DecidableEq

namespace CodePointRun

/-- Whether the run moves this code point. -/
def covers (run : CodePointRun) (n : Nat) : Bool :=
  decide (run.first ≤ n) && decide (n ≤ run.last) && (n - run.first) % run.step == 0

/-- The character to which one of the runs moves a character. -/
def move? (runs : List CodePointRun) (c : Char) : Option Char :=
  (runs.find? (·.covers c.toNat)).map fun run =>
    Char.ofNat ((c.toNat : Int) + run.shift).toNat

end CodePointRun

end TrustPath.Text
