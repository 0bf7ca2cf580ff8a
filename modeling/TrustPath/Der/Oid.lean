import TrustPath.Der.Reader
import TrustPath.Text.Split

/-!
# Object identifiers

An object identifier is held as its encoding. Its dotted form takes the first octet apart by forty
and then lists the base-128 numbers. An encoding with a number of more than sixty-four bits has no
dotted form and is shown by its octets; the single octet zero is shown as `0`.
-/

namespace TrustPath

/-- An object identifier, as the content octets of its encoding. -/
structure Oid where
  octets : Octets
deriving Repr, DecidableEq

namespace Oid

/-- The base-128 numbers in a string of octets with the count of octets of each, where `value` and
`count` belong to the number at hand. A number whose last octet is missing counts as it stands. -/
def arcsFrom (value count : Nat) : Octets → List (Nat × Nat)
  | [] => if count = 0 then [] else [(value % Nat.pow 2 64, 0)]
  | b :: rest =>
    let value := value * 128 + b.toNat % 128
    if b.toNat < 128 then (value, count + 1) :: arcsFrom 0 0 rest
    else arcsFrom value (count + 1) rest

def dotted (oid : Oid) : String :=
  match oid.octets with
  | [] => ""
  | [0] => "0"
  | first :: rest =>
    let arcs := arcsFrom 0 0 rest
    if arcs.any fun arc => decide (64 < 7 * arc.2) then Octets.toHexWith " " oid.octets
    else
      ".".intercalate
        ((first.toNat / 40 :: first.toNat % 40 :: arcs.map (·.1)).map fun n => toString n)

instance : ToString Oid := ⟨dotted⟩

/-- Read an object identifier; any element that is not made of others will do. -/
def read : Der.Reader Oid := fun input => do
  let (e, rest) ← Der.element input
  if e.header.constructed then throw .malformed else return (⟨e.content⟩, rest)

/-- Read an element tagged as an object identifier. -/
def readTagged : Der.Reader Oid :=
  Der.mapOption (fun e => some ⟨e.content⟩) (Der.primitiveOf 6)

end Oid

/-- A whole number of sixty-four bits in decimal, with an optional plus sign. -/
def arc? (cs : List Char) : Option Nat :=
  let digits := if cs.head? = some '+' then cs.drop 1 else cs
  if digits.isEmpty ∨ digits.any (fun c => !(decide ('0' ≤ c) && decide (c ≤ '9'))) then none
  else
    let n := digits.foldl (fun n c => n * 10 + (c.toNat - 48)) 0
    if n < Nat.pow 2 64 then some n else none

/-- Whether a text spells an object identifier: at least two numbers with dots between them, of
which the first is below 7 and the second below 40, or a single zero. -/
def Oid.isDottedText (s : String) : Bool :=
  match (Text.fields '.' s.toList).mapM arc? with
  | some [n] => n == 0
  | some (first :: second :: _) => decide (first < 7) && decide (second < 40)
  | _ => false

end TrustPath
