import TrustPath.Octets

/-!
# Text in wide code units

Texts that are written with two octets a unit, where a pair of surrogates spells a character
beyond the first plane, or with four octets a character. Octets left over at the end are not
part of the text; a unit or value that spells no character makes the whole unreadable.
-/

namespace TrustPath.Text

/-- The sixteen-bit units of an octet string, most significant octet first. -/
def units16 : Octets → List Nat
  | a :: b :: rest => (a.toNat * 256 + b.toNat) :: units16 rest
  | _ => []

def ofUnits16? : List Nat → Option (List Char)
  | [] => some []
  | u :: rest =>
    if u < 0xd800 ∨ 0xe000 ≤ u then (ofUnits16? rest).map (Char.ofNat u :: ·)
    else match rest with
      | v :: rest =>
        if u < 0xdc00 ∧ 0xdc00 ≤ v ∧ v < 0xe000 then
          (ofUnits16? rest).map (Char.ofNat (0x10000 + (u - 0xd800) * 0x400 + (v - 0xdc00)) :: ·)
        else none
      | [] => none

/-- The character with the given code point, surrogates and values above the last excluded. -/
def charOf? (n : Nat) : Option Char :=
  if h : n.isValidChar then some (Char.ofNatAux n h) else none

/-- The characters of an octet string with four octets a character. -/
def ofQuads? : Octets → Option (List Char)
  | a :: b :: c :: d :: rest => do
    let first ← charOf? (((a.toNat * 256 + b.toNat) * 256 + c.toNat) * 256 + d.toNat)
    let cs ← ofQuads? rest
    return first :: cs
  | _ => some []

end TrustPath.Text
