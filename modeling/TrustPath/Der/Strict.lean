import TrustPath.Octets

/-!
# Strict DER

Keys and signatures are read with less tolerance than certificates: one-octet tags, the shortest
length of at most two octets, and positive integers without spare zeros.
-/

namespace TrustPath.Der.Strict

/-- The length at the start of the octets, in its shortest form, and the rest. -/
def length? : Octets → Option (Nat × Octets)
  | a :: rest =>
    if a.toNat < 128 then some (a.toNat, rest)
    else match a, rest with
      | 0x81, b :: rest => if 128 ≤ b.toNat then some (b.toNat, rest) else none
      | 0x82, b :: c :: rest =>
        let n := b.toNat * 256 + c.toNat
        if 256 ≤ n then some (n, rest) else none
      | _, _ => none
  | [] => none

/-- The content of the element with the given identifier at the start of the octets, and the
rest. -/
def element? (identifier : UInt8) : Octets → Option (Octets × Octets)
  | a :: rest =>
    if a = identifier then
      match length? rest with
      | some (n, rest) => if n ≤ rest.length then some (rest.take n, rest.drop n) else none
      | none => none
    else none
  | [] => none

/-- The positive number of an `INTEGER` at the start of the octets, and the rest. -/
def positive? (input : Octets) : Option (Nat × Octets) := do
  let (content, rest) ← element? 0x02 input
  match content with
  | [] => none
  | 0 :: b :: _ => if 128 ≤ b.toNat then return (Octets.toNat content, rest) else none
  | b :: _ => if b ≠ 0 ∧ b.toNat < 128 then return (Octets.toNat content, rest) else none

/-- Two positive numbers in a `SEQUENCE` that holds nothing else and has nothing after it. -/
def pair? (input : Octets) : Option (Nat × Nat) := do
  let (content, after) ← element? 0x30 input
  let (a, rest) ← positive? content
  let (b, rest) ← positive? rest
  if rest.isEmpty ∧ after.isEmpty then return (a, b) else none

end TrustPath.Der.Strict
