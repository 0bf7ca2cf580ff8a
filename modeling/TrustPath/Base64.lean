import TrustPath.Octets

/-!
# Base64

The padded alphabet of RFC 4648. Writing is total. Reading takes whole quanta of four characters
without stray bits under the padding; padded spellings may follow one another.
-/

namespace TrustPath.Base64

def digit (n : Nat) : Char :=
  if n < 26 then Char.ofNat (65 + n)
  else if n < 52 then Char.ofNat (71 + n)
  else if n < 62 then Char.ofNat (n - 4)
  else if n = 62 then '+'
  else '/'

def value? (c : Char) : Option Nat :=
  if 'A' ≤ c ∧ c ≤ 'Z' then some (c.toNat - 65)
  else if 'a' ≤ c ∧ c ≤ 'z' then some (c.toNat - 71)
  else if '0' ≤ c ∧ c ≤ '9' then some (c.toNat + 4)
  else if c = '+' then some 62
  else if c = '/' then some 63
  else none

/-- The spelling of an octet string, three octets a quantum. -/
def encodeChars : Octets → List Char
  | [] => []
  | [a] => [digit (a.toNat / 4), digit (a.toNat % 4 * 16), '=', '=']
  | [a, b] =>
    [digit (a.toNat / 4), digit (a.toNat % 4 * 16 + b.toNat / 16), digit (b.toNat % 16 * 4), '=']
  | a :: b :: c :: rest =>
    digit (a.toNat / 4) :: digit (a.toNat % 4 * 16 + b.toNat / 16)
      :: digit (b.toNat % 16 * 4 + c.toNat / 64) :: digit (c.toNat % 64) :: encodeChars rest

def encode (bs : Octets) : String := String.ofList (encodeChars bs)

/-- The octets of one quantum: three, or one or two under padding, whose unused bits are zero. -/
def quantum? (a b c d : Char) : Option Octets := do
  let va ← value? a
  let vb ← value? b
  let first := UInt8.ofNat (va * 4 + vb / 16)
  if c = '=' then
    if d = '=' ∧ vb % 16 = 0 then return [first] else none
  else
    let vc ← value? c
    let second := UInt8.ofNat (vb % 16 * 16 + vc / 4)
    if d = '=' then
      if vc % 4 = 0 then return [first, second] else none
    else
      let vd ← value? d
      return [first, second, UInt8.ofNat (vc % 4 * 64 + vd)]

/-- Read a spelling, or several in a row: any quantum may be padded. -/
def decodeChars : List Char → Option Octets
  | [] => some []
  | a :: b :: c :: d :: rest => do
    let first ← quantum? a b c d
    let more ← decodeChars rest
    return first ++ more
  | _ => none

end TrustPath.Base64
