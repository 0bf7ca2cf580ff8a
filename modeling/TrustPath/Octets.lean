/-!
# Octet strings

Encoded material (certificates, keys, signatures, addresses) is a list of octets. This module
gives its written form in hexadecimal, two lowercase digits an octet, and the reading of an
unsigned number from its big-endian octets.
-/

namespace TrustPath

abbrev Octets := List UInt8

namespace Octets

/-- The lowercase hexadecimal digit of a number below sixteen. -/
def hexDigit (n : Nat) : Char :=
  if n < 10 then Char.ofNat (48 + n) else Char.ofNat (87 + n)

/-- The value of a hexadecimal digit of either case. -/
def hexValue? (c : Char) : Option Nat :=
  if '0' ≤ c ∧ c ≤ '9' then some (c.toNat - 48)
  else if 'a' ≤ c ∧ c ≤ 'f' then some (c.toNat - 87)
  else if 'A' ≤ c ∧ c ≤ 'F' then some (c.toNat - 55)
  else none

def isHexDigit (c : Char) : Bool := (hexValue? c).isSome

def hexPair (b : UInt8) : List Char := [hexDigit (b.toNat / 16), hexDigit (b.toNat % 16)]

def toHexChars (bs : Octets) : List Char := bs.flatMap hexPair

def toHex (bs : Octets) : String := String.ofList (toHexChars bs)

/-- Read pairs of hexadecimal digits; an odd count or another character has no value. -/
def ofHexChars? : List Char → Option Octets
  | [] => some []
  | [_] => none
  | a :: b :: rest => do
    let hi ← hexValue? a
    let lo ← hexValue? b
    let bs ← ofHexChars? rest
    return UInt8.ofNat (16 * hi + lo) :: bs

def ofHex? (s : String) : Option Octets := ofHexChars? s.toList

/-- The hexadecimal spelling with a separator between octets. -/
def toHexWith (separator : String) (bs : Octets) : String :=
  separator.intercalate (bs.map fun b => String.ofList (hexPair b))

/-- The unsigned number that the octets spell, most significant octet first. -/
def toNat (bs : Octets) : Nat := bs.foldl (fun n b => n * 256 + b.toNat) 0

/-- The `n` low octets of a number, most significant octet first. -/
def ofNat (n : Nat) (value : Nat) : Octets :=
  (List.range n).reverse.map fun i => UInt8.ofNat (value >>> (8 * i))

def ofText (s : String) : Octets := s.toUTF8.data.toList

def ofChars (cs : List Char) : Octets := cs.flatMap String.utf8EncodeChar

def toText? (bs : Octets) : Option String := String.fromUTF8? ⟨bs.toArray⟩

end Octets

end TrustPath
