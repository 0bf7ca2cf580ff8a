import TrustPath.Octets
import TrustPath.Text.Quoted

/-!
# IP addresses in text

Four octets are written with dots. Sixteen octets are written as eight groups of hexadecimal
digits with colons, the longest run of two or more zero groups (the first of several) shortened
to two colons; an address that maps a four-octet one ends in that one's text.
-/

namespace TrustPath.Address

def text4 (octets : Octets) : String := ".".intercalate (octets.map fun b => toString b.toNat)

/-- How many groups at the start of a list are zero. -/
def zeroRun (groups : List Nat) : Nat := (groups.takeWhile (· = 0)).length

/-- The first longest run of zero groups: where it starts and how long it is. -/
def longestZeroRun (groups : List Nat) : Nat × Nat :=
  (List.range groups.length).foldl
    (fun best i => if best.2 < zeroRun (groups.drop i) then (i, zeroRun (groups.drop i)) else best)
    (0, 0)

/-- Groups in hexadecimal with colons between them. -/
def groupsText (groups : List Nat) : String :=
  ":".intercalate (groups.map fun g => String.ofList (Text.hexDigits g))

def text6 (groups : List Nat) : String :=
  match groups with
  | [0, 0, 0, 0, 0, 0xffff, a, b] =>
    "::ffff:" ++ text4 ([a / 256, a % 256, b / 256, b % 256].map UInt8.ofNat)
  | _ =>
    let (start, length) := longestZeroRun groups
    if 2 ≤ length then
      groupsText (groups.take start) ++ "::" ++ groupsText (groups.drop (start + length))
    else groupsText groups

def groupsOf : Octets → List Nat
  | a :: b :: rest => (a.toNat * 256 + b.toNat) :: groupsOf rest
  | _ => []

/-- The text of an address, which has four or sixteen octets. -/
def text? (octets : Octets) : Option String :=
  if octets.length = 4 then some (text4 octets)
  else if octets.length = 16 then some (text6 (groupsOf octets))
  else none

end TrustPath.Address
