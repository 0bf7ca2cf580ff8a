import TrustPath.Address
import TrustPath.Text.Split
import TrustPath.Text.Lowercase

/-!
# Addresses as hosts

The forms in which an IP address stands for a host in a URI: up to four numbers with dots, each in
decimal, octal or hexadecimal, of which the last fills all the octets that are left; or eight
groups of hexadecimal digits with colons, where two colons stand for zeros and the last two groups
may be four decimal octets.
-/

namespace TrustPath.Host

/-- The value of a digit in a base of at most sixteen. -/
def digitIn? (base : Nat) (c : Char) : Option Nat :=
  (Octets.hexValue? c).filter fun n => decide (n < base)

def numberIn? (base : Nat) (cs : List Char) : Option Nat :=
  cs.foldl (fun n c => do return (← n) * base + (← digitIn? base c)) (some 0)

/-- A part of a dotted address: hexadecimal after `0x`, octal after `0`, decimal otherwise. -/
def part? (cs : List Char) : Option Nat :=
  match cs with
  | [] => none
  | ['0'] => some 0
  | '0' :: 'x' :: rest | '0' :: 'X' :: rest => numberIn? 16 rest
  | '0' :: rest => numberIn? 8 rest
  | _ => numberIn? 10 cs

/-- The parts of a dotted host, without an empty one after a final dot. -/
def parts (host : List Char) : List (List Char) :=
  let all := Text.fields '.' host
  if all.getLast? = some [] then all.dropLast else all

/-- Whether the last part of a host is a number, so that the whole has to be an address. -/
def endsInNumber (host : List Char) : Bool :=
  let all := Text.fields '.' host
  let last := if all.getLast? = some [] then all.dropLast.getLast? else all.getLast?
  match last with
  | none => false
  | some last => (!last.isEmpty && last.all Char.isDigit) || (part? last).isSome

def address4? (host : List Char) : Option Octets := do
  let numbers ← (parts host).mapM part?
  if 4 < numbers.length then none
  let last ← numbers.getLast?
  let front := numbers.dropLast
  if front.any (255 < ·) then none
  if Nat.pow 256 (4 - front.length) ≤ last then none
  return front.map UInt8.ofNat ++ Octets.ofNat (4 - front.length) last

def decimalOctet? (cs : List Char) : Option Nat :=
  match cs with
  | [] => none
  | '0' :: _ :: _ => none
  | _ => if cs.all Char.isDigit then (numberIn? 10 cs).filter (· ≤ 255) else none

def tailGroups? (cs : List Char) : Option (List Nat) := do
  match ← (Text.fields '.' cs).mapM decimalOctet? with
  | [a, b, c, d] => return [a * 256 + b, c * 256 + d]
  | _ => none

def group? (cs : List Char) : Option Nat :=
  if cs.isEmpty ∨ 4 < cs.length then none else numberIn? 16 cs

/-- The groups of colon-separated fields; the last field may hold four decimal octets if
`tail` allows it. -/
def groups? (tail : Bool) : List (List Char) → Option (List Nat)
  | [] => some []
  | [last] => if tail && last.contains '.' then tailGroups? last else (group? last).map ([·])
  | field :: rest => do return (← group? field) :: (← groups? tail rest)

/-- The text before and after the first two colons in a row. -/
def cutAtColons? : List Char → Option (List Char × List Char)
  | ':' :: ':' :: rest => some ([], rest)
  | c :: rest => (cutAtColons? rest).map fun (before, after) => (c :: before, after)
  | [] => none

/-- The groups of one side of two colons, which may be empty. -/
def sideGroups? (tail : Bool) (cs : List Char) : Option (List Nat) :=
  if cs.isEmpty then some [] else groups? tail (Text.fields ':' cs)

def address6? (host : List Char) : Option (List Nat) :=
  match cutAtColons? host with
  | none => (groups? true (Text.fields ':' host)).filter (·.length = 8)
  | some (before, after) => do
    let front ← sideGroups? false before
    let back ← sideGroups? true after
    if front.length + back.length ≤ 7 then
      return front ++ List.replicate (8 - front.length - back.length) 0 ++ back
    else none

end TrustPath.Host
