import TrustPath.Octets
import TrustPath.Text.Split

/-!
# Matching names against constraints

One rule for each kind of name that a constraint can limit. A constraint names a host, or, with a
dot in front, the hosts below it. Texts are compared as they are; callers lowercase them first.
-/

namespace TrustPath.NameConstraint

/-- A domain constraint holds for the domain and everything below it; with a leading dot it holds
only below; empty it holds for every name. -/
def dnsMatches (name base : String) : Bool :=
  let n := name.toList
  let b := base.toList
  match b with
  | [] => true
  | '.' :: _ => Text.endsWith n b
  | _ => n == b || Text.endsWith n ('.' :: b)

/-- A host constraint holds for that host only; with a leading dot it holds for the hosts below
it. -/
def hostMatches (host base : String) : Bool :=
  match base.toList with
  | '.' :: _ => Text.endsWith host.toList base.toList
  | _ => host == base

def mailHost? (email : String) : Option String :=
  let reversed := email.toList.reverse
  if '@' ∈ reversed then some (String.ofList (reversed.takeWhile (· ≠ '@')).reverse) else none

/-- A mailbox constraint, which has an at sign, holds for that address only; any other holds for
the address's host as a host constraint does. -/
def emailMatches (email base : String) : Bool :=
  if '@' ∈ base.toList then email == base
  else match mailHost? email with
    | none => false
    | some host => hostMatches host base

/-- An address constraint is an address and a mask of the same length; it holds for the addresses
that agree with it under the mask. -/
def ipMatches (ip base : Octets) : Bool :=
  if base.length ≠ 2 * ip.length ∨ (ip.length ≠ 4 ∧ ip.length ≠ 16) then false
  else
    (ip.zip ((base.take ip.length).zip (base.drop ip.length))).all fun (i, a, m) =>
      i &&& m == a &&& m

end TrustPath.NameConstraint
