import TrustPath.Path.Candidate
import TrustPath.Signature.Verify

/-!
# The search for a path

Paths are searched depth first from the target towards the anchors. A partial path is the target
and the issuers above it so far, taken from a pool of untrusted certificates. At each partial path
the anchors that issued its last certificate are tried in order, and the first candidate that
passes all checks is the answer; then the path is extended by each certificate of the pool that
issued its last one. A path never holds a certificate twice and has at most thirty-two
certificates, and the search gives up after a fixed number of partial paths, whatever the pool.

The state of the search is the path with the pool positions in use, the signature checks made so
far, the count of partial paths, the last rejection, and the lines written. A step that fails
leaves the path as it found it.
-/

namespace TrustPath

/-- Where a certificate of the search comes from. -/
inductive Slot
  | target
  | anchor (i : Nat)
  | pool (i : Nat)
deriving Repr, DecidableEq

/-- The material of a search, and how signatures are checked. -/
structure PathProblem where
  target : Certificate
  anchors : List Certificate
  pool : List Certificate
  crls : List Crl
  parameters : PathParameters
  holds : Signed → PublicKey → Bool := Signed.holdsUnder

/-- A path that passed all checks: the target and the issuers above it, and the anchor. -/
structure BuiltPath where
  certificates : List Certificate
  anchor : Certificate

/-- Why no path was built. -/
inductive PathFailure
  | budgetExceeded
  | rejected (rejection : Rejection)
  | noCandidate

def PathFailure.message : PathFailure → String
  | .budgetExceeded => "path building budget exceeded"
  | .rejected rejection => rejection.message
  | .noCandidate => "no certification path to a trust anchor could be found"

/-- The state of a search: `issuers` holds what the path has above the target, the last one first,
each with its position in the pool; `lines` holds the lines written, the last one first. -/
structure SearchState where
  issuers : List (Nat × Certificate)
  used : List Bool
  signatures : List ((Slot × Slot) × Bool)
  steps : Nat
  budgetExceeded : Bool
  lastRejection : Option Rejection
  lines : List LogLine

namespace SearchState

/-- The state in front of a search in a pool of a size. -/
def start (poolSize : Nat) : SearchState :=
  { issuers := []
    used := List.replicate poolSize false
    signatures := []
    steps := 0
    budgetExceeded := false
    lastRejection := none
    lines := [] }

def write (s : SearchState) (line : LogLine) : SearchState := { s with lines := line :: s.lines }

def reject (s : SearchState) (rejection : Rejection) : SearchState :=
  { s.write ⟨.trace, "rejected candidate certification path: " ++ rejection.message⟩ with
    lastRejection := some rejection }

def push (s : SearchState) (i : Nat) (c : Certificate) : SearchState :=
  { s with issuers := (i, c) :: s.issuers, used := s.used.set i true }

/-- Take the certificate at a pool position off the path. -/
def pop (s : SearchState) (i : Nat) : SearchState :=
  { s with issuers := s.issuers.tail, used := s.used.set i false }

end SearchState

/-- The greatest number of partial paths that a search looks at. -/
def maxSearchSteps : Nat := 1024

/-- The greatest number of certificates above the target of a path. -/
def maxIssuers : Nat := 31

namespace PathProblem

/-- The last certificate of the path and where it comes from. -/
def current (p : PathProblem) (s : SearchState) : Slot × Certificate :=
  match s.issuers with
  | [] => (.target, p.target)
  | (i, c) :: _ => (.pool i, c)

/-- The certificates above the target, the last one first. -/
def above (s : SearchState) : List Certificate := s.issuers.map (·.2)

def path (p : PathProblem) (s : SearchState) : List Certificate := p.target :: (above s).reverse

/-- Whether the path has more issuers that count than the limit on its length allows. -/
def isTooLong (p : PathProblem) (s : SearchState) : Bool :=
  p.parameters.lengthLimit.any fun limit =>
    decide (limit < (above s).countP fun c => !c.isSelfIssued)

/-- Check the signature of one certificate under the key of another, or recall the answer. -/
def signedBy (p : PathProblem) (s : SearchState) (child : Slot × Certificate)
    (issuer : Slot × Certificate) : Bool × SearchState :=
  match s.signatures.lookup (child.1, issuer.1) with
  | some answer => (answer, s)
  | none =>
    let answer := p.holds child.2.signed issuer.2.publicKey
    (answer, { s with signatures := ((child.1, issuer.1), answer) :: s.signatures })

/-- Whether one certificate names the other as its issuer and was signed by it. -/
def issuedBy (p : PathProblem) (s : SearchState) (child : Slot × Certificate)
    (issuer : Slot × Certificate) : Bool × SearchState :=
  if issuer.2.subject == child.2.issuer then p.signedBy s child issuer else (false, s)

def checkUnder (p : PathProblem) (s : SearchState) (anchor : Certificate) :
    Except Rejection Unit × List LogLine :=
  Candidate.check p.holds p.crls p.parameters (above s) p.target anchor

/-- Try the anchors in order: the first under which the path passes all checks completes it. -/
def tryAnchors (p : PathProblem) : List (Certificate × Nat) → SearchState →
    Option BuiltPath × SearchState
  | [], s => (none, s)
  | (anchor, i) :: rest, s =>
    match p.issuedBy s (p.current s) (.anchor i, anchor) with
    | (false, s) => p.tryAnchors rest s
    | (true, s) =>
      match p.checkUnder s anchor with
      | (.ok _, lines) =>
        (some ⟨p.path s, anchor⟩, { s with lines := lines.reverse ++ s.lines })
      | (.error rejection, lines) =>
        let s := { s with lines := lines.reverse ++ s.lines }
        p.tryAnchors rest (s.reject rejection)

/-- What a look at a partial path comes to. -/
inductive Visit
  | found (path : BuiltPath)
  | deadEnd
  | extendable

/-- Look at the partial path: count it, give up if the count is too high, reject it if it is too
long, and try the anchors. -/
def visit (p : PathProblem) (s : SearchState) : Visit × SearchState :=
  let s := { s with steps := s.steps + 1 }
  if maxSearchSteps < s.steps then
    if s.budgetExceeded then (.deadEnd, s)
    else
      let line : LogLine :=
        ⟨.debug, "abandoning path building after " ++ toString maxSearchSteps ++ " steps"⟩
      (.deadEnd, { s.write line with budgetExceeded := true })
  else if p.isTooLong s then (.deadEnd, s.reject .pathTooLong)
  else match p.tryAnchors p.anchors.zipIdx s with
    | (some built, s) => (.found built, s)
    | (none, s) => (.extendable, s)

/-- Whether a certificate of the pool may go on the path: it is not in use, and no certificate of
the path has the same encoding. -/
def isFresh (p : PathProblem) (s : SearchState) (c : Certificate) (i : Nat) : Bool :=
  !s.used.getD i true && c.der != p.target.der && !(above s).any (·.der == c.der)

/-- Extend the path by each certificate of the pool that fits, and go on with `next` from there,
until a path is found or the search gives up. -/
def tryPool (p : PathProblem) (next : SearchState → Option BuiltPath × SearchState) :
    List (Certificate × Nat) → SearchState → Option BuiltPath × SearchState
  | [], s => (none, s)
  | (c, i) :: rest, s =>
    if p.isFresh s c i then
      match p.issuedBy s (p.current s) (.pool i, c) with
      | (false, s) => p.tryPool next rest s
      | (true, s) =>
        match next (s.push i c) with
        | (some built, s) => (some built, s)
        | (none, s) =>
          let s := s.pop i
          if s.budgetExceeded then (none, s) else p.tryPool next rest s
    else p.tryPool next rest s

/-- Search from a partial path that has room for a number of certificates. -/
def extend (p : PathProblem) : Nat → SearchState → Option BuiltPath × SearchState
  | 0, s =>
    match p.visit s with
    | (.found built, s) => (some built, s)
    | (_, s) => (none, s)
  | room + 1, s =>
    match p.visit s with
    | (.found built, s) => (some built, s)
    | (.deadEnd, s) => (none, s)
    | (.extendable, s) => p.tryPool (p.extend room) p.pool.zipIdx s

/-- Why a search that found nothing failed. -/
def failure (s : SearchState) : PathFailure :=
  if s.budgetExceeded then .budgetExceeded
  else match s.lastRejection with
    | some rejection => .rejected rejection
    | none => .noCandidate

/-- Search for a path, unless the target is an anchor itself. -/
def solve (p : PathProblem) : Except PathFailure BuiltPath × List LogLine :=
  match p.anchors.find? (·.der == p.target.der) with
  | some anchor => (.ok ⟨[], anchor⟩, [⟨.trace, "target certificate is itself a trust anchor"⟩])
  | none =>
    match p.extend maxIssuers (.start p.pool.length) with
    | (some built, s) => (.ok built, s.lines.reverse)
    | (none, s) => (.error (failure s), s.lines.reverse)

end PathProblem

end TrustPath
