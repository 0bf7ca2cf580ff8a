import TrustPath.Host.Address
import TrustPath.Host.Domain

/-!
# The host of a URI

Constraints on URIs speak of the host, so only the host is read from a URI: a scheme, two slashes,
an optional part before an at sign, the host, and an optional port. The schemes of the web are
special: for them backslashes count as slashes, the number of slashes does not matter, and the
host is an address or a domain in its ASCII form. The host of any other scheme is taken as it is,
with what is not ASCII written by percent signs. A URI whose host or port is malformed has none.
-/

namespace TrustPath

/-- The host of a URI. -/
inductive Host
  | name (cs : List Char)
  | address4 (octets : Octets)
  | address6 (groups : List Nat)
deriving Repr, DecidableEq

namespace Host

/-- The host in lowercase; an address in its usual text. -/
def text : Host → String
  | .name cs => String.ofList (cs.map Char.toLower)
  | .address4 octets => Address.text4 octets
  | .address6 groups => Address.text6 groups

/-- How the rest of a URI is read under its scheme. -/
inductive Scheme
  | file
  | special
  | other
deriving Repr, DecidableEq

/-- The kind of a scheme that is written in lowercase. -/
def Scheme.ofName (name : String) : Scheme :=
  if name = "file" then .file
  else if name ∈ ["http", "https", "ws", "wss", "ftp"] then .special
  else .other

/-! ## Hosts -/

/-- The octets of a text in which a percent sign and two hexadecimal digits stand for an octet. -/
def percentDecode : List Char → Octets
  | [] => []
  | '%' :: a :: b :: rest =>
    match Octets.hexValue? a, Octets.hexValue? b with
    | some hi, some lo => UInt8.ofNat (16 * hi + lo) :: percentDecode rest
    | _, _ => 0x25 :: percentDecode (a :: b :: rest)
  | c :: rest => Octets.ofChars [c] ++ percentDecode rest
termination_by cs => cs.length

/-- A text with controls and everything that is not ASCII written by percent signs. -/
def percentEncode (cs : List Char) : List Char :=
  (Octets.ofChars cs).flatMap fun b =>
    if b < 0x20 ∨ 0x7e < b then '%' :: (Octets.hexPair b).map Char.toUpper
    else [Char.ofNat b.toNat]

/-- The characters that no host outside the special schemes contains. -/
def forbidden : List Char :=
  ['\x00', '\t', '\n', '\r', ' ', '#', '/', ':', '<', '>', '?', '@', '[', '\\', ']', '^', '|']

/-- The address between brackets, if the text starts with one; the inner value is missing if
the address is malformed. -/
def bracketed? (cs : List Char) : Option (Option Host) :=
  match cs with
  | '[' :: rest =>
    some (if rest.getLast? = some ']' then (address6? rest.dropLast).map .address6 else none)
  | _ => none

/-- The host that a text stands for under a scheme that is not special. -/
def ofOpaque? (cs : List Char) : Option Host :=
  match bracketed? cs with
  | some host => host
  | none => if cs.any (· ∈ forbidden) then none else some (.name (percentEncode cs))

/-- The host that a text stands for under a special scheme. -/
def ofSpecial? (cs : List Char) : Option Host :=
  match bracketed? cs with
  | some host => host
  | none => do
    let decoded ← Octets.toText? (percentDecode cs)
    let domain ← Domain.toAscii? decoded.toList
    if domain.isEmpty then none
    else if endsInNumber domain then (address4? domain).map .address4
    else some (.name domain)

/-! ## The parts of a URI -/

/-- Cut a text where the host ends: at a colon outside brackets. -/
def cutHost (inBrackets : Bool) : List Char → List Char × List Char
  | [] => ([], [])
  | c :: rest =>
    if c = ':' ∧ !inBrackets then ([], c :: rest)
    else
      let inside := if c = '[' then true else if c = ']' then false else inBrackets
      let (host, after) := cutHost inside rest
      (c :: host, after)

/-- Whether what follows the host is nothing or a colon and a port number of sixteen bits. -/
def portOk : List Char → Bool
  | ':' :: rest =>
    let digits := rest.takeWhile (· ≠ '\\')
    digits.all Char.isDigit && (numberIn? 10 digits).any (· < 65536)
  | _ => true

/-- The host in an authority, which ends before the path. -/
def ofAuthority? (scheme : Scheme) (authority : List Char) : Option Host :=
  let (host, port) := cutHost false (authority.reverse.takeWhile (· ≠ '@')).reverse
  if host.isEmpty || !portOk port then none
  else match scheme with
    | .other => ofOpaque? host
    | _ => ofSpecial? host

/-- A letter and a colon or bar, which a file URI has in place of a host or first segment. -/
def isDrive : List Char → Bool
  | [c, d] => c.isAlpha && (d == ':' || d == '|')
  | _ => false

/-- How many segments of a path are left after this one, when `depth` came before; nothing if
the first segment is a drive. -/
def stepSegment (depth : Option Nat) (segment : List Char) : Option Nat := do
  let depth ← depth
  let dots := (String.ofList (segment.map Char.toLower)).replace "%2e" "."
  if dots = "." then return depth
  else if dots = ".." then return depth - 1
  else if depth = 0 ∧ isDrive segment then none
  else return depth + 1

/-- The host of a file URI, given what follows its slashes: a local file has none, nor has one
with a drive. -/
def ofFile? (cs : List Char) : Option Host := do
  let host := cs.takeWhile fun c => c ∉ ['/', '\\', '?', '#']
  let path := (cs.drop host.length).takeWhile fun c => c ∉ ['?', '#']
  let found ← if host.isEmpty || isDrive host then none else ofSpecial? host
  if found = .name "localhost".toList then none
  let segments := Text.fields '/' ((path.drop 1).map fun c => if c = '\\' then '/' else c)
  let _ ← segments.foldl stepSegment (some 0)
  return found

/-- The scheme at the start of a text and what follows its colon. -/
def cutScheme? (cs : List Char) : Option (Scheme × List Char) :=
  let isPart (c : Char) : Bool := c.isAlphanum || c == '+' || c == '-' || c == '.'
  let name := cs.takeWhile isPart
  match name, cs.dropWhile isPart with
  | c :: _, ':' :: rest =>
    if c.isAlpha then some (Scheme.ofName (String.ofList (name.map Char.toLower)), rest) else none
  | _, _ => none

/-- A text without controls and blanks at its ends, and without tabs and line ends anywhere. -/
def tidy (cs : List Char) : List Char :=
  let trimmed := (cs.dropWhile (· ≤ ' ')).reverse.dropWhile (· ≤ ' ')
  trimmed.reverse.filter fun c => c ∉ ['\t', '\n', '\r']

def ofUri? (uri : String) : Option Host := do
  let (scheme, rest) ← cutScheme? (tidy uri.toList)
  let isSlash (c : Char) : Bool := c == '/' || c == '\\'
  match scheme with
  | .special =>
    ofAuthority? scheme
      ((rest.dropWhile isSlash).takeWhile fun c => c ∉ ['/', '\\', '?', '#'])
  | .other =>
    match rest with
    | '/' :: '/' :: rest => ofAuthority? scheme (rest.takeWhile fun c => c ∉ ['/', '?', '#'])
    | _ => none
  | .file =>
    match rest with
    | a :: b :: rest => if isSlash a && isSlash b then ofFile? rest else none
    | _ => none

end Host

def uriHost? (uri : String) : Option String := (Host.ofUri? uri).map Host.text

end TrustPath
