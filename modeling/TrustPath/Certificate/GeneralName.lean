import TrustPath.Name.Der
import TrustPath.Name.Printer
import TrustPath.Address

/-!
# General names

The names that a certificate or a constraint can give besides the subject: host names, addresses,
URIs and more, told apart by a tag of RFC 5280.
-/

namespace TrustPath

/-- A kind of alternative name. -/
inductive AltNameType
  | otherName
  | rfc822
  | dns
  | x400Address
  | directoryName
  | ediPartyName
  | uri
  | ipAddress
  | registeredId
deriving Repr, DecidableEq

namespace AltNameType

def all : List AltNameType :=
  [.otherName, .rfc822, .dns, .x400Address, .directoryName, .ediPartyName, .uri, .ipAddress,
   .registeredId]

def tag : AltNameType → Nat
  | .otherName => 0
  | .rfc822 => 1
  | .dns => 2
  | .x400Address => 3
  | .directoryName => 4
  | .ediPartyName => 5
  | .uri => 6
  | .ipAddress => 7
  | .registeredId => 8

def ofTag? (tag : Nat) : Option AltNameType := all.find? (·.tag = tag)

def label : AltNameType → String
  | .otherName => "other_name"
  | .rfc822 => "rfc822"
  | .dns => "dns"
  | .x400Address => "x400_address"
  | .directoryName => "directory_name"
  | .ediPartyName => "edi_party_name"
  | .uri => "uri"
  | .ipAddress => "ip_address"
  | .registeredId => "registered_id"

def ofLabel? (label : String) : Option AltNameType := all.find? (·.label = label)

end AltNameType

/-- A general name. Kinds without a string form carry no value. -/
inductive GeneralName
  | otherName
  | rfc822 (s : String)
  | dns (s : String)
  | x400Address
  | directory (name : DistinguishedName)
  | ediPartyName
  | uri (s : String)
  | ip (octets : Octets)
  | registeredId (oid : Oid)
deriving Repr

namespace GeneralName

def type : GeneralName → AltNameType
  | .otherName => .otherName
  | .rfc822 _ => .rfc822
  | .dns _ => .dns
  | .x400Address => .x400Address
  | .directory _ => .directoryName
  | .ediPartyName => .ediPartyName
  | .uri _ => .uri
  | .ip _ => .ipAddress
  | .registeredId _ => .registeredId

def text? : GeneralName → Option String
  | .rfc822 s | .dns s | .uri s => some s
  | .directory name => some (toString name)
  | .ip octets => Address.text? octets
  | .registeredId oid => some oid.dotted
  | .otherName | .x400Address | .ediPartyName => none

/-- The name in an element with a context-specific tag. -/
def ofElement? (e : Der.Element) : Option GeneralName :=
  if e.header.tagClass = .contextSpecific then
    match e.tag with
    | 0 => match Oid.read e.content with
      | .ok _ => some .otherName
      | .error _ => none
    | 1 => (Octets.toText? e.content).map .rfc822
    | 2 => (Octets.toText? e.content).map .dns
    | 3 => some .x400Address
    | 4 => match Der.whole DistinguishedName.read e.content with
      | .ok (name, _) => some (.directory name)
      | .error _ => none
    | 5 => some .ediPartyName
    | 6 => (Octets.toText? e.content).map .uri
    | 7 => some (.ip e.content)
    | 8 => some (.registeredId ⟨e.content⟩)
    | _ => none
  else none

def read : Der.Reader GeneralName := Der.mapOption ofElement? Der.element

end GeneralName

end TrustPath
