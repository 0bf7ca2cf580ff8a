import TrustPath.Octets
import TrustPath.Text.Wide
import TrustPath.Text.Blank
import TrustPath.Text.Lowercase

/-!
# Distinguished names

A distinguished name is a list of relative names, the most general first, and a relative name is
a list of attributes. An attribute has a type, written as a dotted object identifier, and a value
that is either a text or the octets of something that is not a text. The string forms list the
relative names in the opposite order, the most specific first.
-/

namespace TrustPath

/-- The value of an attribute: a text, or the content octets of any other value. -/
inductive AttributeValue
  | text (s : String)
  | binary (octets : Octets)
deriving Repr, DecidableEq

/-- An attribute of a relative name: its type as a dotted object identifier, and its value. -/
structure Attribute where
  oid : String
  value : AttributeValue
deriving Repr, DecidableEq

/-- A relative distinguished name: the attributes that one step of the name asserts. -/
structure Rdn where
  attributes : List Attribute
deriving Repr, DecidableEq

/-- A distinguished name, the most general relative name first. -/
structure DistinguishedName where
  rdns : List Rdn
deriving Repr

instance : Inhabited DistinguishedName := ⟨⟨[]⟩⟩

/-- Attribute types with a keyword. The first nine are written by keyword, the first seven of
them in every string form; the others are only read. -/
def keywords : List (String × String) :=
  [("CN", "2.5.4.3"), ("C", "2.5.4.6"), ("L", "2.5.4.7"), ("ST", "2.5.4.8"), ("O", "2.5.4.10"),
   ("OU", "2.5.4.11"), ("STREET", "2.5.4.9"), ("DC", "0.9.2342.19200300.100.1.25"),
   ("UID", "0.9.2342.19200300.100.1.1"), ("SERIALNUMBER", "2.5.4.5"), ("SURNAME", "2.5.4.4"),
   ("T", "2.5.4.12"), ("TITLE", "2.5.4.12"), ("POSTALCODE", "2.5.4.17"),
   ("GIVENNAME", "2.5.4.42"), ("INITIALS", "2.5.4.43"), ("GENERATION", "2.5.4.44"),
   ("DNQ", "2.5.4.46"), ("DNQUALIFIER", "2.5.4.46"), ("EMAIL", "1.2.840.113549.1.9.1"),
   ("EMAILADDRESS", "1.2.840.113549.1.9.1")]

def commonNameOid : String := "2.5.4.3"

def emailAddressOid : String := "1.2.840.113549.1.9.1"

namespace AttributeValue

def text? : AttributeValue → Option String
  | .text s => some s
  | .binary _ => none

def isBinary : AttributeValue → Bool
  | .text _ => false
  | .binary _ => true

/-- The text that content octets spell under a universal tag number: the character string types
in UTF-8, or in wide units. Other tags, and octets that do not spell a text, have none. -/
def textOfContent? (tag : Nat) (content : Octets) : Option String :=
  match tag with
  | 12 | 19 | 20 | 22 => Octets.toText? content
  | 30 => (Text.ofUnits16? (Text.units16 content)).map String.ofList
  | 28 => (Text.ofQuads? content).map String.ofList
  | _ => none

/-- The value that content octets have under a universal tag number. -/
def ofContent (tag : Nat) (content : Octets) : AttributeValue :=
  match textOfContent? tag content with
  | some s => .text s
  | none => .binary content

end AttributeValue

namespace DistinguishedName

def isEmpty (name : DistinguishedName) : Bool := name.rdns.isEmpty

/-- The texts of the attributes with the given type, those of the most specific relative name
first. -/
def valuesOf (name : DistinguishedName) (oid : String) : List String :=
  (name.rdns.reverse.flatMap (·.attributes)).filterMap fun attr =>
    if attr.oid = oid then attr.value.text? else none

end DistinguishedName

end TrustPath
