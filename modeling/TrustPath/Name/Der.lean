import TrustPath.Name.Basic
import TrustPath.Der.Oid

/-!
# Names in DER

A name is a sequence of relative names, each a set of attributes, each a sequence of a type and a
value. Reading a name stops at the first part that is not a relative name; what is before it is
the name.
-/

namespace TrustPath

/-- Read an attribute: its type, and a value of any type. -/
def Attribute.read : Der.Reader Attribute :=
  Der.sequence fun input => do
    let (oid, rest) ← Oid.read input
    let (value, rest) ← Der.element rest
    return (⟨oid.dotted, .ofContent value.tag value.content⟩, rest)

def Rdn.read : Der.Reader Rdn :=
  Der.set fun input => do
    let (attributes, rest) ← Der.atLeastOne Attribute.read input
    return (⟨attributes⟩, rest)

namespace DistinguishedName

def read : Der.Reader DistinguishedName :=
  Der.sequence fun input => do
    let (rdns, rest) ← Der.many Rdn.read input
    return (⟨rdns⟩, rest)

def ofDer? (octets : Octets) : Option DistinguishedName :=
  match read octets with
  | .ok (name, _) => some name
  | .error _ => none

end DistinguishedName

end TrustPath
