import TrustPath.Name.Basic

/-!
# String forms of names

A name is written with the most specific relative name first, commas between relative names and
plus signs between the attributes of one. Two forms are for reading, after RFC 2253 and RFC 1779;
the canonical form is for comparison: keywords and texts are lowercased, white space is collapsed
and the attributes of a relative name are sorted.
-/

namespace TrustPath

/-- A string form of names. -/
inductive NameFormat
  | rfc2253
  | rfc1779
  | canonical
deriving Repr, DecidableEq

/-- How a string form for reading writes names: what stands between relative names, how many
attribute types have a keyword, and what stands before a type without one. -/
structure NameStyle where
  separator : String
  keywordCount : Nat
  typeLead : String

/-- Nine keywords, and no blank after a comma. -/
def rfc2253Style : NameStyle := ⟨",", 9, ""⟩

/-- Seven keywords, a blank after a comma, and `OID.` before a dotted type. -/
def rfc1779Style : NameStyle := ⟨", ", 7, "OID."⟩

/-- The keyword of an attribute type, or the type itself after the lead of the style. -/
def NameStyle.typeName (style : NameStyle) (oid : String) : String :=
  match (keywords.take style.keywordCount).find? (·.2 = oid) with
  | some (keyword, _) => keyword
  | none => style.typeLead ++ oid

/-- Characters that are escaped wherever they stand. -/
def isSpecial (c : Char) : Bool := c ∈ [',', '+', '"', '\\', '<', '>', ';']

/-- Put a backslash before every special character, before a `#` or blank that comes first
(`atStart`), and before a blank that comes last. -/
def escapeFrom (atStart : Bool) : List Char → List Char
  | [] => []
  | c :: rest =>
    let escape := isSpecial c || (atStart && (c = '#' || c = ' ')) || (rest.isEmpty && c = ' ')
    if escape then '\\' :: c :: escapeFrom false rest else c :: escapeFrom false rest

/-- A text with the escapes that a string form needs. -/
def escapeText (s : String) : String := String.ofList (escapeFrom true s.toList)

/-- A text as it is compared: words with one blank between them, in lowercase. -/
def normalizeText (s : String) : String :=
  String.ofList (Text.lowerChars (Text.collapse s.toList))

namespace AttributeValue

/-- The value in a string form for reading; octets are written after a `#`. -/
def format : AttributeValue → String
  | .text s => escapeText s
  | .binary octets => "#" ++ Octets.toHex octets

def canonical : AttributeValue → String
  | .text s => escapeText (normalizeText s)
  | .binary octets => "#" ++ Octets.toHex octets

end AttributeValue

def Attribute.format (style : NameStyle) (attr : Attribute) : String :=
  style.typeName attr.oid ++ "=" ++ attr.value.format

def Attribute.canonical (attr : Attribute) : String :=
  Text.lowercase (rfc2253Style.typeName attr.oid) ++ "=" ++ attr.value.canonical

/-- The relative name in a string form for reading. -/
def Rdn.format (style : NameStyle) (rdn : Rdn) : String :=
  " + ".intercalate (rdn.attributes.map (Attribute.format style))

/-- The relative name in the canonical form, its attributes in increasing order. -/
def Rdn.canonical (rdn : Rdn) : String :=
  "+".intercalate ((rdn.attributes.map Attribute.canonical).mergeSort fun a b => decide (a ≤ b))

namespace DistinguishedName

def canonical (name : DistinguishedName) : String :=
  ",".intercalate (name.rdns.reverse.map Rdn.canonical)

def formatWith (style : NameStyle) (name : DistinguishedName) : String :=
  style.separator.intercalate (name.rdns.reverse.map (Rdn.format style))

def format (name : DistinguishedName) : NameFormat → String
  | .rfc2253 => name.formatWith rfc2253Style
  | .rfc1779 => name.formatWith rfc1779Style
  | .canonical => name.canonical

instance : ToString DistinguishedName := ⟨fun name => name.format .rfc2253⟩

/-- Names are equal when they have as many relative names and the same canonical form. -/
instance : BEq DistinguishedName :=
  ⟨fun a b => a.rdns.length == b.rdns.length && a.canonical == b.canonical⟩

instance : Hashable DistinguishedName := ⟨fun name => hash name.canonical⟩

/-- Whether the relative names of `base` are the first ones of `name`, up to their canonical
form: the name lies in the subtree under `base`. -/
def isWithin (name base : DistinguishedName) : Bool :=
  decide (base.rdns.length ≤ name.rdns.length) &&
    (base.rdns.zip name.rdns).all fun (b, n) => b.canonical == n.canonical

end DistinguishedName

end TrustPath
