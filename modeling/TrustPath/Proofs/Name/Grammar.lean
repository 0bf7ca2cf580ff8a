import TrustPath.Proofs.Name.RoundTrip

/-!
# The grammar of names

Which texts are names, and which name each of them is, said without the
reader: a text is taken apart into the parts that it consists of, and no
part is looked at with what comes after it. There is one relation for each
level, from the parts of a value up to the whole name (`NameText`).

The one place where a text could be taken apart in two ways is a backslash
before a hexadecimal digit. Two digits after it are always an octet, so a
single digit is taken as it is only when no second one follows
(`Run.character`).
-/

namespace TrustPath

open NameParser (Blanks Piece)

/-! ## Types -/

/-- Nothing but white space. -/
def WhiteSpace (cs : List Char) : Prop := ∀ c ∈ cs, Text.isBlank c = true

/-- A keyword in any case, or a dotted identifier. -/
inductive TypeName : List Char → String → Prop
  | keyword {base : List Char} {keyword oid : String} (hentry : (keyword, oid) ∈ keywords)
      (hbase : base.map Char.toUpper = keyword.toList) : TypeName base oid
  | dotted {oid : String} (hoid : IsDottedOid oid) : TypeName oid.toList oid

/-- What may stand in front of the name of a type. -/
def typeLeads : List (List Char) := [[], "OID.".toList, "oid.".toList]

/-- The text before an equals sign: a type with white space around it. -/
structure TypeText (text : List Char) (oid : String) : Prop where
  plain : ∀ c ∈ text, c ∉ ['=', ',', ';', '+', '"', '\\']
  parts : ∃ before lead base after, text = before ++ (lead ++ base) ++ after ∧
    WhiteSpace before ∧ lead ∈ typeLeads ∧ TypeName base oid ∧ WhiteSpace after

/-! ## Values -/

/-- A definite length: the number itself below 128, or one to four octets after their count. -/
inductive LengthOctets : Nat → Octets → Prop
  | short {b : UInt8} (hsmall : b.toNat < 128) : LengthOctets b.toNat [b]
  | long {b : UInt8} {octets : Octets} (hcount : b.toNat = 128 + octets.length)
      (hsome : 1 ≤ octets.length) (hfew : octets.length ≤ 4) :
      LengthOctets (Octets.toNat octets) (b :: octets)

/-- One octet for the identifier, a definite length, and that much content. The value is that of
the content under the low five bits of the identifier. -/
inductive EncodedValue : Octets → AttributeValue → Prop
  | mk {identifier : UInt8} {size content : Octets} (hsize : LengthOctets content.length size) :
      EncodedValue (identifier :: (size ++ content)) (.ofContent (identifier.toNat % 32) content)

/-- No hexadecimal digit comes first. -/
def NoDigitFirst (cs : List Char) : Prop := ∀ c ∈ cs.head?, Octets.isHexDigit c = false

/-- Characters as they are, up to those in `stops`, and escapes: two hexadecimal digits for an
octet, or any other character. -/
inductive Run (stops : List Char) : List Char → List Piece → Prop
  | nil : Run stops [] []
  | plain {c : Char} {cs : List Char} {pieces : List Piece} (hstop : c ∉ stops) (hback : c ≠ '\\')
      (hrest : Run stops cs pieces) : Run stops (c :: cs) (.plain c :: pieces)
  | octet {a b : Char} {cs : List Char} {octet : UInt8} {pieces : List Piece}
      (hdigits : Octets.SpelledBy [octet] [a, b]) (hrest : Run stops cs pieces) :
      Run stops ('\\' :: a :: b :: cs) (.escaped [octet] :: pieces)
  | character {c : Char} {cs : List Char} {pieces : List Piece}
      (hdigits : Octets.isHexDigit c = true → NoDigitFirst cs)
      (hrest : Run stops cs pieces) :
      Run stops ('\\' :: c :: cs) (.escaped (String.utf8EncodeChar c) :: pieces)

/-- The pieces spell a text: together their octets are its encoding. -/
def Spell (pieces : List Piece) (s : String) : Prop :=
  pieces.flatMap (·.octets) = Octets.ofChars s.toList

/-- A value: hexadecimal digits with an encoded value, a text between quotes, or a plain text,
which neither begins nor ends with a blank of its own. -/
inductive ValueText : List Char → AttributeValue → Prop
  | hex {digits : List Char} {octets : Octets} {value : AttributeValue}
      (hdigits : octets.SpelledBy digits) (hvalue : EncodedValue octets value) :
      ValueText ('#' :: digits) value
  | quoted {body : List Char} {pieces : List Piece} {s : String} (hbody : Run ['"'] body pieces)
      (hs : Spell pieces s) : ValueText ('"' :: (body ++ ['"'])) (.text s)
  | plain {body : List Char} {pieces : List Piece} {s : String}
      (hbody : Run [',', ';', '+'] body pieces) (hfirst : ∀ c ∈ body.head?, c ∉ [' ', '#', '"'])
      (hlast : ∀ piece ∈ pieces.getLast?, piece.isBlank = false) (hs : Spell pieces s) :
      ValueText body (.text s)

/-! ## Names -/

/-- A type, an equals sign and a value, with blanks around each of them. -/
inductive AttributeText : List Char → Attribute → Prop
  | mk {before type between value after : List Char} {oid : String} {v : AttributeValue}
      (hbefore : Blanks before) (htype : TypeText type oid) (hbetween : Blanks between)
      (hvalue : ValueText value v) (hafter : Blanks after) :
      AttributeText (before ++ type ++ '=' :: (between ++ value ++ after)) ⟨oid, v⟩

/-- Attributes with plus signs between them. -/
inductive RdnText : List Char → List Attribute → Prop
  | one {cs : List Char} {attr : Attribute} (hattr : AttributeText cs attr) : RdnText cs [attr]
  | joined {cs more : List Char} {attr : Attribute} {attrs : List Attribute}
      (hattr : AttributeText cs attr) (hmore : RdnText more attrs) :
      RdnText (cs ++ '+' :: more) (attr :: attrs)

/-- Relative names with commas or semicolons between them. -/
inductive RdnsText : List Char → List Rdn → Prop
  | last {cs : List Char} {attrs : List Attribute} (hattrs : RdnText cs attrs) :
      RdnsText cs [⟨attrs⟩]
  | next {cs more : List Char} {attrs : List Attribute} {rdns : List Rdn} {separator : Char}
      (hattrs : RdnText cs attrs) (hseparator : separator = ',' ∨ separator = ';')
      (hmore : RdnsText more rdns) : RdnsText (cs ++ separator :: more) (⟨attrs⟩ :: rdns)

/-- A name: nothing but blanks, or relative names, the most specific first. -/
inductive NameText : List Char → DistinguishedName → Prop
  | empty {cs : List Char} (hblanks : Blanks cs) : NameText cs ⟨[]⟩
  | listed {cs : List Char} {rdns : List Rdn} (hrdns : RdnsText cs rdns) :
      NameText cs ⟨rdns.reverse⟩

end TrustPath
