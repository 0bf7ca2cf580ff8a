import TrustPath.Name.Der
import TrustPath.Proofs.Der.Encoding
import TrustPath.Proofs.Name.Recognition

/-!
# Values in hexadecimal and values in DER

There are two ways to the value of an attribute: a text gives the encoding
of the value in hexadecimal, and a name in DER holds it. The readers are
not the same. That of texts takes a length apart by itself and uses the low
five bits of one octet as the tag; that of DER knows long tags and longer
lengths, and leaves what comes after the value. On the encoding of a value
they agree (`DistinguishedName.hex_agrees_der`).
-/

namespace TrustPath

/-! ## Encodings of values -/

/-- The shortest length is a length in the sense of the grammar as long as four octets hold it. -/
theorem lengthOctets_of_lt {n : Nat} (h : n < 2 ^ 32) : LengthOctets n (Der.lengthOctets n) := by
  by_cases hsmall : n < 128
  · obtain ⟨hform, hvalue⟩ := Der.lengthOctets_short hsmall
    have hshort : LengthOctets (UInt8.ofNat n).toNat [UInt8.ofNat n] := .short (by omega)
    rwa [hvalue, ← hform] at hshort
  · obtain ⟨b, hform, hb, hsome, hfew⟩ :=
      Der.lengthOctets_long (by omega : 128 ≤ n) (by simpa using h : n < 256 ^ 4) (by decide)
    have hlong := LengthOctets.long hb hsome hfew
    rwa [Octets.toNat_ofSize, ← hform] at hlong

/-- What is read from the encoding of a value is its content under its tag. -/
theorem encodedValue_encode {identifier : UInt8} {content : Octets}
    (h : content.length < 2 ^ 32) :
    EncodedValue (Der.encode identifier content) (.ofContent (identifier.toNat % 32) content) :=
  .mk (lengthOctets_of_lt h)

/-! ## Names in DER -/

/-- The encoding of an attribute, from the encoding of its value. -/
def Attribute.encode (oid : Oid) (value : Octets) : Octets :=
  Der.encode 0x30 (Der.encode 0x06 oid.octets ++ value)

theorem Attribute.takes_encode {oid : Oid} {identifier : UInt8} {content : Octets}
    (htag : identifier.toNat % 32 ≠ 31)
    (hlength : (encode oid (Der.encode identifier content)).length < Nat.pow 2 64) :
    Der.Takes read (encode oid (Der.encode identifier content))
      ⟨oid.dotted, .ofContent (identifier.toNat % 32) content⟩ := by
  -- the parts are shorter than the whole, so no length is too large for the reader
  have hparts := Der.length_lt_encode 0x30
    (Der.encode 0x06 oid.octets ++ Der.encode identifier content)
  have htype := Der.length_lt_encode 0x06 oid.octets
  have hvalue := Der.length_lt_encode identifier content
  rw [← encode, List.length_append] at hparts
  have hreadType : Oid.read (Der.encode 0x06 oid.octets ++ Der.encode identifier content) =
      .ok (oid, Der.encode identifier content) :=
    bind_eq_ok.mpr ⟨_, Der.element_encode (by decide) (by omega) _, rfl⟩
  have hreadValue := Der.element_encode htag (by omega : content.length < Nat.pow 2 64) []
  rw [List.append_nil] at hreadValue
  refine Der.takes_sequence ?_ (bind_eq_ok.mpr ⟨_, hreadType, bind_eq_ok.mpr ⟨_, hreadValue, rfl⟩⟩)
  rw [List.length_append]
  omega

theorem Rdn.takes_encode {parts : List Octets} {attrs : List Attribute} (hne : attrs ≠ [])
    (hparts : List.Forall₂ (Der.Takes Attribute.read) parts attrs)
    (hlength : (Der.encode 0x31 parts.flatten).length < Nat.pow 2 64) :
    Der.Takes read (Der.encode 0x31 parts.flatten) ⟨attrs⟩ := by
  have hcontent := Der.length_lt_encode 0x31 parts.flatten
  have hread := Der.atLeastOne_flatten hne hparts rfl
  exact Der.takes_set (by omega) (bind_eq_ok.mpr ⟨_, hread, rfl⟩)

theorem DistinguishedName.takes_encode {parts : List Octets} {rdns : List Rdn}
    (hparts : List.Forall₂ (Der.Takes Rdn.read) parts rdns)
    (hlength : (Der.encode 0x30 parts.flatten).length < Nat.pow 2 64) :
    Der.Takes read (Der.encode 0x30 parts.flatten) ⟨rdns⟩ := by
  have hcontent := Der.length_lt_encode 0x30 parts.flatten
  have hread := Der.many_flatten hparts rfl
  exact Der.takes_sequence (by omega) (bind_eq_ok.mpr ⟨_, hread, rfl⟩)

/-! ## Names of one attribute -/

/-- A text that spells a type is a type in the sense of the grammar. -/
theorem NameParser.Spells.typeText {type : List Char} {oid : String}
    (h : NameParser.Spells type oid) : TypeText type oid := by
  refine NameParser.typeText_iff.mpr ⟨h.plain, ?_⟩
  rw [NameParser.trim_eq_self h.tight]
  exact h.oidOf

namespace DistinguishedName

/-- The name that asserts one attribute. -/
def single (oid : String) (value : AttributeValue) : DistinguishedName := ⟨[⟨[⟨oid, value⟩]⟩]⟩

/-- The encoding of a name that asserts one attribute, from the encoding of its value. -/
def encodeSingle (oid : Oid) (value : Octets) : Octets :=
  Der.encode 0x30 (Der.encode 0x31 (Attribute.encode oid value))

theorem nameText_single {type digits : List Char} {oid : String} {octets : Octets}
    {value : AttributeValue} (htype : TypeText type oid) (hdigits : octets.SpelledBy digits)
    (hvalue : EncodedValue octets value) :
    NameText (type ++ '=' :: '#' :: digits) (single oid value) := by
  have hattr := AttributeText.mk NameParser.blanks_nil htype NameParser.blanks_nil
    (.hex hdigits hvalue) NameParser.blanks_nil
  have hname := NameText.listed (.last (.one hattr))
  simpa [single] using hname

theorem takes_encodeSingle {oid : Oid} {identifier : UInt8} {content : Octets}
    (htag : identifier.toNat % 32 ≠ 31)
    (hlength : (encodeSingle oid (Der.encode identifier content)).length < Nat.pow 2 64) :
    Der.Takes read (encodeSingle oid (Der.encode identifier content))
      (single oid.dotted (.ofContent (identifier.toNat % 32) content)) := by
  have hwhole := Der.length_lt_encode 0x30
    (Der.encode 0x31 (Attribute.encode oid (Der.encode identifier content)))
  have hset := Der.length_lt_encode 0x31 (Attribute.encode oid (Der.encode identifier content))
  rw [← encodeSingle] at hwhole
  have hattrs : [Attribute.encode oid (Der.encode identifier content)].flatten =
      Attribute.encode oid (Der.encode identifier content) := by simp
  have hrdns : [Der.encode 0x31 (Attribute.encode oid (Der.encode identifier content))].flatten =
      Der.encode 0x31 (Attribute.encode oid (Der.encode identifier content)) := by simp
  have hattr := Attribute.takes_encode htag (by omega :
    (Attribute.encode oid (Der.encode identifier content)).length < Nat.pow 2 64)
  have hrdn := Rdn.takes_encode (List.cons_ne_nil _ []) (.cons hattr .nil) (by rw [hattrs]; omega)
  rw [hattrs] at hrdn
  have hname := takes_encode (.cons hrdn .nil) (by rw [hrdns]; exact hlength)
  rwa [hrdns] at hname

/-- **The two readers of values agree.** For a dotted type and the encoding of a primitive value
under a universal tag, the text that gives the encoding in hexadecimal digits of either case and
the name that holds it in DER are read as the same name: that of the type with the value that the
content has under the tag. No octet string is longer than sixty-four bits can count. -/
theorem hex_agrees_der {oid : Oid} {tag : Nat} {content : Octets} {digits : List Char}
    (hoid : IsDottedOid oid.dotted) (htag : 1 ≤ tag ∧ tag ≤ 30) (hcontent : content.length < 2 ^ 32)
    (hdigits : (Der.encode (UInt8.ofNat tag) content).SpelledBy digits)
    (hlength : (encodeSingle oid (Der.encode (UInt8.ofNat tag) content)).length < 2 ^ 64) :
    parse (oid.dotted ++ "=#" ++ String.ofList digits) =
        .ok (single oid.dotted (.ofContent tag content)) ∧
      ofDer? (encodeSingle oid (Der.encode (UInt8.ofNat tag) content)) =
        some (single oid.dotted (.ofContent tag content)) := by
  have hidentifier : (UInt8.ofNat tag).toNat % 32 = tag := by
    rw [UInt8.toNat_ofNat_of_lt' (by simp [UInt8.size]; omega)]
    omega
  constructor
  · have hspells := NameParser.spells_dotted hoid (.inl rfl)
    have htext := nameText_single hspells.typeText hdigits (encodedValue_encode hcontent)
    rw [hidentifier, String.empty_append] at htext
    rw [parse_eq_ok_iff, NameParser.readName_eq_ok_iff]
    simpa using htext
  · obtain ⟨-, hread⟩ := takes_encodeSingle (by omega) hlength
    have hwhole := hread []
    rw [List.append_nil, hidentifier] at hwhole
    rw [ofDer?, hwhole]

theorem sample_hex_agrees_der :
    IsDottedOid (Oid.dotted ⟨[0x2a, 3, 4]⟩) ∧
      (Der.encode (UInt8.ofNat 12) [0x41]).SpelledBy "0C0141".toList ∧
      parse (Oid.dotted ⟨[0x2a, 3, 4]⟩ ++ "=#" ++ String.ofList "0C0141".toList) =
        .ok (single (Oid.dotted ⟨[0x2a, 3, 4]⟩) (.ofContent 12 [0x41])) ∧
      ofDer? (encodeSingle ⟨[0x2a, 3, 4]⟩ (Der.encode (UInt8.ofNat 12) [0x41])) =
        some (single (Oid.dotted ⟨[0x2a, 3, 4]⟩) (.ofContent 12 [0x41])) := by
  have hoid : IsDottedOid (Oid.dotted ⟨[0x2a, 3, 4]⟩) := by decide +kernel
  have hdigits : (Der.encode (UInt8.ofNat 12) [0x41]).SpelledBy "0C0141".toList := by
    rw [Octets.SpelledBy]
    decide +kernel
  exact ⟨hoid, hdigits,
    hex_agrees_der hoid (by decide) (by decide) hdigits (by decide +kernel)⟩

end DistinguishedName

end TrustPath
