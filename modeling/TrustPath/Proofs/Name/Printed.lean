import TrustPath.Proofs.Decoding
import TrustPath.Proofs.Name.Reading
import TrustPath.Proofs.Octets
import TrustPath.Proofs.Text.Normal
import TrustPath.Proofs.Text.Split

/-!
# Attribute types of names that were read

A name comes from a string form or from its encoding. Either way each of
its relative names holds an attribute, and each attribute type is a
printed identifier (`IsRead.hasPrintedTypes`): digits with dots between them,
octets in hexadecimal with blanks between them, or at most one digit.

Such a type is not a keyword in lowercase, so the types that the canonical
form writes determine the types they stand for (`lowercase_typeName_inj`).
-/

namespace TrustPath

/-- The characters of printed identifiers. -/
def typeChars : List Char := "0123456789abcdef. ".toList

/-- A text of the kind that identifiers are printed as; what sets it apart from the keywords is a
dot or a blank in it, or that it has no letter at all. -/
structure IsPrintedType (oid : String) : Prop where
  chars : ∀ c ∈ oid.toList, c ∈ typeChars
  unlikeKeyword : '.' ∈ oid.toList ∨ ' ' ∈ oid.toList ∨ oid = "" ∨ oid = "0"

/-- Two or more parts with dots, or with blanks, between them. -/
theorem IsPrintedType.of_intercalate {oid : String} {separator : Char} {parts : List (List Char)}
    (hoid : oid.toList = [separator].intercalate parts) (hsep : separator = '.' ∨ separator = ' ')
    (hlength : 2 ≤ parts.length) (hparts : ∀ part ∈ parts, ∀ c ∈ part, c ∈ typeChars) :
    IsPrintedType oid := by
  have hjoin : separator ∈ oid.toList := by
    obtain _ | ⟨first, _ | ⟨second, more⟩⟩ := parts
    · simp at hlength
    · simp at hlength
    · rw [hoid, List.intercalate_cons_cons]
      simp
  refine ⟨fun c hc => ?_, ?_⟩
  · rw [hoid] at hc
    rcases mem_intercalate hc with hc | ⟨part, hpart, hc⟩
    · rw [List.mem_singleton.mp hc]
      rcases hsep with rfl | rfl <;> decide
    · exact hparts part hpart c hc
  · rcases hsep with rfl | rfl
    · exact .inl hjoin
    · exact .inr (.inl hjoin)

theorem mem_typeChars_of_isDigit {c : Char} (h : NameParser.isDigit c = true) : c ∈ typeChars := by
  have hdigits : ∀ n < 58, 48 ≤ n → Char.ofNat n ∈ typeChars := by decide
  simp only [NameParser.isDigit, Bool.and_eq_true, decide_eq_true_eq] at h
  have hlow : 48 ≤ c.toNat := h.1
  have hhigh : c.toNat ≤ 57 := h.2
  exact c.ofNat_toNat ▸ hdigits c.toNat (by omega) hlow

/-! ## Identifiers in DER -/

theorem mem_typeChars_of_mem_hexPair {b : UInt8} {c : Char} (h : c ∈ Octets.hexPair b) :
    c ∈ typeChars := by
  have hdigit : ∀ n < 16, Octets.hexDigit n ∈ typeChars := by decide
  obtain ⟨n, hn, rfl⟩ := Octets.mem_hexPair h
  exact hdigit n hn

theorem mem_typeChars_of_mem_toString {n : Nat} {c : Char} (h : c ∈ (toString n).toList) :
    c ∈ typeChars := by
  have hmem : c ∈ Nat.toDigits 10 n := by simpa [toString, Nat.repr] using h
  have hdigit := Nat.isDigit_of_mem_toDigits (by decide) (by decide) hmem
  simp only [Char.isDigit, Bool.and_eq_true, decide_eq_true_eq] at hdigit
  refine mem_typeChars_of_isDigit ?_
  simp only [NameParser.isDigit, Bool.and_eq_true, decide_eq_true_eq]
  exact hdigit

theorem Oid.isPrintedType_dotted (oid : Oid) : IsPrintedType oid.dotted := by
  unfold Oid.dotted
  split
  · exact ⟨by simp, by simp⟩
  · exact ⟨List.all_iff_forall_prop.mp (by decide), by simp⟩
  · next first rest _ _ =>
    dsimp only
    split
    · -- a number too long to print is one of the octets after the first
      next hoctets hlong =>
      obtain ⟨arc, harc, -⟩ := List.any_eq_true.mp hlong
      have hrest : rest ≠ [] := by
        rintro rfl
        simp [arcsFrom] at harc
      have hlength := List.length_pos_iff.mpr hrest
      have htext : (Octets.toHexWith " " oid.octets).toList =
          [' '].intercalate (oid.octets.map Octets.hexPair) := by
        rw [Octets.toHexWith, String.toList_intercalate, List.map_map]
        exact congrArg _ (List.map_congr_left fun b _ => String.toList_ofList)
      refine .of_intercalate htext (.inr rfl) ?_ ?_
      · rw [List.length_map, hoctets, List.length_cons]
        omega
      · intro part hpart c hc
        obtain ⟨b, -, rfl⟩ := List.mem_map.mp hpart
        exact mem_typeChars_of_mem_hexPair hc
    · refine .of_intercalate (String.toList_intercalate) (.inl rfl) (by simp) ?_
      intro part hpart c hc
      obtain ⟨text, htext, rfl⟩ := List.mem_map.mp hpart
      obtain ⟨n, -, rfl⟩ := List.mem_map.mp htext
      exact mem_typeChars_of_mem_toString hc

/-! ## Identifiers in string forms -/

namespace NameParser

theorem isPrintedType_of_isDotted {cs : List Char} (h : isDotted cs = true) :
    IsPrintedType (String.ofList cs) := by
  simp only [isDotted, Bool.and_eq_true, decide_eq_true_eq, List.all_eq_true] at h
  obtain ⟨hlength, hdigits⟩ := h
  have htext : (String.ofList cs).toList = ['.'].intercalate (Text.fields '.' cs) := by
    rw [String.toList_ofList, Text.intercalate_fields]
  exact .of_intercalate htext (.inl rfl) hlength fun part hpart c hc =>
    mem_typeChars_of_isDigit ((hdigits part hpart).2 c hc)

theorem isPrintedType_of_keyword : ∀ entry ∈ keywords, IsPrintedType entry.2 := by
  have hkeywords : ∀ entry ∈ keywords,
      (entry.2.toList.all fun c => decide (c ∈ typeChars)) = true ∧ '.' ∈ entry.2.toList :=
    List.all_iff_forall_prop.mp (by decide +kernel)
  intro entry hentry
  obtain ⟨hchars, hdot⟩ := hkeywords entry hentry
  exact ⟨List.all_iff_forall_prop.mp hchars, .inl hdot⟩

theorem isPrintedType_of_oidOf? {type : List Char} {oid : String} (h : oidOf? type = some oid) :
    IsPrintedType oid := by
  unfold oidOf? at h
  dsimp only at h
  split at h
  · split at h
    · next hdotted =>
      obtain rfl := Option.some.inj h
      exact isPrintedType_of_isDotted hdotted
    · cases h
  · obtain ⟨entry, hfind, rfl⟩ := Option.map_eq_some_iff.mp h
    exact isPrintedType_of_keyword entry (List.mem_of_find?_eq_some hfind)

theorem isPrintedType_of_readAttribute {cs rest : List Char} {attr : Attribute}
    (h : readAttribute cs = .ok (attr, rest)) : IsPrintedType attr.oid := by
  unfold readAttribute at h
  split at h
  · cases h
  · next oid _ htype =>
    have hoid : IsPrintedType oid := by
      unfold readType at htype
      split at htype
      · cases htype
      · dsimp only at htype
        split at htype
        · cases htype
        · split at htype
          · next hoid =>
            obtain ⟨rfl, -⟩ := Prod.mk.inj (Except.ok.inj htype)
            exact isPrintedType_of_oidOf? hoid
          · cases htype
    split at h
    · cases h
    · obtain ⟨rfl, -⟩ := Prod.mk.inj (Except.ok.inj h)
      exact hoid

end NameParser

/-! ## Types in the canonical form -/

/-- An attribute type is written as its keyword, if the style has one, or after the lead. -/
theorem NameStyle.typeName_cases (style : NameStyle) (oid : String) :
    (∃ keyword, (keyword, oid) ∈ keywords.take style.keywordCount ∧
        style.typeName oid = keyword) ∨
      style.typeName oid = style.typeLead ++ oid := by
  unfold NameStyle.typeName
  split
  · next keyword oid' hfind =>
    have hoid : oid' = oid := by simpa using List.find?_some hfind
    exact .inl ⟨keyword, hoid ▸ List.mem_of_find?_eq_some hfind, rfl⟩
  · exact .inr rfl

theorem IsPrintedType.lowercase_eq {oid : String} (h : IsPrintedType oid) :
    Text.lowercase oid = oid := by
  have hlowered : ∀ c ∈ typeChars, Text.IsLowered c := List.all_iff_forall_prop.mp (by decide)
  rw [Text.lowercase, Text.lowerChars,
    Text.lowerFrom_of_isLowered fun c hc => hlowered c (h.chars c hc), String.ofList_toList]

theorem IsPrintedType.lowercase_typeName {oid : String} (h : IsPrintedType oid) :
    (∃ keyword, (keyword, oid) ∈ keywords.take 9 ∧
        Text.lowercase (rfc2253Style.typeName oid) = Text.lowercase keyword) ∨
      Text.lowercase (rfc2253Style.typeName oid) = oid := by
  obtain ⟨keyword, hkeyword, hname⟩ | hname := rfc2253Style.typeName_cases oid
  · exact .inl ⟨keyword, hkeyword, by rw [hname]⟩
  · exact .inr (by rw [hname, rfc2253Style, String.empty_append, h.lowercase_eq])

/-- A keyword in lowercase is not a printed identifier. -/
theorem IsPrintedType.ne_lowercase_keyword {oid keyword other : String} (h : IsPrintedType oid)
    (hkeyword : (keyword, other) ∈ keywords.take 9) : Text.lowercase keyword ≠ oid := by
  have hkeywords : ∀ entry ∈ keywords.take 9, '.' ∉ (Text.lowercase entry.1).toList ∧
      ' ' ∉ (Text.lowercase entry.1).toList ∧ Text.lowercase entry.1 ≠ "" ∧
      Text.lowercase entry.1 ≠ "0" := List.all_iff_forall_prop.mp (by decide +kernel)
  rintro rfl
  obtain ⟨hdot, hblank, hempty, hzero⟩ := hkeywords _ hkeyword
  rcases h.unlikeKeyword with h | h | h | h
  · exact hdot h
  · exact hblank h
  · exact hempty h
  · exact hzero h

/-- The types that the canonical form writes determine the types they stand for. -/
theorem lowercase_typeName_inj {oid other : String} (h : IsPrintedType oid)
    (hother : IsPrintedType other)
    (heq : Text.lowercase (rfc2253Style.typeName oid) =
      Text.lowercase (rfc2253Style.typeName other)) : oid = other := by
  have hkeywords : ∀ a ∈ keywords.take 9, ∀ b ∈ keywords.take 9,
      Text.lowercase a.1 = Text.lowercase b.1 → a.2 = b.2 := by decide +kernel
  obtain ⟨keyword, hmem, hname⟩ | hname := h.lowercase_typeName <;>
    obtain ⟨keyword₂, hmem₂, hname₂⟩ | hname₂ := hother.lowercase_typeName <;>
    rw [hname, hname₂] at heq
  · exact hkeywords _ hmem _ hmem₂ heq
  · exact absurd heq (hother.ne_lowercase_keyword hmem)
  · exact absurd heq.symm (h.ne_lowercase_keyword hmem₂)
  · exact heq

/-- No separator of names and no backslash stands in a type of the canonical form. -/
theorem IsPrintedType.not_separator {oid : String} (h : IsPrintedType oid) :
    ∀ c ∈ (Text.lowercase (rfc2253Style.typeName oid)).toList, c ∉ [',', '+', '=', '\\'] := by
  have hkeywords : ∀ entry ∈ keywords.take 9, ((Text.lowercase entry.1).toList.all fun c =>
      decide (c ∉ [',', '+', '=', '\\'])) = true := List.all_iff_forall_prop.mp (by decide +kernel)
  have hchars : ∀ c ∈ typeChars, c ∉ [',', '+', '=', '\\'] :=
    List.all_iff_forall_prop.mp (by decide)
  obtain ⟨keyword, hkeyword, hname⟩ | hname := h.lowercase_typeName <;> rw [hname]
  · exact List.all_iff_forall_prop.mp (hkeywords (keyword, oid) hkeyword)
  · exact fun c hc => hchars c (h.chars c hc)

/-! ## Names -/

/-- A relative name holds an attribute, and its attribute types are printed identifiers. -/
def Rdn.HasPrintedTypes (rdn : Rdn) : Prop :=
  rdn.attributes ≠ [] ∧ ∀ attr ∈ rdn.attributes, IsPrintedType attr.oid

theorem NameParser.ReadsRdns.hasPrintedTypes {read : List Attribute} {cs : List Char}
    {rdns : List Rdn} (h : ReadsRdns read cs rdns) (hread : ∀ attr ∈ read, IsPrintedType attr.oid) :
    ∀ rdn ∈ rdns, rdn.HasPrintedTypes := by
  have hmore : ∀ {read : List Attribute} {attr : Attribute} {cs rest : List Char},
      (∀ attr ∈ read, IsPrintedType attr.oid) → readAttribute cs = .ok (attr, rest) →
        ∀ other ∈ read ++ [attr], IsPrintedType other.oid := fun hread hattr =>
    List.forall_mem_append.mpr
      ⟨hread, List.forall_mem_singleton.mpr (isPrintedType_of_readAttribute hattr)⟩
  induction h with
  | last hattr => simpa using ⟨by simp, hmore hread hattr⟩
  | joined hattr _ ih => exact ih (hmore hread hattr)
  | next hattr _ _ ih =>
      exact List.forall_mem_cons.mpr ⟨⟨by simp, hmore hread hattr⟩, ih (by simp)⟩

namespace DistinguishedName

/-- A name that was read from a string form or from its encoding. -/
inductive IsRead : DistinguishedName → Prop
  | parsed {s : String} {name : DistinguishedName} (h : parse s = .ok name) : IsRead name
  | decoded {octets rest : Octets} {name : DistinguishedName}
      (h : read octets = .ok (name, rest)) : IsRead name

theorem IsRead.hasPrintedTypes {name : DistinguishedName} (h : name.IsRead) :
    ∀ rdn ∈ name.rdns, rdn.HasPrintedTypes := by
  cases h with
  | @parsed s _ h =>
      have hname := parse_eq_ok_iff.mp h
      unfold NameParser.readName at hname
      split at hname
      · obtain rfl := Except.ok.inj hname
        exact fun rdn hrdn => absurd hrdn List.not_mem_nil
      · split at hname
        · cases hname
        · next rdns hrdns =>
          obtain rfl := Except.ok.inj hname
          have hreads := NameParser.readRdns_eq_ok_iff.mp hrdns
          exact fun rdn hrdn => hreads.hasPrintedTypes (by simp) rdn (List.mem_reverse.mp hrdn)
  | decoded h =>
      intro rdn hrdn
      obtain ⟨hne, hattrs⟩ := yields_read _ _ h rdn hrdn
      refine ⟨hne, fun attr hattr => ?_⟩
      obtain ⟨oid, hoid⟩ := hattrs attr hattr
      exact hoid ▸ oid.isPrintedType_dotted

end DistinguishedName

end TrustPath
