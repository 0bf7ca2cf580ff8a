import TrustPath.Proofs.Name.Equality
import TrustPath.Proofs.Name.Written

/-!
# Names written and read

Reading undoes writing (`DistinguishedName.parse_format`). From the two
forms for reading a name of texts comes back as it was, and from the
canonical form as a name equal to it: the one with its texts in normal
form and its attributes in order (`Rdn.normalized`).

What the reader does with written parts is known for parts of any kind;
what is left here is that the types of each form are types that the reader
takes for the same identifier, and that the forms join their parts with
blanks where the reader skips them.
-/

namespace TrustPath

/-! ## Dotted identifiers -/

/-- Two or more runs of digits with dots between them. -/
def IsDottedOid (oid : String) : Prop :=
  ∃ arcs : List (List Char), 2 ≤ arcs.length ∧
    (∀ arc ∈ arcs, arc ≠ [] ∧ ∀ c ∈ arc, '0' ≤ c ∧ c ≤ '9') ∧
    oid.toList = ['.'].intercalate arcs

/-- The check of the reader is the same: it cuts the text at its dots. -/
theorem isDottedOid_iff {oid : String} :
    IsDottedOid oid ↔ NameParser.isDotted oid.toList = true := by
  simp only [NameParser.isDotted, Bool.and_eq_true, decide_eq_true_eq, List.all_eq_true,
    Bool.not_eq_true', List.isEmpty_eq_false_iff, NameParser.isDigit]
  constructor
  · rintro ⟨arcs, hlength, hdigits, htext⟩
    have hne : arcs ≠ [] := by
      rintro rfl
      simp at hlength
    have hdot : ∀ arc ∈ arcs, '.' ∉ arc := by
      intro arc harc hmem
      exact absurd ((hdigits arc harc).2 '.' hmem) (by decide)
    rw [htext, Text.fields_intercalate hne hdot]
    exact ⟨hlength, hdigits⟩
  · rintro ⟨hlength, hdigits⟩
    exact ⟨Text.fields '.' oid.toList, hlength, hdigits, (Text.intercalate_fields '.' _).symm⟩

instance (oid : String) : Decidable (IsDottedOid oid) := decidable_of_iff _ isDottedOid_iff.symm

namespace IsDottedOid

variable {oid : String}

theorem isPrintedType (h : IsDottedOid oid) : IsPrintedType oid := by
  have hprinted := NameParser.isPrintedType_of_isDotted (isDottedOid_iff.mp h)
  rwa [String.ofList_toList] at hprinted

theorem exists_digit (h : IsDottedOid oid) :
    ∃ c rest, oid.toList = c :: rest ∧ NameParser.isDigit c = true := by
  obtain ⟨arcs, hlength, hdigits, htext⟩ := h
  obtain _ | ⟨arc, _ | ⟨next, more⟩⟩ := arcs
  · simp at hlength
  · simp at hlength
  · obtain ⟨hne, hdigit⟩ := hdigits arc (List.mem_cons_self ..)
    obtain ⟨c, rest, rfl⟩ := List.exists_cons_of_ne_nil hne
    refine ⟨c, rest ++ ['.'] ++ ['.'].intercalate (next :: more), ?_, ?_⟩
    · rw [htext, List.intercalate_cons_cons]
      simp
    · simpa [NameParser.isDigit] using hdigit c (List.mem_cons_self ..)

theorem mem_toList (h : IsDottedOid oid) {c : Char} (hc : c ∈ oid.toList) :
    c = '.' ∨ NameParser.isDigit c = true := by
  obtain ⟨arcs, -, hdigits, htext⟩ := h
  rw [htext] at hc
  rcases mem_intercalate hc with hc | ⟨arc, harc, hc⟩
  · exact .inl (List.mem_singleton.mp hc)
  · exact .inr (by simpa [NameParser.isDigit] using (hdigits arc harc).2 c hc)

end IsDottedOid

/-! ## Types -/

namespace NameParser

instance (type : List Char) (oid : String) : Decidable (Spells type oid) :=
  decidable_of_iff
    ((type.all fun c => decide (c ∉ ['=', ',', ';', '+', '"', '\\'])) = true ∧
      (type.all fun c => decide (Text.isBlank c = false)) = true ∧ oidOf? type = some oid)
    ⟨fun ⟨hplain, htight, hoid⟩ =>
      ⟨List.all_iff_forall_prop.mp hplain, List.all_iff_forall_prop.mp htight, hoid⟩,
     fun h => ⟨List.all_iff_forall_prop.mpr h.plain, List.all_iff_forall_prop.mpr h.tight, h.oidOf⟩⟩

theorem spells_keyword : ∀ entry ∈ keywords, Spells entry.1.toList entry.2 :=
  List.all_iff_forall_prop.mp (by decide +kernel)

theorem spells_lowercase_keyword :
    ∀ entry ∈ keywords.take 9, Spells (Text.lowercase entry.1).toList entry.2 :=
  List.all_iff_forall_prop.mp (by decide +kernel)

theorem withoutLead_digit {c : Char} (h : isDigit c = true) (rest : List Char) :
    withoutLead (c :: rest) = c :: rest := by
  have hupper : c ≠ 'O' := by
    rintro rfl
    exact absurd h (by decide)
  have hlower : c ≠ 'o' := by
    rintro rfl
    exact absurd h (by decide)
  simp [withoutLead, Text.stripStart?, hupper.symm, hlower.symm]

theorem oidOf?_of_withoutLead {type : List Char} {oid : String} (h : IsDottedOid oid)
    (htype : withoutLead type = oid.toList) : oidOf? type = some oid := by
  obtain ⟨c, rest, hoid, hdigit⟩ := h.exists_digit
  have hfirst : ((oid.toList.head?).map isDigit).getD false = true := by
    rw [hoid, List.head?_cons, Option.map_some, Option.getD_some, hdigit]
  rw [oidOf?, htype, if_pos hfirst, if_pos (isDottedOid_iff.mp h), String.ofList_toList]

/-- A dotted identifier spells itself, with or without the lead that one of the forms has. -/
theorem spells_dotted {lead oid : String} (h : IsDottedOid oid) (hlead : lead = "" ∨ lead = "OID.") :
    Spells (lead ++ oid).toList oid := by
  have hlead' : ∀ c ∈ lead.toList, c ∉ ['=', ',', ';', '+', '"', '\\'] ∧ Text.isBlank c = false := by
    rcases hlead with rfl | rfl <;> exact List.all_iff_forall_prop.mp (by decide)
  have hoid : ∀ c ∈ oid.toList,
      c ∉ ['=', ',', ';', '+', '"', '\\'] ∧ Text.isBlank c = false := by
    have hchars : ∀ c ∈ typeChars, c ≠ ' ' →
        c ∉ ['=', ',', ';', '+', '"', '\\'] ∧ Text.isBlank c = false :=
      List.all_iff_forall_prop.mp (by decide)
    intro c hc
    refine hchars c (h.isPrintedType.chars c hc) ?_
    rintro rfl
    exact absurd (h.mem_toList hc) (by decide)
  have hall := List.forall_mem_append.mpr ⟨hlead', hoid⟩
  rw [← String.toList_append] at hall
  refine ⟨fun c hc => (hall c hc).1, fun c hc => (hall c hc).2, oidOf?_of_withoutLead h ?_⟩
  rw [String.toList_append]
  rcases hlead with rfl | rfl
  · obtain ⟨c, rest, htext, hdigit⟩ := h.exists_digit
    rw [htext]
    exact withoutLead_digit hdigit rest
  · rw [withoutLead, Text.stripStart?_append]

theorem spells_typeName {style : NameStyle} {oid : String} (h : IsDottedOid oid)
    (hlead : style.typeLead = "" ∨ style.typeLead = "OID.") :
    Spells (style.typeName oid).toList oid := by
  obtain ⟨keyword, hkeyword, hname⟩ | hname := style.typeName_cases oid <;> rw [hname]
  · exact spells_keyword (keyword, oid) (List.mem_of_mem_take hkeyword)
  · exact spells_dotted h hlead

theorem spells_lowercase_typeName {oid : String} (h : IsDottedOid oid) :
    Spells (Text.lowercase (rfc2253Style.typeName oid)).toList oid := by
  obtain ⟨keyword, hkeyword, hname⟩ | hname := h.isPrintedType.lowercase_typeName <;> rw [hname]
  · exact spells_lowercase_keyword (keyword, oid) hkeyword
  · have hdotted := spells_dotted h (.inl rfl)
    rwa [String.empty_append] at hdotted

end NameParser

/-! ## Attributes -/

namespace Attribute

/-- An attribute that every form writes as a text: its type is a dotted identifier and its value
is a text. -/
def IsTextual (attr : Attribute) : Prop := IsDottedOid attr.oid ∧ ∃ s, attr.value = .text s

/-- The attribute with its text in normal form. -/
def normalized (attr : Attribute) : Attribute :=
  match attr.value with
  | .text s => ⟨attr.oid, .text (normalizeText s)⟩
  | .binary _ => attr

variable {attr : Attribute}

theorem writes_format {style : NameStyle} (h : attr.IsTextual)
    (hlead : style.typeLead = "" ∨ style.typeLead = "OID.") :
    NameParser.Writes (attr.format style).toList attr := by
  obtain ⟨oid, value⟩ := attr
  obtain ⟨hoid, s, rfl⟩ := h
  have hwrites := NameParser.Writes.of_parts (NameParser.spells_typeName hoid hlead) s.toList
  rw [String.ofList_toList] at hwrites
  rwa [toList_format, AttributeValue.toList_format_text]

theorem writes_canonical (h : attr.IsTextual) :
    NameParser.Writes attr.canonical.toList attr.normalized := by
  obtain ⟨oid, value⟩ := attr
  obtain ⟨hoid, s, rfl⟩ := h
  have hwrites := NameParser.Writes.of_parts (NameParser.spells_lowercase_typeName hoid)
    (normalizeText s).toList
  rw [String.ofList_toList] at hwrites
  rwa [toList_canonical, AttributeValue.toList_canonical_text]

theorem canonical_normalized (attr : Attribute) : attr.normalized.canonical = attr.canonical := by
  obtain ⟨oid, s | octets⟩ := attr
  · simp [normalized, canonical, AttributeValue.canonical, normalizeText_normalizeText]
  · rfl

end Attribute

/-! ## Relative names -/

namespace Rdn

/-- The relative name with its texts in normal form and its attributes in the order of the
canonical form. -/
def normalized (rdn : Rdn) : Rdn :=
  ⟨(rdn.attributes.map Attribute.normalized).mergeSort fun a b => decide (a.canonical ≤ b.canonical)⟩

theorem map_canonical_normalized (rdn : Rdn) :
    rdn.normalized.attributes.map Attribute.canonical = rdn.sortedTexts := by
  have htext : Attribute.canonical ∘ Attribute.normalized = Attribute.canonical :=
    funext Attribute.canonical_normalized
  rw [normalized, sortedTexts, List.map_mergeSort (s := fun a b => decide (a ≤ b)) (by simp),
    List.map_map, htext]

theorem canonical_normalized_eq (rdn : Rdn) : rdn.normalized.canonical = rdn.canonical := by
  have hsorted : rdn.normalized.sortedTexts = rdn.sortedTexts := by
    rw [sortedTexts, map_canonical_normalized]
    exact mergeSort_eq_iff.mpr (List.mergeSort_perm _ _)
  exact congrArg "+".intercalate hsorted

/-- A relative name with attributes, all of them textual. -/
def IsTextual (rdn : Rdn) : Prop := rdn.attributes ≠ [] ∧ ∀ attr ∈ rdn.attributes, attr.IsTextual

variable {rdn : Rdn}

theorem writes_format {style : NameStyle} (h : rdn.IsTextual)
    (hlead : style.typeLead = "" ∨ style.typeLead = "OID.") :
    List.Forall₂ NameParser.Writes
      ((rdn.attributes.map (Attribute.format style)).map String.toList) rdn.attributes := by
  rw [List.map_map, List.forall₂_map_left_iff, List.forall₂_same]
  exact fun attr hattr => Attribute.writes_format (h.2 attr hattr) hlead

theorem writes_canonical (h : rdn.IsTextual) :
    List.Forall₂ NameParser.Writes (rdn.sortedTexts.map String.toList)
      rdn.normalized.attributes := by
  rw [← map_canonical_normalized, List.map_map, List.forall₂_map_left_iff, List.forall₂_same]
  intro attr hattr
  obtain ⟨source, hsource, rfl⟩ := List.mem_map.mp (List.mem_mergeSort.mp hattr)
  have hwrites := Attribute.writes_canonical (h.2 source hsource)
  rwa [← Attribute.canonical_normalized] at hwrites

end Rdn

/-! ## Names -/

namespace DistinguishedName

open NameParser

/-- What is written relative name by relative name is parsed as a whole. -/
theorem parse_of_written {joiner separator : String} {after : List Char}
    (hjoiner : Padded '+' joiner.toList) (hseparator : separator.toList = ',' :: after)
    (hafter : Blanks after) {rows : List (List String)} {rdns : List Rdn}
    (h : List.Forall₂
      (fun row rdn => row ≠ [] ∧ List.Forall₂ Writes (row.map String.toList) rdn.attributes)
      rows rdns) :
    parse (separator.intercalate (rows.map joiner.intercalate)) = .ok ⟨rdns.reverse⟩ := by
  have hrows : List.Forall₂ (fun row rdn => row ≠ [] ∧ List.Forall₂ Writes row rdn.attributes)
      (rows.map fun row => row.map String.toList) rdns := by
    rw [List.forall₂_map_left_iff]
    exact h.imp fun row rdn hrow => ⟨by simpa using hrow.1, hrow.2⟩
  have htext : (separator.intercalate (rows.map joiner.intercalate)).toList =
      separator.toList.intercalate
        ((rows.map fun row => row.map String.toList).map joiner.toList.intercalate) := by
    rw [String.toList_intercalate, List.map_map, List.map_map]
    exact congrArg _ (List.map_congr_left fun row _ => String.toList_intercalate)
  rw [parse, htext, readName_of_written hjoiner hseparator hafter hrows]

theorem parse_formatWith {style : NameStyle} {name : DistinguishedName}
    (hname : ∀ rdn ∈ name.rdns, rdn.IsTextual)
    (hlead : style.typeLead = "" ∨ style.typeLead = "OID.") {after : List Char}
    (hseparator : style.separator.toList = ',' :: after) (hafter : Blanks after) :
    parse (name.formatWith style) = .ok name := by
  have hjoiner : Padded '+' " + ".toList := ⟨[' '], [' '], by decide, blanks_one, blanks_one⟩
  have hrows : List.Forall₂
      (fun row rdn => row ≠ [] ∧ List.Forall₂ Writes (row.map String.toList) rdn.attributes)
      (name.rdns.reverse.map fun rdn => rdn.attributes.map (Attribute.format style))
      name.rdns.reverse := by
    rw [List.forall₂_map_left_iff, List.forall₂_same]
    intro rdn hrdn
    have htextual := hname rdn (List.mem_reverse.mp hrdn)
    exact ⟨by simpa using htextual.1, Rdn.writes_format htextual hlead⟩
  have hparse := parse_of_written hjoiner hseparator hafter hrows
  rwa [List.map_map, List.reverse_reverse] at hparse

/-- The name with each relative name normalized. -/
def normalized (name : DistinguishedName) : DistinguishedName := ⟨name.rdns.map Rdn.normalized⟩

theorem parse_canonical {name : DistinguishedName} (hname : ∀ rdn ∈ name.rdns, rdn.IsTextual) :
    parse name.canonical = .ok name.normalized := by
  have hjoiner : Padded '+' "+".toList := ⟨[], [], by decide, blanks_nil, blanks_nil⟩
  have hseparator : ",".toList = [','] := by decide
  have hrows : List.Forall₂
      (fun row rdn => row ≠ [] ∧ List.Forall₂ Writes (row.map String.toList) rdn.attributes)
      (name.rdns.reverse.map Rdn.sortedTexts) (name.rdns.reverse.map Rdn.normalized) := by
    rw [List.forall₂_map_left_iff, List.forall₂_map_right_iff, List.forall₂_same]
    intro rdn hrdn
    have htextual := hname rdn (List.mem_reverse.mp hrdn)
    refine ⟨fun hnil => htextual.1 ?_, Rdn.writes_canonical htextual⟩
    have hlength := congrArg List.length hnil
    simpa [Rdn.sortedTexts] using hlength
  have hparse := parse_of_written hjoiner hseparator blanks_nil hrows
  rwa [List.map_map, ← List.map_reverse, List.reverse_reverse] at hparse

theorem normalized_beq (name : DistinguishedName) : (name.normalized == name) = true := by
  have htexts : name.normalized.rdnTexts = name.rdnTexts := by
    rw [rdnTexts, normalized, List.map_map]
    exact List.map_congr_left fun rdn _ => rdn.canonical_normalized_eq
  exact beq_of_rdnTexts htexts

/-- A name of texts comes back from both forms for reading as it was, and from the canonical form
as a name equal to it. -/
theorem parse_format {name : DistinguishedName} (hname : ∀ rdn ∈ name.rdns, rdn.IsTextual) :
    parse (name.format .rfc2253) = .ok name ∧ parse (name.format .rfc1779) = .ok name ∧
      ∃ other, parse (name.format .canonical) = .ok other ∧ (other == name) = true := by
  refine ⟨?_, ?_, name.normalized, parse_canonical hname, name.normalized_beq⟩
  · have hseparator : rfc2253Style.separator.toList = [','] := by decide
    exact parse_formatWith hname (.inl rfl) hseparator blanks_nil
  · have hseparator : rfc1779Style.separator.toList = [',', ' '] := by decide
    exact parse_formatWith hname (.inr rfl) hseparator (by simp [Blanks])

/-- Texts with every character that a form escapes, with hexadecimal digits after a backslash,
and with nothing but blanks or nothing at all. -/
def sampleName : DistinguishedName :=
  ⟨[⟨[⟨"2.5.4.10", .text "#1, \\41 = \"b\" + <c>; "⟩]⟩,
    ⟨[⟨"1.2.840.113549.1.9.1", .text ""⟩, ⟨"2.5.4.3", .text "  "⟩, ⟨"0.9", .text " \u03a3 "⟩]⟩]⟩

theorem sample_parse_format :
    parse (sampleName.format .rfc2253) = .ok sampleName ∧
      parse (sampleName.format .rfc1779) = .ok sampleName ∧
      ∃ other, parse (sampleName.format .canonical) = .ok other ∧ (other == sampleName) = true := by
  have htextual : ∀ {oid s}, IsDottedOid oid → Attribute.IsTextual ⟨oid, .text s⟩ :=
    fun hoid => ⟨hoid, _, rfl⟩
  refine parse_format (List.forall_mem_cons.mpr ⟨⟨List.cons_ne_nil _ _, ?_⟩,
    List.forall_mem_singleton.mpr ⟨List.cons_ne_nil _ _, ?_⟩⟩)
  · exact List.forall_mem_singleton.mpr (htextual (by decide))
  · exact List.forall_mem_cons.mpr ⟨htextual (by decide),
      List.forall_mem_cons.mpr ⟨htextual (by decide),
        List.forall_mem_singleton.mpr (htextual (by decide))⟩⟩

end DistinguishedName

end TrustPath
