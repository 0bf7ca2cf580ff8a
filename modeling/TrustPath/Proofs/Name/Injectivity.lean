import TrustPath.Proofs.Name.Equality
import TrustPath.Proofs.NameEvaluation

/-!
# Written names identify names

No two names that were read have one string form
(`DistinguishedName.format_exact`). Unlike reading back, this holds of every
name, whatever its values: the form determines its parts even where the
reader makes something else of them. So a trusted text stands for at most
one name when it is compared with the alternative names of certificates.

As with the canonical form, each level joins parts that are sealed against
its separator. Plus signs have blanks around them here, which go to the
parts on both sides, and the order of the parts is kept.
-/

namespace TrustPath

theorem eq_of_map_eq {α β : Type} {f : α → β} {xs ys : List α}
    (hinj : ∀ x ∈ xs, ∀ y ∈ ys, f x = f y → x = y) (h : xs.map f = ys.map f) : xs = ys := by
  induction xs generalizing ys with
  | nil => exact (List.map_eq_nil_iff.mp h.symm).symm
  | cons x xs ih =>
      cases ys with
      | nil => cases h
      | cons y ys =>
          obtain ⟨hfirst, hmore⟩ := List.cons.inj h
          rw [hinj x (List.mem_cons_self ..) y (List.mem_cons_self ..) hfirst]
          exact congrArg (y :: ·) (ih (fun x hx y hy =>
            hinj x (List.mem_cons_of_mem _ hx) y (List.mem_cons_of_mem _ hy)) hmore)

/-! ## Values and attributes -/

namespace AttributeValue

/-- Escaped texts never begin as octets do. -/
theorem format_text_ne_binary (s : String) (octets : Octets) :
    (text s).format ≠ (binary octets).format := by
  intro h
  refine head?_escapeFrom s.toList ?_
  rw [← toList_format_text, h, toList_format_binary, List.head?_cons]

theorem format_inj {a b : AttributeValue} (h : a.format = b.format) : a = b := by
  cases a with
  | text s =>
      cases b with
      | text t => exact congrArg text (escapeText_inj h)
      | binary cs => exact absurd h (format_text_ne_binary s cs)
  | binary bs =>
      cases b with
      | text t => exact absurd h.symm (format_text_ne_binary t bs)
      | binary cs => exact congrArg binary (Octets.toHex_inj ((String.append_right_inj "#").mp h))

theorem sealed_format {separator : Char} (hspecial : isSpecial separator = true)
    (a : AttributeValue) : Sealed separator a.format.toList := by
  cases a with
  | text s =>
      rw [toList_format_text]
      exact sealed_escapeFrom hspecial true _
  | binary octets =>
      rw [toList_format_binary]
      exact sealed_hash hspecial octets

end AttributeValue

/-- No separator of names and no backslash stands in a written type. -/
theorem IsPrintedType.typeName_plain {oid : String} (h : IsPrintedType oid) :
    ∀ c ∈ (rfc2253Style.typeName oid).toList, c ∉ [',', '+', '=', '\\'] := by
  have hkeywords : ∀ entry ∈ keywords.take 9, (entry.1.toList.all fun c =>
      decide (c ∉ [',', '+', '=', '\\'])) = true := List.all_iff_forall_prop.mp (by decide +kernel)
  have hchars : ∀ c ∈ typeChars, c ∉ [',', '+', '=', '\\'] :=
    List.all_iff_forall_prop.mp (by decide)
  obtain ⟨keyword, hkeyword, hname⟩ | hname := rfc2253Style.typeName_cases oid <;> rw [hname]
  · exact List.all_iff_forall_prop.mp (hkeywords (keyword, oid) hkeyword)
  · rw [rfc2253Style, String.empty_append]
    exact fun c hc => hchars c (h.chars c hc)

namespace Attribute

theorem sealed_format {separator : Char} (hseparator : separator = ',' ∨ separator = '+')
    {attr : Attribute} (h : IsPrintedType attr.oid) :
    Sealed separator (attr.format rfc2253Style).toList := by
  have hspecial : isSpecial separator = true := by
    rcases hseparator with rfl | rfl <;> decide
  rw [toList_format]
  exact sealed_assertion hseparator h.typeName_plain (attr.value.sealed_format hspecial)

theorem format_inj {a b : Attribute} (ha : IsPrintedType a.oid) (hb : IsPrintedType b.oid)
    (h : a.format rfc2253Style = b.format rfc2253Style) : a = b := by
  rw [← String.toList_inj, toList_format, toList_format] at h
  obtain ⟨hname, hvalue⟩ := assertion_inj ha.typeName_plain hb.typeName_plain h
  -- types that are written alike are alike in lowercase too
  have hoid := lowercase_typeName_inj ha hb (congrArg Text.lowercase (String.toList_inj.mp hname))
  have hsame := AttributeValue.format_inj (String.toList_inj.mp hvalue)
  cases a
  cases b
  exact congr (congrArg mk hoid) hsame

end Attribute

/-! ## Relative names -/

namespace Rdn

theorem sealed_attributes {separator : Char} (hseparator : separator = ',' ∨ separator = '+')
    {rdn : Rdn} (h : rdn.HasPrintedTypes) :
    ∀ text ∈ rdn.attributes.map fun attr => (attr.format rfc2253Style).toList,
      Sealed separator text := by
  intro text htext
  obtain ⟨attr, hattr, rfl⟩ := List.mem_map.mp htext
  exact Attribute.sealed_format hseparator (h.2 attr hattr)

theorem sealed_format {rdn : Rdn} (h : rdn.HasPrintedTypes) :
    Sealed ',' (rdn.format rfc2253Style).toList := by
  rw [toList_format]
  exact .intercalate (.of_plain (by simp)) (sealed_attributes (.inl rfl) h)

theorem format_inj {a b : Rdn} (ha : a.HasPrintedTypes) (hb : b.HasPrintedTypes)
    (h : a.format rfc2253Style = b.format rfc2253Style) : a = b := by
  have hblank : Sealed '+' [' '] := .plain (by decide) (by decide) .nil
  rw [← String.toList_inj, toList_format, toList_format] at h
  have htexts := intercalate_padded_inj (by decide) hblank hblank (sealed_attributes (.inr rfl) ha)
    (sealed_attributes (.inr rfl) hb) (by simpa using ha.1) (by simpa using hb.1) h
  have hattrs := eq_of_map_eq (fun x hx y hy hxy =>
    Attribute.format_inj (ha.2 x hx) (hb.2 y hy) (String.toList_inj.mp hxy)) htexts
  cases a
  cases b
  exact congrArg mk hattrs

end Rdn

/-! ## Names -/

namespace DistinguishedName

theorem toList_format (name : DistinguishedName) : (name.format .rfc2253).toList =
    [','].intercalate (name.rdns.reverse.map fun rdn => (rdn.format rfc2253Style).toList) := by
  rw [format, formatWith, String.toList_intercalate, List.map_map]
  rfl

/-- Only the empty name is written as the empty text. -/
theorem format_ne_of_ne_nil {a b : DistinguishedName} (ha : a.rdns = [])
    (hb : ∀ rdn ∈ b.rdns, rdn.HasPrintedTypes) (hne : b.rdns ≠ []) :
    a.format .rfc2253 ≠ b.format .rfc2253 := by
  intro h
  obtain ⟨rdn, more, hrdns⟩ := List.exists_cons_of_ne_nil (mt List.reverse_eq_nil_iff.mp hne)
  have hrdn : rdn ∈ b.rdns := List.mem_reverse.mp (by simp [hrdns])
  have hequals := rdn.equals_mem_format rfc2253Style (hb rdn hrdn).1
  rw [← String.toList_inj, toList_format, toList_format, ha, hrdns] at h
  cases more <;> simp_all [List.intercalate_cons_cons]

theorem format_inj {a b : DistinguishedName} (ha : ∀ rdn ∈ a.rdns, rdn.HasPrintedTypes)
    (hb : ∀ rdn ∈ b.rdns, rdn.HasPrintedTypes) (h : a.format .rfc2253 = b.format .rfc2253) :
    a = b := by
  have hsealed : ∀ {name : DistinguishedName}, (∀ rdn ∈ name.rdns, rdn.HasPrintedTypes) →
      ∀ text ∈ name.rdns.reverse.map fun rdn => (rdn.format rfc2253Style).toList,
        Sealed ',' text := by
    intro name hname text htext
    obtain ⟨rdn, hrdn, rfl⟩ := List.mem_map.mp htext
    exact Rdn.sealed_format (hname rdn (List.mem_reverse.mp hrdn))
  by_cases hna : a.rdns = []
  · by_cases hnb : b.rdns = []
    · cases a
      cases b
      exact congrArg mk (hna.trans hnb.symm)
    · exact absurd h (format_ne_of_ne_nil hna hb hnb)
  · by_cases hnb : b.rdns = []
    · exact absurd h.symm (format_ne_of_ne_nil hnb ha hna)
    · rw [← String.toList_inj, toList_format, toList_format] at h
      have htexts := intercalate_inj (by decide) (hsealed ha) (hsealed hb) (by simpa using hna)
        (by simpa using hnb) h
      have hrdns := eq_of_map_eq (fun x hx y hy hxy =>
        Rdn.format_inj (ha x (List.mem_reverse.mp hx)) (hb y (List.mem_reverse.mp hy))
          (String.toList_inj.mp hxy)) htexts
      cases a
      cases b
      exact congrArg mk (List.reverse_injective hrdns)

end DistinguishedName

/-! ## Alternative names -/

/-- A directory name among the alternative names is compared by its string form. -/
theorem NameEvaluator.outcome_matchAltNames_directory {e : NameEvaluator} {c : Certificate}
    {name : DistinguishedName} (htype : .directoryName ∈ e.altNameTypes)
    (hnames : c.subjectAltName = .ok (some [.directory name])) (trusted : TextSet)
    (max : LogLevel) :
    Logging.outcome (e.matchAltNames c trusted) max = .ok true ↔
      name.format .rfc2253 ∈ trusted.toList := by
  have htexts : c.altNames e.altNameTypes = .ok [name.format .rfc2253] := by
    rw [Certificate.altNames, hnames]
    simp [GeneralName.type, GeneralName.text?, htype, toString]
  rw [outcome_matchAltNames, htexts]
  simp [Except.map, TextSet.contains]

namespace DistinguishedName

/-- **Written names identify names.** Names that were read have one string form only where they
are the same name, and no text is written like octets. So one trusted text is matched by the
directory name of an alternative name for one name at most. -/
theorem format_exact {a b : DistinguishedName} (ha : a.IsRead) (hb : b.IsRead) :
    (a.format .rfc2253 = b.format .rfc2253 ↔ a = b) ∧
      (∀ s octets, (AttributeValue.text s).format ≠ (AttributeValue.binary octets).format) ∧
      ∀ (e : NameEvaluator) (c d : Certificate) (trusted : TextSet) (max : LogLevel) (s : String),
        .directoryName ∈ e.altNameTypes → trusted.toList = [s] →
          c.subjectAltName = .ok (some [.directory a]) →
          d.subjectAltName = .ok (some [.directory b]) →
          Logging.outcome (e.matchAltNames c trusted) max = .ok true →
          Logging.outcome (e.matchAltNames d trusted) max = .ok true → a = b := by
  have hinj : a.format .rfc2253 = b.format .rfc2253 → a = b :=
    format_inj ha.hasPrintedTypes hb.hasPrintedTypes
  refine ⟨⟨hinj, fun h => congrArg (format · .rfc2253) h⟩, AttributeValue.format_text_ne_binary, ?_⟩
  intro e c d trusted max s htype htrusted hc hd hcmatch hdmatch
  rw [NameEvaluator.outcome_matchAltNames_directory htype hc, htrusted] at hcmatch
  rw [NameEvaluator.outcome_matchAltNames_directory htype hd, htrusted] at hdmatch
  exact hinj ((List.mem_singleton.mp hcmatch).trans (List.mem_singleton.mp hdmatch).symm)

/-- The encoding of a name with three relative names, the last of two attributes, one of which
is an octet string. -/
def sampleRdns : Octets :=
  Octets.ofNat 29 0x3036310b3009060355040613025553310c300a060355040a0c03612362
    ++ Octets.ofNat 27 0x3119300906032a030404020102300c06035504030c05522c204420

/-- A parsed name and one from an encoding, with one string form: it has quoted, escaped and
spaced texts, octets, and separators of every kind. -/
theorem sample_format : ∃ a b rest,
    parse "1.2.3.4 = #04020102 + cn = \"R, D \", o = a\\#b; c = US" = .ok a ∧
    read sampleRdns = .ok (b, rest) ∧
    a.format .rfc2253 = "1.2.3.4=#0102 + CN=R\\, D\\ ,O=a#b,C=US" ∧
    b.format .rfc2253 = "1.2.3.4=#0102 + CN=R\\, D\\ ,O=a#b,C=US" ∧ a = b := by
  have hparsed : succeeds (parse "1.2.3.4 = #04020102 + cn = \"R, D \", o = a\\#b; c = US")
      (fun a => decide (a.format .rfc2253 = "1.2.3.4=#0102 + CN=R\\, D\\ ,O=a#b,C=US")) = true := by
    decide +kernel
  have hdecoded : succeeds (read sampleRdns) (fun result =>
      decide (result.1.format .rfc2253 = "1.2.3.4=#0102 + CN=R\\, D\\ ,O=a#b,C=US")) = true := by
    decide +kernel
  simp only [succeeds_iff, decide_eq_true_eq] at hparsed hdecoded
  obtain ⟨a, ha, haform⟩ := hparsed
  obtain ⟨⟨b, rest⟩, hb, hbform⟩ := hdecoded
  have hequal := (format_exact (.parsed ha) (.decoded hb)).1.mp (haform.trans hbform.symm)
  exact ⟨a, b, rest, ha, hb, haform, hbform, hequal⟩

end DistinguishedName

end TrustPath
