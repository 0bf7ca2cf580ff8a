import Mathlib.Data.Multiset.MapFold
import Mathlib.Data.List.Forall2
import TrustPath.Proofs.Name.Printed
import TrustPath.Proofs.Name.Separated
import TrustPath.Proofs.Text.NormalForm

/-!
# Equality of names

Names are compared by one joined text, and names below a base by the texts
of their relative names. Both comparisons are comparisons of structure:
the canonical form determines each attribute up to the normal form of its
value, each relative name up to the order of its attributes, and each name
relative name by relative name (`DistinguishedName.beq_exact`).

The argument goes up through the levels of a name. At each level the form
joins parts that are sealed against the separator of that level, so equal
forms have equal parts.
-/

namespace TrustPath

/-! ## Values -/

namespace AttributeValue

/-- Values that count as the same: texts with one normal form, or the same octets. -/
def Same : AttributeValue → AttributeValue → Prop
  | .text s, .text t => ∃ form, NormalForm s form ∧ NormalForm t form
  | .binary bs, .binary cs => bs = cs
  | .text _, .binary _ => False
  | .binary _, .text _ => False

theorem same_text_iff {s t : String} :
    (text s).Same (text t) ↔ normalizeText s = normalizeText t := by
  simp only [Same, normalForm_iff, exists_eq_left']
  exact eq_comm

instance : (a b : AttributeValue) → Decidable (a.Same b)
  | .text _, .text _ => decidable_of_iff _ same_text_iff.symm
  | .binary bs, .binary cs => inferInstanceAs (Decidable (bs = cs))
  | .text _, .binary _ => inferInstanceAs (Decidable False)
  | .binary _, .text _ => inferInstanceAs (Decidable False)

theorem toList_canonical_text (s : String) :
    (text s).canonical.toList = escapeFrom true (normalizeText s).toList := by
  rw [canonical, escapeText, String.toList_ofList]

theorem toList_canonical_binary (octets : Octets) :
    (binary octets).canonical.toList = '#' :: Octets.toHexChars octets := by
  simp [canonical, Octets.toHex]

theorem canonical_eq_iff {a b : AttributeValue} : a.canonical = b.canonical ↔ a.Same b := by
  have hnever : ∀ s octets, (text s).canonical ≠ (binary octets).canonical := by
    intro s octets h
    refine head?_escapeFrom (normalizeText s).toList ?_
    rw [← toList_canonical_text, h, toList_canonical_binary, List.head?_cons]
  cases a with
  | text s =>
      cases b with
      | text t =>
          rw [same_text_iff]
          exact ⟨fun h => escapeText_inj h, fun h => congrArg escapeText h⟩
      | binary cs => exact iff_of_false (hnever _ _) id
  | binary bs =>
      cases b with
      | text t => exact iff_of_false (fun h => hnever _ _ h.symm) id
      | binary cs =>
          refine ⟨fun h => Octets.toHex_inj ?_, fun h => congrArg (canonical ∘ binary) h⟩
          exact (String.append_right_inj "#").mp h

theorem sealed_canonical {separator : Char} (hspecial : isSpecial separator = true)
    (a : AttributeValue) : Sealed separator a.canonical.toList := by
  cases a with
  | text s =>
      rw [toList_canonical_text]
      exact sealed_escapeFrom hspecial true _
  | binary octets =>
      rw [toList_canonical_binary]
      exact sealed_hash hspecial octets

end AttributeValue

/-! ## Attributes -/

namespace Attribute

/-- Attributes of one type with the same value. -/
def Same (a b : Attribute) : Prop := a.oid = b.oid ∧ a.value.Same b.value

instance (a b : Attribute) : Decidable (a.Same b) := inferInstanceAs (Decidable (_ ∧ _))

theorem toList_canonical (a : Attribute) :
    a.canonical.toList =
      (Text.lowercase (rfc2253Style.typeName a.oid)).toList ++ '=' :: a.value.canonical.toList := by
  rw [canonical, String.toList_append, String.toList_append, List.append_assoc]
  rfl

theorem sealed_canonical {separator : Char} (hseparator : separator = ',' ∨ separator = '+')
    {a : Attribute} (ha : IsPrintedType a.oid) : Sealed separator a.canonical.toList := by
  have hspecial : isSpecial separator = true := by
    rcases hseparator with rfl | rfl <;> decide
  rw [toList_canonical]
  exact sealed_assertion hseparator ha.not_separator (a.value.sealed_canonical hspecial)

theorem canonical_eq_iff {a b : Attribute} (ha : IsPrintedType a.oid) (hb : IsPrintedType b.oid) :
    a.canonical = b.canonical ↔ a.Same b := by
  rw [← String.toList_inj, toList_canonical, toList_canonical]
  constructor
  · intro h
    obtain ⟨hname, hvalue⟩ := assertion_inj ha.not_separator hb.not_separator h
    exact ⟨lowercase_typeName_inj ha hb (String.toList_inj.mp hname),
      AttributeValue.canonical_eq_iff.mp (String.toList_inj.mp hvalue)⟩
  · rintro ⟨hoid, hvalue⟩
    rw [hoid, AttributeValue.canonical_eq_iff.mpr hvalue]

end Attribute

/-! ## Relative names -/

namespace Rdn

/-- Relative names with the same attributes, in whatever order. -/
def Same (a b : Rdn) : Prop :=
  Multiset.Rel Attribute.Same (a.attributes : Multiset Attribute) (b.attributes : Multiset Attribute)

theorem mergeSort_eq_iff {xs ys : List String} :
    (xs.mergeSort fun a b => decide (a ≤ b)) = (ys.mergeSort fun a b => decide (a ≤ b)) ↔
      xs.Perm ys := by
  have hsorted : ∀ zs : List String,
      (zs.mergeSort fun a b => decide (a ≤ b)).Pairwise fun a b => decide (a ≤ b) = true := by
    refine List.pairwise_mergeSort (fun a b c hab hbc => ?_) (fun a b => ?_)
    · exact decide_eq_true (String.le_trans (of_decide_eq_true hab) (of_decide_eq_true hbc))
    · simpa using String.le_total a b
  constructor
  · intro h
    exact (List.mergeSort_perm xs _).symm.trans (h ▸ List.mergeSort_perm ys _)
  · intro h
    refine List.Perm.eq_of_pairwise (fun a b _ _ hab hba => ?_) (hsorted xs) (hsorted ys)
      ((List.mergeSort_perm xs _).trans (h.trans (List.mergeSort_perm ys _).symm))
    exact String.le_antisymm (of_decide_eq_true hab) (of_decide_eq_true hba)

/-- The texts that the canonical form of a relative name joins. -/
def sortedTexts (rdn : Rdn) : List String :=
  (rdn.attributes.map Attribute.canonical).mergeSort fun a b => decide (a ≤ b)

theorem toList_canonical (rdn : Rdn) :
    rdn.canonical.toList = ['+'].intercalate (rdn.sortedTexts.map String.toList) :=
  String.toList_intercalate

theorem sealed_of_mem_sortedTexts {separator : Char} (hseparator : separator = ',' ∨ separator = '+')
    {rdn : Rdn} (h : rdn.HasPrintedTypes) :
    ∀ text ∈ rdn.sortedTexts.map String.toList, Sealed separator text := by
  intro text htext
  obtain ⟨s, hs, rfl⟩ := List.mem_map.mp htext
  obtain ⟨attr, hattr, rfl⟩ := List.mem_map.mp (List.mem_mergeSort.mp hs)
  exact Attribute.sealed_canonical hseparator (h.2 attr hattr)

theorem canonical_eq_iff {a b : Rdn} (ha : a.HasPrintedTypes) (hb : b.HasPrintedTypes) :
    a.canonical = b.canonical ↔ a.Same b := by
  have hne : ∀ {rdn : Rdn}, rdn.HasPrintedTypes → rdn.sortedTexts.map String.toList ≠ [] := by
    intro rdn h hnil
    have hlength := congrArg List.length hnil
    rw [List.length_map, sortedTexts, List.length_mergeSort, List.length_map] at hlength
    exact h.1 (List.length_eq_zero_iff.mp hlength)
  have htexts : a.canonical = b.canonical ↔ a.sortedTexts = b.sortedTexts := by
    refine ⟨fun h => ?_, fun h => congrArg "+".intercalate h⟩
    rw [← String.toList_inj, toList_canonical, toList_canonical] at h
    have hparts := intercalate_inj (by decide) (sealed_of_mem_sortedTexts (.inr rfl) ha)
      (sealed_of_mem_sortedTexts (.inr rfl) hb) (hne ha) (hne hb) h
    exact List.map_injective_iff.mpr (fun _ _ => String.toList_inj.mp) hparts
  calc a.canonical = b.canonical
      ↔ (a.attributes.map Attribute.canonical).Perm (b.attributes.map Attribute.canonical) :=
        htexts.trans mergeSort_eq_iff
    _ ↔ Multiset.Rel (fun x y : Attribute => x.canonical = y.canonical) a.attributes b.attributes := by
        rw [← Multiset.coe_eq_coe, ← Multiset.map_coe, ← Multiset.map_coe, ← Multiset.rel_eq,
          Multiset.rel_map]
    _ ↔ a.Same b := by
        constructor <;> intro h <;> refine h.mono fun x hx y hy hxy => ?_
        · exact (Attribute.canonical_eq_iff (ha.2 x hx) (hb.2 y hy)).mp hxy
        · exact (Attribute.canonical_eq_iff (ha.2 x hx) (hb.2 y hy)).mpr hxy

theorem sealed_canonical {rdn : Rdn} (h : rdn.HasPrintedTypes) :
    Sealed ',' rdn.canonical.toList := by
  rw [toList_canonical]
  exact Sealed.intercalate (.plain (by decide) (by decide) .nil)
    (sealed_of_mem_sortedTexts (.inl rfl) h)

end Rdn

/-! ## Names -/

namespace DistinguishedName

/-- The canonical forms of the relative names. -/
def rdnTexts (name : DistinguishedName) : List String := name.rdns.map Rdn.canonical

theorem toList_canonical (name : DistinguishedName) :
    name.canonical.toList = [','].intercalate (name.rdnTexts.reverse.map String.toList) := by
  rw [canonical, String.toList_intercalate, List.map_reverse]
  rfl

theorem beq_iff {a b : DistinguishedName} :
    (a == b) = true ↔ a.rdnTexts.length = b.rdnTexts.length ∧ a.canonical = b.canonical := by
  simp [BEq.beq, rdnTexts]

theorem beq_of_rdnTexts {a b : DistinguishedName} (h : a.rdnTexts = b.rdnTexts) :
    (a == b) = true := by
  refine beq_iff.mpr ⟨congrArg List.length h, ?_⟩
  rw [← String.toList_inj, toList_canonical, toList_canonical, h]

theorem beq_iff_rdnTexts {a b : DistinguishedName} (ha : ∀ rdn ∈ a.rdns, rdn.HasPrintedTypes)
    (hb : ∀ rdn ∈ b.rdns, rdn.HasPrintedTypes) : (a == b) = true ↔ a.rdnTexts = b.rdnTexts := by
  have hsealed : ∀ {name : DistinguishedName}, (∀ rdn ∈ name.rdns, rdn.HasPrintedTypes) →
      ∀ text ∈ name.rdnTexts.reverse.map String.toList, Sealed ',' text := by
    intro name hname text htext
    obtain ⟨s, hs, rfl⟩ := List.mem_map.mp htext
    obtain ⟨rdn, hrdn, rfl⟩ := List.mem_map.mp (List.mem_reverse.mp hs)
    exact Rdn.sealed_canonical (hname rdn hrdn)
  refine ⟨fun h => ?_, beq_of_rdnTexts⟩
  obtain ⟨hlength, htext⟩ := beq_iff.mp h
  rw [← String.toList_inj, toList_canonical, toList_canonical] at htext
  by_cases hnil : a.rdnTexts = []
  · rw [hnil] at hlength
    rw [hnil, List.length_eq_zero_iff.mp hlength.symm]
  · -- the joined texts come apart only where there are texts on both sides
    have hnil' : b.rdnTexts ≠ [] := by
      intro hb
      rw [hb] at hlength
      exact hnil (List.length_eq_zero_iff.mp hlength)
    have hparts := intercalate_inj (by decide) (hsealed ha) (hsealed hb) (by simpa using hnil)
      (by simpa using hnil') htext
    exact List.reverse_injective
      (List.map_injective_iff.mpr (fun _ _ => String.toList_inj.mp) hparts)

theorem rdnTexts_eq_iff {a b : DistinguishedName} (ha : ∀ rdn ∈ a.rdns, rdn.HasPrintedTypes)
    (hb : ∀ rdn ∈ b.rdns, rdn.HasPrintedTypes) :
    a.rdnTexts = b.rdnTexts ↔ List.Forall₂ Rdn.Same a.rdns b.rdns := by
  obtain ⟨xs⟩ := a
  obtain ⟨ys⟩ := b
  dsimp only [rdnTexts] at ha hb ⊢
  induction xs generalizing ys with
  | nil => cases ys <;> simp
  | cons x xs ih =>
      cases ys with
      | nil => simp
      | cons y ys =>
          obtain ⟨hx, hxs⟩ := List.forall_mem_cons.mp ha
          obtain ⟨hy, hys⟩ := List.forall_mem_cons.mp hb
          rw [List.map_cons, List.map_cons, List.cons.injEq, List.forall₂_cons,
            Rdn.canonical_eq_iff hx hy, ih hxs ys hys]

/-- A name lies under a base whose relative names are the first of its own. -/
theorem isWithin_iff {name base : DistinguishedName} :
    name.isWithin base = true ↔ base.rdnTexts <+: name.rdnTexts := by
  obtain ⟨xs⟩ := name
  obtain ⟨ys⟩ := base
  dsimp only [isWithin, rdnTexts]
  induction ys generalizing xs with
  | nil => simp
  | cons y ys ih =>
      cases xs with
      | nil => simp
      | cons x xs =>
          have ih := ih xs
          simp only [Bool.and_eq_true, decide_eq_true_eq] at ih
          simp [List.cons_prefix_cons, ← ih]
          tauto

/-- Equality of names that were read is equality of their parts, relative name by relative name;
it is also the subtree relation in both directions, and that relation is transitive. -/
theorem beq_exact {a b : DistinguishedName} (ha : a.IsRead) (hb : b.IsRead) :
    ((a == b) = true ↔ List.Forall₂ Rdn.Same a.rdns b.rdns) ∧
      ((a == b) = true ↔ a.isWithin b = true ∧ b.isWithin a = true) ∧
      ∀ x y z : DistinguishedName, x.isWithin y = true → y.isWithin z = true →
        x.isWithin z = true := by
  have hbeq := beq_iff_rdnTexts ha.hasPrintedTypes hb.hasPrintedTypes
  refine ⟨hbeq.trans (rdnTexts_eq_iff ha.hasPrintedTypes hb.hasPrintedTypes), ?_, ?_⟩
  · rw [hbeq, isWithin_iff, isWithin_iff]
    constructor
    · intro h
      rw [h]
      exact ⟨List.prefix_refl _, List.prefix_refl _⟩
    · rintro ⟨hba, hab⟩
      exact hab.eq_of_length (Nat.le_antisymm hab.length_le hba.length_le)
  · intro x y z hxy hyz
    exact isWithin_iff.mpr ((isWithin_iff.mp hyz).trans (isWithin_iff.mp hxy))

/-- The encoding of a name with two attributes in its second relative name. -/
def sampleEncoding : Octets :=
  Octets.ofNat 40 0x3026310b300906035504061302555331173008060355040a0c0158300b06035504030c0461202042

theorem sample_same : List.Forall₂ Rdn.Same
    [⟨[⟨"2.5.4.6", .text "us"⟩]⟩, ⟨[⟨"2.5.4.3", .text "A b"⟩, ⟨"2.5.4.10", .text "x"⟩]⟩]
    [⟨[⟨"2.5.4.6", .text "US"⟩]⟩, ⟨[⟨"2.5.4.10", .text "X"⟩, ⟨"2.5.4.3", .text "a  B"⟩]⟩] := by
  have hcountry : Attribute.Same ⟨"2.5.4.6", .text "us"⟩ ⟨"2.5.4.6", .text "US"⟩ := by
    decide +kernel
  have hname : Attribute.Same ⟨"2.5.4.3", .text "A b"⟩ ⟨"2.5.4.3", .text "a  B"⟩ := by
    decide +kernel
  have horganization : Attribute.Same ⟨"2.5.4.10", .text "x"⟩ ⟨"2.5.4.10", .text "X"⟩ := by
    decide +kernel
  refine .cons (.cons hcountry .zero) (.cons ?_ .nil)
  rw [Rdn.Same, Multiset.coe_eq_coe.mpr (List.Perm.swap _ _ [])]
  exact .cons horganization (.cons hname .zero)

theorem sample_apart : ¬ List.Forall₂ Rdn.Same
    [⟨[⟨"2.5.4.3", .text "A b"⟩]⟩] [⟨[⟨"2.5.4.3", .text "Ab"⟩]⟩] := by
  intro h
  have hother : ¬ Attribute.Same ⟨"2.5.4.3", .text "A b"⟩ ⟨"2.5.4.3", .text "Ab"⟩ := by
    decide +kernel
  obtain ⟨attr, hattr, hvalue⟩ := Multiset.exists_mem_of_rel_of_mem (List.forall₂_cons.mp h).1
    (Multiset.mem_singleton_self _)
  exact hother (List.mem_singleton.mp hattr ▸ hvalue)

/-- That name is the one that a text spells with other letters, blanks and order. A blank more or
less between words is no difference, but one word or two is. -/
theorem sample_beq :
    (∃ a b rest, parse "CN= A b + O=x,C=us" = .ok a ∧ read sampleEncoding = .ok (b, rest) ∧
      (a == b) = true ∧ a.isWithin b = true ∧ b.isWithin a = true) ∧
    ∃ a b, parse "CN=A b" = .ok a ∧ parse "CN=Ab" = .ok b ∧ (a == b) = false := by
  constructor
  · have hparsed : succeeds (parse "CN= A b + O=x,C=us") (fun a => decide (a.rdns =
        [⟨[⟨"2.5.4.6", .text "us"⟩]⟩, ⟨[⟨"2.5.4.3", .text "A b"⟩, ⟨"2.5.4.10", .text "x"⟩]⟩])) =
          true := by decide +kernel
    have hdecoded : succeeds (read sampleEncoding) (fun result => decide (result.1.rdns =
        [⟨[⟨"2.5.4.6", .text "US"⟩]⟩, ⟨[⟨"2.5.4.10", .text "X"⟩, ⟨"2.5.4.3", .text "a  B"⟩]⟩])) =
          true := by decide +kernel
    simp only [succeeds_iff, decide_eq_true_eq] at hparsed hdecoded
    obtain ⟨a, ha, hrdns⟩ := hparsed
    obtain ⟨⟨b, rest⟩, hb, hrdns'⟩ := hdecoded
    obtain ⟨hstructural, hwithin, -⟩ := beq_exact (.parsed ha) (.decoded hb)
    have heq := hstructural.mpr (hrdns ▸ hrdns' ▸ sample_same)
    exact ⟨a, b, rest, ha, hb, heq, hwithin.mp heq⟩
  · have htwo : succeeds (parse "CN=A b") (fun a => decide (a.rdns =
        [⟨[⟨"2.5.4.3", .text "A b"⟩]⟩])) = true := by decide +kernel
    have hone : succeeds (parse "CN=Ab") (fun b => decide (b.rdns =
        [⟨[⟨"2.5.4.3", .text "Ab"⟩]⟩])) = true := by decide +kernel
    simp only [succeeds_iff, decide_eq_true_eq] at htwo hone
    obtain ⟨a, ha, hrdns⟩ := htwo
    obtain ⟨b, hb, hrdns'⟩ := hone
    refine ⟨a, b, ha, hb, Bool.eq_false_iff.mpr fun heq => sample_apart ?_⟩
    exact hrdns ▸ hrdns' ▸ (beq_exact (.parsed ha) (.parsed hb)).1.mp heq

end DistinguishedName

end TrustPath
