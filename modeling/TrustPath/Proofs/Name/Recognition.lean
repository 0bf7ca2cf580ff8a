import TrustPath.Proofs.Name.TypeReading
import TrustPath.Proofs.Name.ValueReading

/-!
# The reader recognizes the grammar

The reader of names and the grammar are the same relation between texts and
names (`DistinguishedName.parse_exact`). What the reader of attributes takes
from the front of a text is an attribute in the sense of the grammar, and
such an attribute is taken whole wherever a separator or the end follows
it. Both directions then go up through attributes joined by plus signs and
relative names joined by commas and semicolons, by induction on the rules
of `ReadsRdns` and of the grammar.
-/

namespace TrustPath

open NameParser

/-! ## Attributes -/

namespace NameParser

theorem exists_blanks (cs : List Char) : ∃ before, cs = before ++ skipBlanks cs ∧ Blanks before :=
  ⟨cs.takeWhile (· = ' '), List.takeWhile_append_dropWhile.symm,
    fun _ hc => by simpa using List.mem_takeWhile_imp hc⟩

theorem head?_skipBlanks (cs : List Char) : ' ' ∉ (skipBlanks cs).head? := by
  intro hblank
  have hfirst := List.head?_dropWhile_not (· = ' ') cs
  rw [show (cs.dropWhile (· = ' ')).head? = some ' ' from hblank] at hfirst
  simp at hfirst

theorem skipBlanks_append_of_head {ds : List Char} (h : ' ' ∉ ds.head?) (cs : List Char) :
    skipBlanks (cs ++ ds) = skipBlanks cs ++ ds := by
  induction cs with
  | nil => exact skipBlanks_of_head h
  | cons c cs ih =>
      by_cases hc : c = ' '
      · subst hc
        exact ih
      · rw [List.cons_append, skipBlanks_of_head (by simpa using hc),
          skipBlanks_of_head (by simpa using hc), List.cons_append]

theorem exists_attributeText_of_readAttribute {cs rest : List Char} {attr : Attribute}
    (h : readAttribute cs = .ok (attr, rest)) :
    ∃ text, cs = text ++ rest ∧ AttributeText text attr := by
  unfold readAttribute at h
  split at h
  · cases h
  · next oid left htype =>
    split at h
    · cases h
    · next value beyond hvalue =>
      obtain ⟨rfl, rfl⟩ := Prod.mk.inj (Except.ok.inj h)
      obtain ⟨type, hcs, htype⟩ := readType_eq_ok_iff.mp htype
      obtain ⟨text, after, hleft, hvalue, hafter⟩ :=
        exists_valueText_of_readValue (head?_skipBlanks left) hvalue
      obtain ⟨before, hcs', hbefore⟩ := exists_blanks cs
      obtain ⟨between, hleft', hbetween⟩ := exists_blanks left
      obtain ⟨more, hbeyond, hmore⟩ := exists_blanks beyond
      rw [hcs] at hcs'
      rw [hleft] at hleft'
      refine ⟨_, ?_,
        .mk hbefore htype hbetween hvalue (List.forall_mem_append.mpr ⟨hafter, hmore⟩)⟩
      rw [hcs', hleft']
      conv_lhs => rw [hbeyond]
      simp

end NameParser

theorem AttributeText.readAttribute {text : List Char} {attr : Attribute}
    (h : AttributeText text attr) {rest : List Char} (hend : AtEnd rest) :
    NameParser.readAttribute (text ++ rest) = .ok (attr, rest) := by
  obtain @⟨before, type, between, value, after, oid, v,
    hbefore, htype, hbetween, hvalue, hafter⟩ := h
  obtain ⟨left, hread, hleft⟩ := hvalue.readValue hafter hend
  have hskip : skipBlanks (before ++ type ++ '=' :: (between ++ value ++ after) ++ rest) =
      skipBlanks type ++ '=' :: (between ++ (value ++ (after ++ rest))) := by
    have hequals : ∀ left, ' ' ∉ ('=' :: left).head? := by simp
    rw [List.append_assoc, List.append_assoc, skipBlanks_append hbefore, List.cons_append,
      skipBlanks_append_of_head (hequals _)]
    simp
  have htypeRead : readType (skipBlanks type ++ '=' :: (between ++ (value ++ (after ++ rest)))) =
      .ok (oid, between ++ (value ++ (after ++ rest))) :=
    readType_eq_ok_iff.mpr ⟨_, rfl, htype.skipBlanks⟩
  rw [NameParser.readAttribute, hskip, htypeRead]
  dsimp only
  rw [skipBlanks_append hbetween, hread]
  dsimp only
  rw [hleft]

example : readAttribute " oid.2.5.4.10 = #0C0141 ,cn=b".toList =
    .ok (⟨"2.5.4.10", .text "A"⟩, ",cn=b".toList) := by
  decide +kernel

/-! ## Relative names -/

namespace RdnText

variable {cs : List Char} {attrs : List Attribute}

/-- Attributes are read one after another, whatever is read after the last of them. -/
theorem readsRdns (h : RdnText cs attrs) {tail : List Char} {more : List Rdn}
    (hlast : ∀ read text attr, AttributeText text attr →
      ReadsRdns read (text ++ tail) (⟨read ++ [attr]⟩ :: more)) (read : List Attribute) :
    ReadsRdns read (cs ++ tail) (⟨read ++ attrs⟩ :: more) := by
  induction h generalizing read with
  | one hattr => exact hlast read _ _ hattr
  | @joined cs rest attr attrs hattr _ ih =>
      have hplus : AtEnd ('+' :: (rest ++ tail)) := by simp [AtEnd, isSeparator]
      have hrest := ih (read ++ [attr])
      rw [List.append_assoc, List.singleton_append] at hrest
      rw [List.append_assoc, List.cons_append]
      exact .joined (hattr.readAttribute hplus) hrest

end RdnText

theorem RdnsText.readsRdns {cs : List Char} {rdns : List Rdn} (h : RdnsText cs rdns) :
    ReadsRdns [] cs rdns := by
  induction h with
  | @last cs attrs hattrs =>
      have hlast : ∀ read text attr, AttributeText text attr →
          ReadsRdns read (text ++ []) [⟨read ++ [attr]⟩] := fun _ _ _ hattr =>
        .last (hattr.readAttribute (by simp [AtEnd]))
      simpa using hattrs.readsRdns hlast []
  | @next cs more attrs rdns separator hattrs hseparator _ ih =>
      have hend : AtEnd (separator :: more) := by
        rcases hseparator with rfl | rfl <;> simp [AtEnd, isSeparator]
      exact hattrs.readsRdns (fun read text attr hattr =>
        .next (hattr.readAttribute hend) hseparator ih) []

/-- An attribute and a plus sign go in front of the first relative name. -/
theorem RdnsText.cons {text rest : List Char} {attr : Attribute} {attrs : List Attribute}
    {more : List Rdn} (hattr : AttributeText text attr) (h : RdnsText rest (⟨attrs⟩ :: more)) :
    RdnsText (text ++ '+' :: rest) (⟨attr :: attrs⟩ :: more) := by
  cases h with
  | last hattrs => exact .last (.joined hattr hattrs)
  | next hattrs hseparator hmore =>
      have hrdns := RdnsText.next (.joined hattr hattrs) hseparator hmore
      rwa [List.append_assoc, List.cons_append] at hrdns

theorem NameParser.ReadsRdns.rdnsText {read : List Attribute} {cs : List Char} {rdns : List Rdn}
    (h : ReadsRdns read cs rdns) :
    ∃ attrs more, rdns = ⟨read ++ attrs⟩ :: more ∧ RdnsText cs (⟨attrs⟩ :: more) := by
  induction h with
  | @last read cs attr hattr =>
      obtain ⟨text, rfl, htext⟩ := exists_attributeText_of_readAttribute hattr
      rw [List.append_nil]
      exact ⟨[attr], [], rfl, .last (.one htext)⟩
  | @joined read cs rest attr rdns hattr _ ih =>
      obtain ⟨text, rfl, htext⟩ := exists_attributeText_of_readAttribute hattr
      obtain ⟨attrs, more, rfl, hrdns⟩ := ih
      exact ⟨attr :: attrs, more, by simp, .cons htext hrdns⟩
  | @next read cs rest attr rdns separator hattr hseparator _ ih =>
      obtain ⟨text, rfl, htext⟩ := exists_attributeText_of_readAttribute hattr
      obtain ⟨attrs, more, rfl, hrdns⟩ := ih
      exact ⟨[attr], _, rfl, .next (.one htext) hseparator hrdns⟩

/-! ## Names -/

namespace NameParser

theorem isEmpty_skipBlanks_iff {cs : List Char} : (skipBlanks cs).isEmpty = true ↔ Blanks cs := by
  rw [List.isEmpty_iff, skipBlanks, List.dropWhile_eq_nil_iff]
  simp [Blanks]

theorem readName_eq_ok_iff {cs : List Char} {name : DistinguishedName} :
    readName cs = .ok name ↔ NameText cs name := by
  constructor
  · intro h
    unfold readName at h
    split at h
    · next hblanks =>
      obtain rfl := Except.ok.inj h
      exact .empty (isEmpty_skipBlanks_iff.mp hblanks)
    · split at h
      · cases h
      · next rdns hread =>
        obtain rfl := Except.ok.inj h
        obtain ⟨attrs, more, rfl, hrdns⟩ := (readRdns_eq_ok_iff.mp hread).rdnsText
        exact .listed hrdns
  · rintro (hblanks | hrdns)
    · rw [readName, if_pos (isEmpty_skipBlanks_iff.mpr hblanks)]
    · have hreads := hrdns.readsRdns
      rw [readName, hreads.skipBlanks, if_neg Bool.false_ne_true, hreads.readRdns_eq]

end NameParser

/-- A text that has a name by the grammar has one only. -/
theorem NameText.unique {cs : List Char} {name other : DistinguishedName} (h : NameText cs name)
    (h' : NameText cs other) : name = other :=
  Except.ok.inj ((readName_eq_ok_iff.mpr h).symm.trans (readName_eq_ok_iff.mpr h'))

namespace DistinguishedName

/-- **Parsing is the grammar.** A name is parsed from a text exactly when the grammar gives the
text that name, and the grammar gives no text two names. -/
theorem parse_exact (s : String) :
    (∀ name, parse s = .ok name ↔ NameText s.toList name) ∧
      ∀ name other, NameText s.toList name → NameText s.toList other → name = other :=
  ⟨fun _ => parse_eq_ok_iff.trans readName_eq_ok_iff, fun _ _ => NameText.unique⟩

end DistinguishedName

end TrustPath
