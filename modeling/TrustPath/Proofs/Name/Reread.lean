import TrustPath.Proofs.Name.Recognition

/-!
# Octets that are written and read

The string forms write octets that are not a text as they are, in
hexadecimal after a `#`. The reader takes what follows a `#` for the
encoding of a value, with an identifier and a length of its own. So what is
read back of a written name is not the name but what its octets say when
they are taken for encodings (`DistinguishedName.reread`), and where they
are no encodings, nothing is read at all.
-/

namespace TrustPath

open NameParser

/-! ## Values and attributes -/

/-- What is read where the value is written: a text is itself, and octets are taken for the
encoding of a value. -/
def AttributeValue.reread : AttributeValue → Except NameFault AttributeValue
  | .text s => .ok (.text s)
  | .binary octets => valueOfTlv octets

def Attribute.reread (attr : Attribute) : Except NameFault Attribute :=
  attr.value.reread.map (⟨attr.oid, ·⟩)

theorem AttributeValue.readValue_format (value : AttributeValue) {after rest : List Char}
    (hafter : Blanks after) (hend : AtEnd rest) :
    (readValue (skipBlanks (value.format.toList ++ (after ++ rest)))).map
        (fun read => (read.1, skipBlanks read.2)) = value.reread.map (·, rest) := by
  cases value with
  | text s =>
      have hread := readValue_escapeFrom hafter hend s.toList
      rw [String.ofList_toList] at hread
      rw [toList_format_text, hread]
      simp [Except.map, reread, hend.skipBlanks]
  | binary octets =>
      have hdigits : Octets.SpelledBy octets (Octets.toHexChars octets) :=
        Octets.ofHexChars?_eq_some_iff.mp (Octets.ofHexChars?_toHexChars octets)
      rw [toList_format_binary, List.cons_append, skipBlanks_of_head (by simp),
        readValue_digits hdigits.isHexDigit (AtEnd.noDigitFirst hafter hend), valueOfHex,
        Octets.ofHexChars?_toHexChars]
      dsimp only [reread]
      cases valueOfTlv octets <;> simp [Except.map, skipBlanks_append hafter, hend.skipBlanks]

theorem Attribute.readAttribute_format {style : NameStyle} {attr : Attribute}
    (htype : IsDottedOid attr.oid) (hlead : style.typeLead = "" ∨ style.typeLead = "OID.")
    {before after rest : List Char} (hbefore : Blanks before) (hafter : Blanks after)
    (hend : AtEnd rest) :
    readAttribute (before ++ (attr.format style).toList ++ (after ++ rest)) =
      attr.reread.map (·, rest) := by
  have hform : before ++ (attr.format style).toList ++ (after ++ rest) =
      before ++ ((style.typeName attr.oid).toList ++
        '=' :: (attr.value.format.toList ++ (after ++ rest))) := by
    simp [toList_format]
  have hvalue := congrArg (Except.map fun read : AttributeValue × List Char =>
    (Attribute.mk attr.oid read.1, read.2)) (attr.value.readValue_format hafter hend)
  rw [map_map_outcome, map_map_outcome] at hvalue
  rw [hform, (spells_typeName htype hlead).readAttribute hbefore, reread, map_map_outcome]
  exact hvalue

/-! ## Relative names -/

def Rdn.reread (rdn : Rdn) : Except NameFault Rdn :=
  (rdn.attributes.mapM Attribute.reread).map Rdn.mk

namespace NameParser

/-- What follows a relative name: nothing, or a comma and more than blanks. -/
inductive Follows : List Char → Prop
  | done : Follows []
  | comma {rest : List Char} (hrest : (skipBlanks rest).isEmpty = false) : Follows (',' :: rest)

/-- The relative names that are read from what follows one. -/
def readFollowing : List Char → Except NameFault (List Rdn)
  | [] => .ok []
  | _ :: rest => readRdns [] rest

theorem Follows.atEnd {tail : List Char} (h : Follows tail) : AtEnd tail := by
  cases h <;> simp [AtEnd, isSeparator]

theorem readRdns_of_error {read : List Attribute} {cs : List Char} {fault : NameFault}
    (h : readAttribute cs = .error fault) : readRdns read cs = .error fault := by
  rw [readRdns]
  split
  · next hfault => exact congrArg Except.error (Except.error.inj (hfault.symm.trans h))
  · next hattr => cases hattr.symm.trans h

theorem readRdns_last {read : List Attribute} {cs tail : List Char} {attr : Attribute}
    (hattr : readAttribute cs = .ok (attr, tail)) (htail : Follows tail) :
    readRdns read cs = (readFollowing tail).map (⟨read ++ [attr]⟩ :: ·) := by
  rw [readRdns_of_readAttribute hattr]
  cases htail with
  | done => rfl
  | comma hrest =>
      dsimp only
      rw [if_neg (by decide), if_pos (.inl rfl), hrest, if_neg Bool.false_ne_true, readFollowing]
      split
      · next hfault => rw [hfault]; rfl
      · next hrdns => rw [hrdns]; rfl

theorem readRdns_joined {read : List Attribute} {cs rest : List Char} {attr : Attribute}
    (hattr : readAttribute cs = .ok (attr, '+' :: rest)) :
    readRdns read cs = readRdns (read ++ [attr]) rest := by
  rw [readRdns_of_readAttribute hattr]
  dsimp only
  rw [if_pos rfl]

end NameParser

/-- A written relative name is more than blanks: there is an equals sign in it. -/
theorem Rdn.isEmpty_skipBlanks_format (style : NameStyle) {rdn : Rdn} (hne : rdn.attributes ≠ [])
    (before after : List Char) :
    (skipBlanks (before ++ ((rdn.format style).toList ++ after))).isEmpty = false := by
  refine Bool.eq_false_iff.mpr fun hempty => ?_
  have hblank := isEmpty_skipBlanks_iff.mp hempty '=' (by simp [equals_mem_format style hne])
  exact absurd hblank (by decide)

section Style

variable {style : NameStyle} (hlead : style.typeLead = "" ∨ style.typeLead = "OID.")

include hlead

/-- The attributes of a relative name are read one after another, and the first of them that is
not read ends the whole. -/
theorem readRdns_attributes {joiner : List Char} (hjoiner : Padded '+' joiner)
    {attrs : List Attribute} (hne : attrs ≠ []) (htypes : ∀ attr ∈ attrs, IsDottedOid attr.oid)
    {before tail : List Char} (hbefore : Blanks before) (htail : Follows tail)
    (read : List Attribute) :
    readRdns read
        (before ++ joiner.intercalate (attrs.map fun attr => (attr.format style).toList) ++ tail) =
      attrs.mapM Attribute.reread >>= fun more =>
        (readFollowing tail).map (⟨read ++ more⟩ :: ·) := by
  obtain ⟨after, between, rfl, hafter, hbetween⟩ := hjoiner
  induction attrs generalizing before read with
  | nil => exact absurd rfl hne
  | cons attr attrs ih =>
      obtain ⟨htype, htypes⟩ := List.forall_mem_cons.mp htypes
      rw [List.mapM_cons, bind_assoc]
      cases attrs with
      | nil =>
          have hattr := Attribute.readAttribute_format htype hlead hbefore blanks_nil htail.atEnd
          rw [List.nil_append] at hattr
          rw [List.map_singleton, List.intercalate_singleton]
          cases hvalue : attr.reread with
          | error fault =>
              rw [hvalue] at hattr
              exact readRdns_of_error hattr
          | ok value =>
              rw [hvalue] at hattr
              exact readRdns_last hattr htail
      | cons next attrs =>
          have hplus : ∀ rest, AtEnd ('+' :: rest) := by simp [AtEnd, isSeparator]
          have hattr := fun rest =>
            Attribute.readAttribute_format htype hlead hbefore hafter (hplus rest)
          have htext : ∀ rest, before ++ (after ++ '+' :: between).intercalate
              ((attr :: next :: attrs).map fun attr => (attr.format style).toList) ++ rest =
              before ++ (attr.format style).toList ++ (after ++ '+' :: (between ++
                (after ++ '+' :: between).intercalate
                  ((next :: attrs).map fun attr => (attr.format style).toList) ++ rest)) := by
            intro rest
            rw [List.map_cons, List.map_cons, List.intercalate_cons_cons]
            simp
          rw [htext]
          cases hvalue : attr.reread with
          | error fault =>
              simp only [hvalue] at hattr
              exact readRdns_of_error (hattr _)
          | ok value =>
              simp only [hvalue] at hattr
              rw [readRdns_joined (hattr _), ih (List.cons_ne_nil _ _) htypes hbetween]
              cases List.mapM Attribute.reread (next :: attrs) with
              | error fault => rfl
              | ok more =>
                  show (readFollowing tail).map ((⟨read ++ [value] ++ more⟩ : Rdn) :: ·) = _
                  rw [List.append_assoc]
                  rfl

theorem Rdn.readRdns_format {rdn : Rdn} (hne : rdn.attributes ≠ [])
    (htypes : ∀ attr ∈ rdn.attributes, IsDottedOid attr.oid) {before tail : List Char}
    (hbefore : Blanks before) (htail : Follows tail) :
    readRdns [] (before ++ (rdn.format style).toList ++ tail) =
      rdn.reread >>= fun more => (readFollowing tail).map (more :: ·) := by
  have hjoiner : Padded '+' ([' '] ++ '+' :: [' ']) := ⟨[' '], [' '], rfl, blanks_one, blanks_one⟩
  have hread := readRdns_attributes hlead hjoiner hne htypes hbefore htail []
  rw [toList_format]
  refine hread.trans ?_
  rw [reread]
  cases rdn.attributes.mapM Attribute.reread <;> rfl

end Style

/-! ## Names -/

/-- A relative name with attributes, all of which have a dotted type. -/
def Rdn.HasDottedTypes (rdn : Rdn) : Prop :=
  rdn.attributes ≠ [] ∧ ∀ attr ∈ rdn.attributes, IsDottedOid attr.oid

theorem isEmpty_skipBlanks_rdns (style : NameStyle) {rdns : List Rdn} (hne : rdns ≠ [])
    (hrdns : ∀ rdn ∈ rdns, rdn.HasDottedTypes) (before joiner : List Char) :
    (skipBlanks (before ++
      joiner.intercalate ((rdns.map (Rdn.format style)).map String.toList))).isEmpty = false := by
  cases rdns with
  | nil => exact absurd rfl hne
  | cons rdn rdns =>
      obtain ⟨⟨hattrs, -⟩, -⟩ := List.forall_mem_cons.mp hrdns
      cases rdns with
      | nil =>
          have hfirst := Rdn.isEmpty_skipBlanks_format style hattrs before []
          simpa using hfirst
      | cons next rdns =>
          simp only [List.map_cons, List.intercalate_cons_cons, List.append_assoc]
          exact Rdn.isEmpty_skipBlanks_format style hattrs before _

namespace DistinguishedName

/-- What is read where the name is written, relative name by relative name. -/
def reread (name : DistinguishedName) : Except NameFault DistinguishedName :=
  (name.rdns.reverse.mapM Rdn.reread).map (⟨·.reverse⟩)

section Style

variable {style : NameStyle} (hlead : style.typeLead = "" ∨ style.typeLead = "OID.")
  {after : List Char} (hseparator : style.separator.toList = ',' :: after) (hafter : Blanks after)

include hlead hseparator hafter

/-- Relative names are read one after another, and the first of them that is not read ends the
whole. -/
theorem readRdns_formatWith {rdns : List Rdn} (hne : rdns ≠ [])
    (hrdns : ∀ rdn ∈ rdns, rdn.HasDottedTypes) {before : List Char} (hbefore : Blanks before) :
    readRdns [] (before ++
        style.separator.toList.intercalate ((rdns.map (Rdn.format style)).map String.toList)) =
      rdns.mapM Rdn.reread := by
  rw [hseparator]
  induction rdns generalizing before with
  | nil => exact absurd rfl hne
  | cons rdn rdns ih =>
      obtain ⟨⟨hattrs, htypes⟩, hmore⟩ := List.forall_mem_cons.mp hrdns
      rw [List.mapM_cons]
      cases rdns with
      | nil =>
          have hread := Rdn.readRdns_format hlead hattrs htypes hbefore .done
          rw [List.append_nil] at hread
          rw [List.map_singleton, List.map_singleton, List.intercalate_singleton, hread]
          rfl
      | cons next rdns =>
          have hnext := List.cons_ne_nil next rdns
          have htext : (',' :: after).intercalate
              (((rdn :: next :: rdns).map (Rdn.format style)).map String.toList) =
              (rdn.format style).toList ++ ',' :: (after ++ (',' :: after).intercalate
                (((next :: rdns).map (Rdn.format style)).map String.toList)) := by
            simp [List.intercalate_cons_cons]
          have hread := Rdn.readRdns_format hlead hattrs htypes hbefore
            (.comma (isEmpty_skipBlanks_rdns style hnext hmore after (',' :: after)))
          rw [htext, ← List.append_assoc, hread, readFollowing, ih hnext hmore hafter]
          cases rdn.reread with
          | error fault => rfl
          | ok value => cases (next :: rdns).mapM Rdn.reread <;> rfl

theorem readName_formatWith {name : DistinguishedName}
    (hname : ∀ rdn ∈ name.rdns, rdn.HasDottedTypes) :
    readName (name.formatWith style).toList = name.reread := by
  have hrdns : ∀ rdn ∈ name.rdns.reverse, rdn.HasDottedTypes := fun rdn hrdn =>
    hname rdn (List.mem_reverse.mp hrdn)
  rw [formatWith, String.toList_intercalate, reread]
  by_cases hne : name.rdns.reverse = []
  · rw [hne]
    rfl
  · have hread := readRdns_formatWith hlead hseparator hafter hne hrdns blanks_nil
    have hsome := isEmpty_skipBlanks_rdns style hne hrdns [] style.separator.toList
    rw [List.nil_append] at hread hsome
    rw [readName, hsome, if_neg Bool.false_ne_true, hread]
    cases name.rdns.reverse.mapM Rdn.reread <;> rfl

end Style

/-- **What is read of a written name**, in either form for reading. -/
theorem readName_format {name : DistinguishedName} (hname : ∀ rdn ∈ name.rdns, rdn.HasDottedTypes)
    {form : NameFormat} (hform : form ≠ .canonical) :
    readName (name.format form).toList = name.reread := by
  cases form with
  | rfc2253 =>
      have hseparator : rfc2253Style.separator.toList = [','] := by decide
      exact readName_formatWith (.inl rfl) hseparator blanks_nil hname
  | rfc1779 =>
      have hseparator : rfc1779Style.separator.toList = [',', ' '] := by decide
      exact readName_formatWith (.inr rfl) hseparator blanks_one hname
  | canonical => exact absurd rfl hform

end DistinguishedName

end TrustPath
