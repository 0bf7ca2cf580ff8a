import Mathlib.Data.List.TakeWhile
import TrustPath.Proofs.Name.Grammar

/-!
# How types are read

The reader of attribute types takes from the front of a text exactly what
the grammar calls a type, with the equals sign after it
(`readType_eq_ok_iff`). White space around a type is what trimming takes
away, since neither a lead nor the name of a type holds any.
-/

namespace TrustPath

/-! ## White space -/

namespace Text

theorem trimEnd_append {after : List Char} (h : WhiteSpace after) (cs : List Char) :
    trimEnd (cs ++ after) = trimEnd cs := by
  rw [trimEnd, List.reverse_append,
    List.dropWhile_append_of_pos fun c hc => h c (List.mem_reverse.mp hc)]
  rfl

theorem trim_append {before core after : List Char} (hbefore : WhiteSpace before)
    (hafter : WhiteSpace after) (hcore : ∀ c ∈ core, isBlank c = false) :
    trim (before ++ core ++ after) = core := by
  have hstart : trimStart (before ++ core ++ after) = trimStart (core ++ after) := by
    rw [trimStart, List.append_assoc, List.dropWhile_append_of_pos hbefore]
    rfl
  rw [trim, hstart]
  cases core with
  | nil =>
      have hnone : trimStart after = [] := List.dropWhile_eq_nil_iff.mpr hafter
      rw [List.nil_append, hnone]
      rfl
  | cons c core =>
      have hkept : ∀ rest, trimStart (c :: rest) = c :: rest := fun rest =>
        List.dropWhile_cons_of_neg (by simp [hcore c (List.mem_cons_self ..)])
      rw [List.cons_append, hkept, ← List.cons_append, trimEnd_append hafter]
      have htrim := NameParser.trim_eq_self hcore
      rwa [trim, hkept] at htrim

/-- Trimming takes white space from both ends and nothing else. -/
theorem exists_trim (cs : List Char) :
    ∃ before after, cs = before ++ trim cs ++ after ∧ WhiteSpace before ∧ WhiteSpace after := by
  have htaken : ∀ ds : List Char, WhiteSpace (ds.takeWhile isBlank) := fun ds c hc =>
    List.mem_takeWhile_imp hc
  have hend : ∀ ds : List Char, ds = trimEnd ds ++ (ds.reverse.takeWhile isBlank).reverse := by
    intro ds
    rw [trimEnd, ← List.reverse_append, List.takeWhile_append_dropWhile, List.reverse_reverse]
  refine ⟨cs.takeWhile isBlank, ((trimStart cs).reverse.takeWhile isBlank).reverse, ?_,
    htaken cs, fun c hc => htaken _ c (List.mem_reverse.mp hc)⟩
  rw [trim, List.append_assoc, ← hend, trimStart, List.takeWhile_append_dropWhile]

end Text

/-! ## Types -/

namespace TypeName

/-- The capital letters of a keyword come from letters. -/
theorem isLetter {base : List Char} {keyword oid : String} (hentry : (keyword, oid) ∈ keywords)
    (hbase : base.map Char.toUpper = keyword.toList) :
    ∀ c ∈ base, 65 ≤ c.toNat ∧ c.toNat ≤ 122 := by
  have hcapital : ∀ entry ∈ keywords,
      (entry.1.toList.all fun d => decide (65 ≤ d.toNat ∧ d.toNat ≤ 90)) = true :=
    List.all_iff_forall_prop.mp (by decide +kernel)
  intro c hc
  have hupper : c.toUpper ∈ keyword.toList := hbase ▸ List.mem_map_of_mem hc
  have hrange : 65 ≤ c.toUpper.toNat ∧ c.toUpper.toNat ≤ 90 :=
    List.all_iff_forall_prop.mp (hcapital _ hentry) _ hupper
  by_cases hlower : c.val ≥ 'a'.val ∧ c.val ≤ 'z'.val
  · have hlow : 97 ≤ c.toNat := hlower.1
    have hhigh : c.toNat ≤ 122 := hlower.2
    omega
  · have hsame : c.toUpper = c := dif_neg hlower
    rw [hsame] at hrange
    omega

theorem not_blank {base : List Char} {oid : String} (h : TypeName base oid) :
    ∀ c ∈ base, Text.isBlank c = false := by
  have hvisible : ∀ k < 123, 33 ≤ k → Text.isBlank (Char.ofNat k) = false := by decide
  have hchar : ∀ c : Char, 33 ≤ c.toNat ∧ c.toNat ≤ 122 → Text.isBlank c = false := by
    intro c hc
    exact c.ofNat_toNat ▸ hvisible c.toNat (by omega) hc.1
  intro c hc
  refine hchar c ?_
  cases h with
  | keyword hentry hbase =>
      have hletter := isLetter hentry hbase c hc
      omega
  | dotted hoid =>
      rcases hoid.mem_toList hc with rfl | hdigit
      · decide
      · simp only [NameParser.isDigit, Bool.and_eq_true, decide_eq_true_eq] at hdigit
        have hlow : 48 ≤ c.toNat := hdigit.1
        have hhigh : c.toNat ≤ 57 := hdigit.2
        omega

end TypeName

namespace NameParser

theorem withoutLead_of_no_dot {base : List Char} (h : '.' ∉ base) : withoutLead base = base := by
  have hnone : ∀ lead : List Char, '.' ∈ lead → Text.stripStart? lead base = none := by
    intro lead hlead
    refine if_neg fun hprefix => h ?_
    exact (List.isPrefixOf_iff_prefix.mp hprefix).subset hlead
  rw [withoutLead, hnone _ (by decide), hnone _ (by decide)]
  rfl

theorem withoutLead_append {lead base : List Char} (hlead : lead ∈ typeLeads)
    (hbase : withoutLead base = base) : withoutLead (lead ++ base) = base := by
  have hcases : lead = [] ∨ lead = "OID.".toList ∨ lead = "oid.".toList := by
    simpa [typeLeads] using hlead
  rcases hcases with rfl | rfl | rfl
  · exact hbase
  · rw [withoutLead, Text.stripStart?_append]
  · have hnone : Text.stripStart? "OID.".toList ("oid.".toList ++ base) = none := by
      simp [Text.stripStart?]
    rw [withoutLead, hnone, Text.stripStart?_append]
    rfl

theorem exists_lead (type : List Char) :
    ∃ lead ∈ typeLeads, type = lead ++ withoutLead type := by
  have hstripped : ∀ {lead rest : List Char}, Text.stripStart? lead type = some rest →
      type = lead ++ rest := by
    intro lead rest h
    unfold Text.stripStart? at h
    split at h
    · next hprefix =>
      obtain ⟨tail, rfl⟩ := List.isPrefixOf_iff_prefix.mp hprefix
      rw [List.drop_left] at h
      rw [Option.some.inj h]
    · cases h
  unfold withoutLead
  cases hupper : Text.stripStart? "OID.".toList type with
  | some rest => exact ⟨_, by decide, hstripped hupper⟩
  | none =>
      cases hlower : Text.stripStart? "oid.".toList type with
      | some rest => exact ⟨_, by decide, hstripped hlower⟩
      | none => exact ⟨[], by decide, rfl⟩

theorem oidOf?_of_typeName {lead base : List Char} {oid : String} (hlead : lead ∈ typeLeads)
    (h : TypeName base oid) : oidOf? (lead ++ base) = some oid := by
  cases h with
  | @keyword _ keyword _ hentry hbase =>
      have hletters := TypeName.isLetter hentry hbase
      have hdot : '.' ∉ base := fun hmem => absurd (hletters _ hmem) (by decide)
      have hfirst : (base.head?.map isDigit).getD false = false := by
        cases base with
        | nil => rfl
        | cons c base =>
            refine Bool.eq_false_iff.mpr fun hdigit => ?_
            simp only [List.head?_cons, Option.map_some, Option.getD_some, isDigit,
              Bool.and_eq_true, decide_eq_true_eq] at hdigit
            have hhigh : c.toNat ≤ 57 := hdigit.2
            have hletter := hletters c (List.mem_cons_self ..)
            omega
      have hfound : ∀ entry ∈ keywords, keywords.find? (·.1 = entry.1) = some entry := by
        decide +kernel
      rw [oidOf?, withoutLead_append hlead (withoutLead_of_no_dot hdot), hfirst,
        if_neg Bool.false_ne_true, hbase, String.ofList_toList, hfound _ hentry]
      rfl
  | dotted hoid =>
      obtain ⟨c, rest, htext, hdigit⟩ := hoid.exists_digit
      refine oidOf?_of_withoutLead hoid (withoutLead_append hlead ?_)
      rw [htext]
      exact withoutLead_digit hdigit rest

theorem typeName_of_oidOf? {type : List Char} {oid : String} (h : oidOf? type = some oid) :
    TypeName (withoutLead type) oid := by
  unfold oidOf? at h
  dsimp only at h
  split at h
  · split at h
    · next hdotted =>
      obtain rfl := Option.some.inj h
      rw [← String.toList_ofList (l := withoutLead type)] at hdotted
      have hname := TypeName.dotted (isDottedOid_iff.mpr hdotted)
      rwa [String.toList_ofList] at hname
    · cases h
  · obtain ⟨⟨keyword, other⟩, hfind, rfl⟩ := Option.map_eq_some_iff.mp h
    have hkeyword : keyword = String.ofList ((withoutLead type).map Char.toUpper) := by
      simpa using List.find?_some hfind
    refine .keyword (List.mem_of_find?_eq_some hfind) ?_
    rw [hkeyword, String.toList_ofList]

theorem cutType_eq_ok_iff {cs type rest : List Char} :
    cutType cs = .ok (type, rest) ↔
      cs = type ++ '=' :: rest ∧ ∀ c ∈ type, c ∉ ['=', ',', ';', '+', '"', '\\'] := by
  constructor
  · intro h
    induction cs generalizing type with
    | nil => cases h
    | cons c cs ih =>
        unfold cutType at h
        split at h
        · next hequals =>
          obtain ⟨rfl, rfl⟩ := Prod.mk.inj (Except.ok.inj h)
          exact ⟨congrArg (· :: cs) hequals, fun _ hmem => absurd hmem List.not_mem_nil⟩
        · next hequals =>
          split at h
          · cases h
          · next hplain =>
            split at h
            · next more _ hmore =>
              obtain ⟨rfl, rfl⟩ := Prod.mk.inj (Except.ok.inj h)
              obtain ⟨rfl, htype⟩ := ih hmore
              refine ⟨rfl, List.forall_mem_cons.mpr ⟨?_, htype⟩⟩
              rw [List.mem_cons, not_or]
              exact ⟨hequals, hplain⟩
            · cases h
  · rintro ⟨rfl, hplain⟩
    exact cutType_append hplain rest

/-- The grammar of types is what trimming and the table of keywords make of the text. -/
theorem typeText_iff {type : List Char} {oid : String} :
    TypeText type oid ↔
      (∀ c ∈ type, c ∉ ['=', ',', ';', '+', '"', '\\']) ∧ oidOf? (Text.trim type) = some oid := by
  constructor
  · rintro ⟨hplain, before, lead, base, after, rfl, hbefore, hlead, hbase, hafter⟩
    have hleads : ∀ lead ∈ typeLeads, (lead.all fun c => !Text.isBlank c) = true :=
      List.all_iff_forall_prop.mp (by decide)
    have htight : ∀ c ∈ lead ++ base, Text.isBlank c = false :=
      List.forall_mem_append.mpr ⟨by simpa using hleads lead hlead, hbase.not_blank⟩
    rw [Text.trim_append hbefore hafter htight]
    exact ⟨hplain, oidOf?_of_typeName hlead hbase⟩
  · rintro ⟨hplain, hoid⟩
    obtain ⟨before, after, htype, hbefore, hafter⟩ := Text.exists_trim type
    obtain ⟨lead, hlead, htrim⟩ := exists_lead (Text.trim type)
    refine ⟨hplain, before, lead, _, after, ?_, hbefore, hlead, typeName_of_oidOf? hoid, hafter⟩
    rw [← htrim]
    exact htype

/-- The reader of types takes exactly the texts of types. -/
theorem readType_eq_ok_iff {cs rest : List Char} {oid : String} :
    readType cs = .ok (oid, rest) ↔ ∃ type, cs = type ++ '=' :: rest ∧ TypeText type oid := by
  constructor
  · intro h
    unfold readType at h
    split at h
    · cases h
    · next type after hcut =>
      obtain ⟨rfl, hplain⟩ := cutType_eq_ok_iff.mp hcut
      dsimp only at h
      split at h
      · cases h
      · split at h
        · next hoid =>
          obtain ⟨rfl, rfl⟩ := Prod.mk.inj (Except.ok.inj h)
          exact ⟨type, rfl, typeText_iff.mpr ⟨hplain, hoid⟩⟩
        · cases h
  · rintro ⟨type, rfl, htype⟩
    obtain ⟨hplain, hoid⟩ := typeText_iff.mp htype
    have hnone : oidOf? [] = none := by decide
    have hne : (Text.trim type).isEmpty = false := by
      refine Bool.eq_false_iff.mpr fun hempty => ?_
      rw [List.isEmpty_iff.mp hempty, hnone] at hoid
      cases hoid
    rw [readType, cutType_append hplain]
    dsimp only
    rw [hne, if_neg Bool.false_ne_true, hoid]

/-- Blanks are white space, so those before a type do not count. -/
theorem trim_skipBlanks (cs : List Char) : Text.trim (skipBlanks cs) = Text.trim cs := by
  have hstart : Text.trimStart (skipBlanks cs) = Text.trimStart cs := by
    induction cs with
    | nil => rfl
    | cons c cs ih =>
        by_cases hc : c = ' '
        · subst hc
          exact ih
        · rw [skipBlanks_of_head (by simpa using hc)]
  rw [Text.trim, hstart, Text.trim]

end NameParser

theorem TypeText.skipBlanks {type : List Char} {oid : String} (h : TypeText type oid) :
    TypeText (NameParser.skipBlanks type) oid := by
  obtain ⟨hplain, hoid⟩ := NameParser.typeText_iff.mp h
  refine NameParser.typeText_iff.mpr ⟨fun c hc => hplain c ?_, ?_⟩
  · exact (List.dropWhile_suffix _).subset hc
  · rwa [NameParser.trim_skipBlanks]

end TrustPath
