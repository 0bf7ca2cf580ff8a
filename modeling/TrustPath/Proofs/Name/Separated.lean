import TrustPath.Name.Printer
import TrustPath.Proofs.Octets

/-!
# Texts that come apart again

A string form joins its parts with separators: commas, plus signs, equals
signs. A part is sealed against a separator when the separator stands in
it only behind a backslash (`Sealed`). What joins sealed parts comes apart
in one way only, so equal joins have equal parts (`intercalate_inj`).

Escaped texts and hexadecimal digits are sealed against every separator of
names, and both determine what they were written from.
-/

namespace TrustPath

/-- The separator stands in a text only where a backslash escapes it. -/
inductive Sealed (separator : Char) : List Char → Prop
  | nil : Sealed separator []
  | plain {c : Char} {cs : List Char} (hsep : c ≠ separator) (hback : c ≠ '\\')
      (rest : Sealed separator cs) : Sealed separator (c :: cs)
  | escaped (c : Char) {cs : List Char} (rest : Sealed separator cs) :
      Sealed separator ('\\' :: c :: cs)

namespace Sealed

variable {separator : Char} {x y u v : List Char}

theorem of_plain (h : ∀ c ∈ x, c ≠ separator ∧ c ≠ '\\') : Sealed separator x := by
  induction x with
  | nil => exact .nil
  | cons c cs ih =>
      obtain ⟨⟨hsep, hback⟩, hcs⟩ := List.forall_mem_cons.mp h
      exact .plain hsep hback (ih hcs)

theorem append (hx : Sealed separator x) (hy : Sealed separator y) : Sealed separator (x ++ y) := by
  induction hx with
  | nil => exact hy
  | plain hsep hback _ ih => exact .plain hsep hback ih
  | escaped c _ ih => exact .escaped c ih

/-- Sealed texts with parts joined by another separator are sealed as a whole. -/
theorem intercalate {joiner : List Char} (hjoiner : Sealed separator joiner)
    {parts : List (List Char)} (h : ∀ part ∈ parts, Sealed separator part) :
    Sealed separator (joiner.intercalate parts) := by
  induction parts with
  | nil => exact .nil
  | cons part parts ih =>
      obtain ⟨hpart, hparts⟩ := List.forall_mem_cons.mp h
      cases parts with
      | nil => simpa using hpart
      | cons next more =>
          rw [List.intercalate_cons_cons]
          exact (hpart.append hjoiner).append (ih hparts)

/-- Two texts that begin with sealed ones and go on with a separator, if at all, are equal only
when they agree up to the separator and from there on. -/
theorem append_inj (hback : separator ≠ '\\') (hx : Sealed separator x) (hy : Sealed separator y)
    (hu : ∀ c ∈ u.head?, c = separator) (hv : ∀ c ∈ v.head?, c = separator)
    (h : x ++ u = y ++ v) : x = y ∧ u = v := by
  -- a text that ends first is followed by the separator, which the other cannot have there
  induction hx generalizing y with
  | nil =>
      cases hy with
      | nil => exact ⟨rfl, h⟩
      | plain hsep _ _ => exact absurd (hu _ (by simp [show u = _ from h])) hsep
      | escaped c _ => exact absurd (hu '\\' (by simp [show u = _ from h])).symm hback
  | plain hsep hplain _ ih =>
      cases hy with
      | nil => exact absurd (hv _ (by simp [← show _ = v from h])) hsep
      | plain _ _ hy =>
          obtain ⟨rfl, htail⟩ := List.cons.inj h
          obtain ⟨rfl, rfl⟩ := ih hy htail
          exact ⟨rfl, rfl⟩
      | escaped d _ => exact absurd (List.cons.inj h).1 hplain
  | escaped c _ ih =>
      cases hy with
      | nil => exact absurd (hv '\\' (by simp [← show _ = v from h])).symm hback
      | plain _ hplain _ => exact absurd (List.cons.inj h).1.symm hplain
      | escaped d hy =>
          obtain ⟨rfl, htail⟩ := List.cons.inj (List.cons.inj h).2
          obtain ⟨rfl, rfl⟩ := ih hy htail
          exact ⟨rfl, rfl⟩

end Sealed

/-! ## Joins -/

variable {separator : Char} {xs ys : List (List Char)}

/-- Parts with a separator before each of them. -/
theorem cons_intercalate (hne : xs ≠ []) :
    separator :: [separator].intercalate xs = xs.flatMap (separator :: ·) := by
  induction xs with
  | nil => exact absurd rfl hne
  | cons x xs ih =>
      cases xs with
      | nil => simp
      | cons next more =>
          rw [List.intercalate_cons_cons, List.flatMap_cons, ← ih (List.cons_ne_nil _ _)]
          simp

theorem flatMap_cons_inj (hback : separator ≠ '\\') (hxs : ∀ x ∈ xs, Sealed separator x)
    (hys : ∀ y ∈ ys, Sealed separator y)
    (h : xs.flatMap (separator :: ·) = ys.flatMap (separator :: ·)) : xs = ys := by
  have hhead : ∀ zs : List (List Char), ∀ c ∈ (zs.flatMap (separator :: ·)).head?, c = separator := by
    intro zs
    cases zs <;> simp
  induction xs generalizing ys with
  | nil => cases ys <;> simp_all
  | cons x xs ih =>
      obtain ⟨hx, hxs⟩ := List.forall_mem_cons.mp hxs
      cases ys with
      | nil => simp at h
      | cons y ys =>
          obtain ⟨hy, hmore⟩ := List.forall_mem_cons.mp hys
          simp only [List.flatMap_cons, List.cons_append, List.cons.injEq, true_and] at h
          obtain ⟨rfl, htail⟩ := hx.append_inj hback hy (hhead xs) (hhead ys) h
          rw [ih hxs hmore htail]

/-- Equal joins of sealed parts have equal parts, if there are any on both sides. -/
theorem intercalate_inj (hback : separator ≠ '\\') (hxs : ∀ x ∈ xs, Sealed separator x)
    (hys : ∀ y ∈ ys, Sealed separator y) (hnx : xs ≠ []) (hny : ys ≠ [])
    (h : [separator].intercalate xs = [separator].intercalate ys) : xs = ys := by
  refine flatMap_cons_inj hback hxs hys ?_
  rw [← cons_intercalate hnx, ← cons_intercalate hny, h]

/-- With sealed texts on both sides of the separator, the joiner puts them around every part. -/
theorem intercalate_padded {before after : List Char} (hne : xs ≠ []) :
    before ++ (after ++ separator :: before).intercalate xs ++ after =
      [separator].intercalate (xs.map fun x => before ++ x ++ after) := by
  induction xs with
  | nil => exact absurd rfl hne
  | cons x xs ih =>
      cases xs with
      | nil => simp
      | cons next more =>
          have hmore := ih (List.cons_ne_nil _ _)
          rw [List.map_cons] at hmore
          rw [List.map_cons, List.map_cons, List.intercalate_cons_cons, List.intercalate_cons_cons,
            ← hmore]
          simp

theorem intercalate_padded_inj {before after : List Char} (hback : separator ≠ '\\')
    (hbefore : Sealed separator before) (hafter : Sealed separator after)
    (hxs : ∀ x ∈ xs, Sealed separator x) (hys : ∀ y ∈ ys, Sealed separator y) (hnx : xs ≠ [])
    (hny : ys ≠ []) (h : (after ++ separator :: before).intercalate xs =
      (after ++ separator :: before).intercalate ys) : xs = ys := by
  have hsealed : ∀ zs : List (List Char), (∀ z ∈ zs, Sealed separator z) →
      ∀ part ∈ zs.map fun z => before ++ z ++ after, Sealed separator part := by
    intro zs hzs part hpart
    obtain ⟨z, hz, rfl⟩ := List.mem_map.mp hpart
    exact (hbefore.append (hzs z hz)).append hafter
  have hparts := intercalate_inj hback (hsealed xs hxs) (hsealed ys hys) (by simpa using hnx)
    (by simpa using hny) (by rw [← intercalate_padded hnx, ← intercalate_padded hny, h])
  exact (List.map_inj_right fun _ _ heq =>
    List.append_cancel_left (List.append_cancel_right heq)).mp hparts

/-! ## Assertions -/

/-- A type without separators and backslashes, an equals sign, and a sealed value. -/
theorem sealed_assertion {type value : List Char} (hseparator : separator = ',' ∨ separator = '+')
    (htype : ∀ c ∈ type, c ∉ [',', '+', '=', '\\']) (hvalue : Sealed separator value) :
    Sealed separator (type ++ '=' :: value) := by
  have hequals : '=' ≠ separator := by
    rcases hseparator with rfl | rfl <;> decide
  refine (Sealed.of_plain fun c hc => ?_).append (.plain hequals (by decide) hvalue)
  have hplain := htype c hc
  rcases hseparator with rfl | rfl <;> grind

/-- An assertion comes apart at its first equals sign. -/
theorem assertion_inj {type type' value value' : List Char}
    (htype : ∀ c ∈ type, c ∉ [',', '+', '=', '\\'])
    (htype' : ∀ c ∈ type', c ∉ [',', '+', '=', '\\'])
    (h : type ++ '=' :: value = type' ++ '=' :: value') : type = type' ∧ value = value' := by
  have hsealed : ∀ {cs : List Char}, (∀ c ∈ cs, c ∉ [',', '+', '=', '\\']) → Sealed '=' cs := by
    refine fun hcs => .of_plain fun c hc => ?_
    have hplain := hcs c hc
    grind
  obtain ⟨hname, hrest⟩ :=
    (hsealed htype).append_inj (by decide) (hsealed htype') (by simp) (by simp) h
  exact ⟨hname, (List.cons.inj hrest).2⟩

/-! ## Escaped texts and octets -/

theorem sealed_escapeFrom (hspecial : isSpecial separator = true) (atStart : Bool)
    (cs : List Char) : Sealed separator (escapeFrom atStart cs) := by
  induction cs generalizing atStart with
  | nil => exact .nil
  | cons c rest ih =>
      rw [escapeFrom]
      split
      · exact .escaped c (ih false)
      · next hplain =>
        have hc : isSpecial c = false := by grind
        have hbackslash : isSpecial '\\' = true := by decide
        refine .plain ?_ ?_ (ih false)
        · rintro rfl
          rw [hspecial] at hc
          cases hc
        · rintro rfl
          rw [hbackslash] at hc
          cases hc

theorem hexValue?_of_escaped {c : Char} (h : isSpecial c = true ∨ c = '#' ∨ c = ' ') :
    Octets.hexValue? c = none := by
  simp only [isSpecial, List.mem_cons, List.not_mem_nil, or_false, decide_eq_true_eq] at h
  rcases h with (rfl | rfl | rfl | rfl | rfl | rfl | rfl) | rfl | rfl <;> decide

/-- A text that is not empty begins, when escaped, with a backslash before its first character,
which is then no hexadecimal digit, or with that character, which then has no meaning there. -/
theorem escapeFrom_cons (atStart : Bool) (c : Char) (rest : List Char) :
    escapeFrom atStart (c :: rest) = '\\' :: c :: escapeFrom false rest ∧
        Octets.hexValue? c = none ∨
      escapeFrom atStart (c :: rest) = c :: escapeFrom false rest ∧ isSpecial c = false ∧
        (atStart = true → c ≠ '#' ∧ c ≠ ' ') ∧ (rest = [] → c ≠ ' ') := by
  rw [escapeFrom]
  split
  · next hescape =>
    refine .inl ⟨rfl, hexValue?_of_escaped ?_⟩
    grind
  · next hplain =>
    refine .inr ⟨rfl, ?_⟩
    grind

theorem escapeFrom_inj {atStart : Bool} {cs ds : List Char}
    (h : escapeFrom atStart cs = escapeFrom atStart ds) : cs = ds := by
  have hbackslash : isSpecial '\\' = true := by decide
  induction cs generalizing atStart ds with
  | nil =>
      cases ds with
      | nil => rfl
      | cons d ds => grind [escapeFrom]
  | cons c cs ih =>
      cases ds with
      | nil => grind [escapeFrom]
      | cons d ds =>
          rcases escapeFrom_cons atStart c cs with ⟨hc, -⟩ | ⟨hc, hplain, -⟩ <;>
            rcases escapeFrom_cons atStart d ds with ⟨hd, -⟩ | ⟨hd, hplain', -⟩ <;>
            rw [hc, hd] at h <;> grind

theorem escapeText_inj {s t : String} (h : escapeText s = escapeText t) : s = t :=
  String.toList_inj.mp (escapeFrom_inj (String.ofList_injective h))

/-- An escaped text begins with none of the characters that have a meaning at the start of a
value. -/
theorem head?_escapeFrom_cons (c : Char) (cs rest : List Char) :
    ∀ first ∈ (escapeFrom true (c :: cs) ++ rest).head?, first ∉ [' ', '#', '"'] := by
  rcases escapeFrom_cons true c cs with ⟨hform, -⟩ | ⟨hform, hplain, hstart, -⟩
  · rw [hform]
    simp
  · have hquote : c ≠ '"' := by
      rintro rfl
      exact absurd hplain (by decide)
    rw [hform]
    simp [hquote, hstart]

/-- No escaped text begins like the written form of octets. -/
theorem head?_escapeFrom (cs : List Char) : (escapeFrom true cs).head? ≠ some '#' := by
  cases cs with
  | nil => simp [escapeFrom]
  | cons c rest =>
      intro hhash
      have hfirst := head?_escapeFrom_cons c rest []
      rw [List.append_nil] at hfirst
      exact absurd (hfirst '#' hhash) (by decide)

theorem sealed_toHexChars (hspecial : isSpecial separator = true) (octets : Octets) :
    Sealed separator (Octets.toHexChars octets) := by
  refine .of_plain fun c hc => ?_
  obtain ⟨n, hn, rfl⟩ := Octets.mem_toHexChars hc
  have hdigit := Octets.hexValue?_hexDigit n hn
  constructor
  · rintro rfl
    rw [hexValue?_of_escaped (.inl hspecial)] at hdigit
    cases hdigit
  · intro hback
    rw [hback, hexValue?_of_escaped (.inl (by decide))] at hdigit
    cases hdigit

theorem sealed_hash (hspecial : isSpecial separator = true) (octets : Octets) :
    Sealed separator ('#' :: Octets.toHexChars octets) := by
  refine .plain ?_ (by decide) (sealed_toHexChars hspecial octets)
  rintro rfl
  exact absurd hspecial (by decide)

/-! ## Written parts of names -/

theorem AttributeValue.toList_format_text (s : String) :
    (text s).format.toList = escapeFrom true s.toList := by
  rw [format, escapeText, String.toList_ofList]

theorem AttributeValue.toList_format_binary (octets : Octets) :
    (binary octets).format.toList = '#' :: Octets.toHexChars octets := by
  simp [format, Octets.toHex]

theorem Attribute.toList_format (style : NameStyle) (attr : Attribute) :
    (attr.format style).toList =
      (style.typeName attr.oid).toList ++ '=' :: attr.value.format.toList := by
  simp [format]

theorem Rdn.toList_format (style : NameStyle) (rdn : Rdn) :
    (rdn.format style).toList = ([' '] ++ '+' :: [' ']).intercalate
      (rdn.attributes.map fun attr => (attr.format style).toList) := by
  rw [format, String.toList_intercalate, List.map_map]
  rfl

theorem Rdn.equals_mem_format (style : NameStyle) {rdn : Rdn} (hne : rdn.attributes ≠ []) :
    '=' ∈ (rdn.format style).toList := by
  obtain ⟨attr, more, hattrs⟩ := List.exists_cons_of_ne_nil hne
  rw [toList_format, hattrs]
  cases more <;> simp [Attribute.toList_format, List.intercalate_cons_cons]

end TrustPath
