import TrustPath.Proofs.NameConstraint.Subtree
import TrustPath.Proofs.Octets
import TrustPath.Proofs.Text.Split

/-!
# Domains label by label

The rule for domain names looks at how two texts end. What it decides is
a matter of their labels, the parts between the dots: a name is in the
subtree of a base if its last labels are those of the base
(`WithinLabels`). A subtree therefore never begins inside a label,
wherever the dots stand, and subtrees nest (`dnsMatches_labelwise`).

Two facts carry this. The labels of a text are the last ones of another,
and not all of them, exactly if the other ends in a dot and the text
(`Text.fields_proper_suffix_iff`). And if the subtree of a base holds a
name, the name ends in the base (`InDomain.suffix`).

For texts in UTF-8 the rule may as well compare octets, with a look at
the one in front of the end (`octetsMatch`): encoded texts end alike
exactly if the texts do.
-/

namespace TrustPath

namespace NameConstraint

/-! ## Domains by the form of the base -/

theorem inDomain_nil (name : List Char) : InDomain name [] := .every rfl

/-- With a dot in front the base is an end of the name. -/
theorem inDomain_dotted {name base : List Char} (hdot : base.head? = some '.') :
    InDomain name base ↔ base <:+ name := by
  constructor
  · rintro (rfl | rfl | hsuffix | ⟨-, hsuffix⟩)
    · cases hdot
    · exact List.suffix_refl _
    · exact (List.suffix_cons '.' _).trans hsuffix
    · exact hsuffix
  · exact .dotted hdot

/-- Without one, it is the name, or a dot stands in front of it there. -/
theorem inDomain_plain {name base : List Char} (hsome : base ≠ []) (hplain : base.head? ≠ some '.') :
    InDomain name base ↔ name = base ∨ '.' :: base <:+ name := by
  constructor
  · rintro (hempty | hsame | hsuffix | ⟨hdot, -⟩)
    · exact absurd hempty hsome
    · exact .inl hsame
    · exact .inr hsuffix
    · exact absurd hdot hplain
  · rintro (hsame | hsuffix)
    · exact .same hsame
    · exact .below hsuffix

/-! ## Labels -/

/-- The labels of a domain: the parts between the dots. -/
def labels (domain : String) : List (List Char) := Text.fields '.' domain.toList

/-- A name is in the subtree of a base, by the labels of the two. The
first label of a base with a dot in front is empty and does not count,
but the name must have one more than the others. -/
inductive WithinLabels (name base : String) : Prop
  | every (hempty : base = "")
  | below (hdot : base.toList.head? = some '.') (hsuffix : (labels base).tail <:+ labels name)
      (hproper : (labels base).tail ≠ labels name)
  | within (hsome : base ≠ "") (hplain : base.toList.head? ≠ some '.')
      (hsuffix : labels base <:+ labels name)

theorem dnsMatches_iff_labels {name base : String} :
    dnsMatches name base = true ↔ WithinLabels name base := by
  rw [dnsMatches_iff]
  by_cases hempty : base = ""
  · subst hempty
    exact iff_of_true (inDomain_nil _) (.every rfl)
  have hsome : base.toList ≠ [] := mt String.toList_eq_nil_iff.mp hempty
  by_cases hdot : base.toList.head? = some '.'
  · obtain ⟨rest, hbase⟩ := List.head?_eq_some_iff.mp hdot
    have hlabels : (labels base).tail = Text.fields '.' rest := by
      rw [labels, hbase, Text.fields, if_pos rfl, List.tail_cons]
    rw [inDomain_dotted hdot, hbase, ← Text.fields_proper_suffix_iff, ← hlabels]
    constructor
    · rintro ⟨hsuffix, hproper⟩
      exact .below hdot hsuffix hproper
    · rintro (rfl | ⟨-, hsuffix, hproper⟩ | ⟨-, hplain, -⟩)
      · exact absurd rfl hempty
      · exact ⟨hsuffix, hproper⟩
      · exact absurd hdot hplain
  · rw [inDomain_plain hsome hdot, ← Text.fields_suffix_iff]
    constructor
    · exact .within hempty hdot
    · rintro (rfl | ⟨hdot', -, -⟩ | ⟨-, -, hsuffix⟩)
      · exact absurd rfl hempty
      · exact absurd hdot' hdot
      · exact hsuffix

/-! ## Subtrees nest -/

theorem InDomain.suffix {name base : List Char} (h : InDomain name base) : base <:+ name := by
  rcases h with rfl | rfl | hsuffix | ⟨-, hsuffix⟩
  · exact List.nil_suffix
  · exact List.suffix_refl _
  · exact (List.suffix_cons '.' _).trans hsuffix
  · exact hsuffix

theorem InDomain.trans {name base above : List Char} (h : InDomain name base)
    (h' : InDomain base above) : InDomain name above := by
  rcases h' with hempty | rfl | hsuffix | ⟨hdot, hsuffix⟩
  · exact .every hempty
  · exact h
  · exact .below (hsuffix.trans h.suffix)
  · exact .dotted hdot (hsuffix.trans h.suffix)

/-! ## The rule on octets -/

/-- The rule for domain names on texts in UTF-8: 46 is the octet of a dot,
and the octet in front of an end is found by the lengths. -/
def octetsMatch (name base : Octets) : Bool :=
  if base.isEmpty then true
  else if base.head? == some 46 then base.isSuffixOf name
  else name == base || (decide (base.length < name.length) && base.isSuffixOf name
    && name[name.length - base.length - 1]? == some 46)

theorem cons_suffix_iff_getElem? {α : Type} {a : α} {part whole : List α} :
    a :: part <:+ whole ↔ part.length < whole.length ∧ part <:+ whole
      ∧ whole[whole.length - part.length - 1]? = some a := by
  constructor
  · rintro ⟨front, rfl⟩
    refine ⟨?_, ⟨front ++ [a], by simp⟩, ?_⟩
    · simp only [List.length_append, List.length_cons]
      omega
    · have hindex : (front ++ a :: part).length - part.length - 1 = front.length := by
        simp only [List.length_append, List.length_cons]
        omega
      rw [hindex, List.getElem?_append_right (Nat.le_refl _), Nat.sub_self]
      rfl
  · rintro ⟨hlt, ⟨front, rfl⟩, hget⟩
    have hindex : (front ++ part).length - part.length - 1 = front.length - 1 := by
      rw [List.length_append]
      omega
    have hpos : 0 < front.length := by
      rw [List.length_append] at hlt
      omega
    -- what stands there is the last element of the front
    rw [hindex, List.getElem?_append_left (by omega), ← List.getLast?_eq_getElem?] at hget
    obtain ⟨before, rfl⟩ := List.getLast?_eq_some_iff.mp hget
    exact ⟨before, by simp⟩

/-- The encoding of a text begins with the octet of a dot exactly if the
text begins with a dot. -/
theorem head?_ofChars_eq_dot {cs : List Char} :
    (Octets.ofChars cs).head? = some 46 ↔ cs.head? = some '.' := by
  cases cs with
  | nil => exact iff_of_false nofun nofun
  | cons c cs =>
      rw [Octets.ofChars_cons, List.head?_append_of_ne_nil _ String.utf8EncodeChar_ne_nil,
        List.head?_cons, Option.some_inj]
      constructor
      · intro hhead
        have hcode := Octets.toNat_eq_of_mem_utf8EncodeChar (List.mem_of_head? hhead) (by decide)
        rw [← Char.ofNat_toNat c, hcode]
        rfl
      · rintro rfl
        rfl

theorem dnsMatches_eq_octetsMatch (name base : String) :
    dnsMatches name base = octetsMatch (Octets.ofText name) (Octets.ofText base) := by
  rw [Bool.eq_iff_iff, dnsMatches_iff, Octets.ofText_eq, Octets.ofText_eq, octetsMatch]
  generalize name.toList = name
  generalize base.toList = base
  by_cases hempty : base = []
  · subst hempty
    exact iff_of_true (inDomain_nil name) rfl
  have hsome : (Octets.ofChars base).isEmpty = false :=
    List.isEmpty_eq_false_iff.mpr (Octets.ofChars_ne_nil hempty)
  rw [hsome, if_neg Bool.false_ne_true]
  by_cases hdot : base.head? = some '.'
  · rw [if_pos (beq_iff_eq.mpr (head?_ofChars_eq_dot.mpr hdot)), inDomain_dotted hdot,
      List.isSuffixOf_iff_suffix, Octets.ofChars_suffix_iff]
  · have hhead : ¬ ((Octets.ofChars base).head? == some 46) = true :=
      fun h => hdot (head?_ofChars_eq_dot.mp (beq_iff_eq.mp h))
    have hbelow : '.' :: base <:+ name ↔ 46 :: Octets.ofChars base <:+ Octets.ofChars name := by
      rw [← Octets.ofChars_suffix_iff, Octets.ofChars_cons]
      rfl
    rw [if_neg hhead, inDomain_plain hempty hdot, hbelow, ← Octets.ofChars_inj,
      cons_suffix_iff_getElem?]
    simp only [Bool.or_eq_true, Bool.and_eq_true, beq_iff_eq, decide_eq_true_iff,
      List.isSuffixOf_iff_suffix, and_assoc]

/-! ## Label by label -/

/-- The rule for domain names goes by labels, and subtrees nest. It is the
same on the encoded texts. -/
theorem dnsMatches_labelwise (name base : String) :
    (dnsMatches name base = true ↔ WithinLabels name base)
    ∧ (∀ above, dnsMatches name base = true → dnsMatches base above = true →
        dnsMatches name above = true)
    ∧ dnsMatches name base = octetsMatch (Octets.ofText name) (Octets.ofText base) := by
  refine ⟨dnsMatches_iff_labels, fun above hname hbase => ?_, dnsMatches_eq_octetsMatch name base⟩
  rw [dnsMatches_iff] at hname hbase ⊢
  exact hname.trans hbase

/-- A host below a host below a domain is below the domain. -/
theorem dnsMatches_labelwise_host :
    dnsMatches "a.host.example.com" "host.example.com" = true
      ∧ dnsMatches "host.example.com" ".example.com" = true
      ∧ dnsMatches "a.host.example.com" ".example.com" = true := by
  have hname : dnsMatches "a.host.example.com" "host.example.com" = true := by decide
  have hbase : dnsMatches "host.example.com" ".example.com" = true := by decide
  exact ⟨hname, hbase, (dnsMatches_labelwise _ _).2.1 _ hname hbase⟩

end NameConstraint

end TrustPath
