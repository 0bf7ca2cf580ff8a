import Mathlib.Algebra.Ring.Nat
import Mathlib.Data.List.Forall2
import TrustPath.Der.Oid
import TrustPath.Proofs.Text.Split

/-!
# Dotted forms of object identifiers

A text is taken for an object identifier when numbers can be read between
its dots (`isDottedText_iff`). A number has many spellings, with zeros in
front of it or a plus sign, but only one of them is printed; and not all
numbers that are read fit into the octets of an identifier, since the
first octet holds the first two and no number but the last may take more
than nine octets. `printed_iff` says of a text that is taken for an
identifier whether any identifier prints as it.
-/

namespace TrustPath

/-! ## Spellings of numbers -/

/-- Digits spell a number of sixty-four bits, with a plus sign in front of
them or without one. -/
def SpellsArc (cs : List Char) (n : Nat) : Prop :=
  ∃ digits, (cs = digits ∨ cs = '+' :: digits) ∧ digits ≠ [] ∧ (∀ c ∈ digits, c.isDigit = true)
    ∧ Nat.ofDigitChars 10 digits 0 = n ∧ n < 2 ^ 64

theorem isDigit_iff {c : Char} :
    c.isDigit = true ↔ (decide ('0' ≤ c) && decide (c ≤ '9')) = true := by
  simp only [Char.isDigit, Bool.and_eq_true, decide_eq_true_eq]
  exact Iff.rfl

theorem arc?_of_digits {cs digits : List Char}
    (hcs : (if cs.head? = some '+' then cs.drop 1 else cs) = digits) {n : Nat} :
    arc? cs = some n ↔ digits ≠ [] ∧ (∀ c ∈ digits, c.isDigit = true)
      ∧ Nat.ofDigitChars 10 digits 0 = n ∧ n < 2 ^ 64 := by
  have hvalue :
      digits.foldl (fun n c => n * 10 + (c.toNat - 48)) 0 = Nat.ofDigitChars 10 digits 0 := by
    rw [Nat.ofDigitChars]
    refine congrArg (fun f => digits.foldl f 0) (funext fun n => funext fun c => ?_)
    rw [Nat.mul_comm]
    rfl
  have hbad : (digits.isEmpty = true ∨ digits.any (fun c => !(decide ('0' ≤ c) && decide (c ≤ '9')))
      = true) ↔ ¬ (digits ≠ [] ∧ ∀ c ∈ digits, c.isDigit = true) := by
    simp only [List.isEmpty_iff, List.any_eq_true, Bool.not_eq_true', isDigit_iff, not_and_or,
      not_not, not_forall, Bool.not_eq_true, exists_prop]
  unfold arc?
  simp only [hcs, hvalue]
  split
  · next h => exact iff_of_false nofun fun hgood => (hbad.mp h) ⟨hgood.1, hgood.2.1⟩
  · next h =>
    obtain ⟨hne, hdigits⟩ := not_not.mp (mt hbad.mpr h)
    have hpow : Nat.pow 2 64 = 2 ^ 64 := rfl
    rw [hpow]
    split
    · next hlt =>
      rw [Option.some.injEq]
      exact ⟨fun heq => ⟨hne, hdigits, heq, heq ▸ hlt⟩, fun h => h.2.2.1⟩
    · next hge =>
      exact iff_of_false nofun fun hgood => hge (hgood.2.2.1 ▸ hgood.2.2.2)

theorem arc?_eq_some {cs : List Char} {n : Nat} : arc? cs = some n ↔ SpellsArc cs n := by
  rw [arc?_of_digits rfl]
  constructor
  · intro h
    refine ⟨_, ?_, h⟩
    split
    · next hplus =>
      obtain ⟨rest, rfl⟩ := List.head?_eq_some_iff.mp hplus
      exact Or.inr rfl
    · exact Or.inl rfl
  · rintro ⟨digits, rfl | rfl, hne, hdigits, hvalue⟩
    · have hplus : cs.head? ≠ some '+' := by
        intro hplus
        obtain ⟨rest, rfl⟩ := List.head?_eq_some_iff.mp hplus
        exact absurd (hdigits '+' List.mem_cons_self) (by decide)
      rw [if_neg hplus]
      exact ⟨hne, hdigits, hvalue⟩
    · exact ⟨hne, hdigits, hvalue⟩

theorem toList_toString (n : Nat) : (toString n).toList = Nat.toDigits 10 n := String.toList_ofList

/-- Of the spellings of a number the one without a sign and without zeros
in front is printed. -/
theorem spellsArc_toString {n m : Nat} : SpellsArc (toString n).toList m ↔ m = n ∧ n < 2 ^ 64 := by
  have hdigit : ∀ c ∈ Nat.toDigits 10 n, c.isDigit = true := fun c hc =>
    Nat.isDigit_of_mem_toDigits (by decide) (by decide) hc
  have hplus : (Nat.toDigits 10 n).head? ≠ some '+' := by
    intro hplus
    exact absurd (hdigit '+' (List.mem_of_mem_head? hplus)) (by decide)
  rw [toList_toString, ← arc?_eq_some, arc?_of_digits (if_neg hplus),
    Nat.ofDigitChars_toDigits (by decide) (by decide)]
  constructor
  · rintro ⟨-, -, rfl, hlt⟩
    exact ⟨rfl, hlt⟩
  · rintro ⟨rfl, hlt⟩
    exact ⟨Nat.toDigits_ne_nil, hdigit, rfl, hlt⟩

/-! ## Spellings of identifiers -/

/-- A text spells the numbers between its dots. -/
def Spells (s : String) (arcs : List Nat) : Prop :=
  ∃ parts : List (List Char), parts ≠ [] ∧ s.toList = ['.'].intercalate parts
    ∧ List.Forall₂ SpellsArc parts arcs

/-- Numbers with dots between them, as they are printed. -/
def dottedForm (arcs : List Nat) : String := ".".intercalate (arcs.map fun n => toString n)

theorem mapM_eq_some {α β : Type} {f : α → Option β} {as : List α} {bs : List β} :
    as.mapM f = some bs ↔ List.Forall₂ (fun a b => f a = some b) as bs := by
  induction as generalizing bs with
  | nil => rw [List.mapM_nil, List.forall₂_nil_left_iff, eq_comm]; exact Option.some_inj
  | cons a as ih =>
      simp only [List.mapM_cons, List.forall₂_cons_left_iff, Option.bind_eq_bind,
        Option.bind_eq_some_iff, Option.pure_def, Option.some.injEq, ih]
      constructor
      · rintro ⟨b, hb, bs, hbs, rfl⟩
        exact ⟨b, bs, hb, hbs, rfl⟩
      · rintro ⟨b, bs, hb, hbs, rfl⟩
        exact ⟨b, hb, bs, hbs, rfl⟩

theorem forall_of_forall₂ {α β : Type} {R : α → β → Prop} {P : α → Prop} (hR : ∀ a b, R a b → P a)
    {as : List α} {bs : List β} (h : List.Forall₂ R as bs) : ∀ a ∈ as, P a := by
  induction h with
  | nil => exact nofun
  | cons hab _ ih => exact List.forall_mem_cons.mpr ⟨hR _ _ hab, ih⟩

theorem SpellsArc.not_mem {cs : List Char} {n : Nat} (h : SpellsArc cs n) {c : Char}
    (hsign : c ≠ '+') (hdigit : c.isDigit = false) : c ∉ cs := by
  obtain ⟨digits, hcs, -, hdigits, -⟩ := h
  have hnot : c ∉ digits := fun hc => Bool.eq_false_iff.mp hdigit (hdigits c hc)
  rcases hcs with rfl | rfl
  · exact hnot
  · exact fun hc => (List.mem_cons.mp hc).elim hsign hnot

theorem spells_iff {s : String} {arcs : List Nat} :
    Spells s arcs ↔ (Text.fields '.' s.toList).mapM arc? = some arcs := by
  simp only [mapM_eq_some, arc?_eq_some]
  constructor
  · rintro ⟨parts, hne, htext, harcs⟩
    have hdot : ∀ part ∈ parts, '.' ∉ part :=
      forall_of_forall₂ (fun _ _ h => h.not_mem (by decide) (by decide)) harcs
    rw [htext, Text.fields_intercalate hne hdot]
    exact harcs
  · intro h
    refine ⟨_, ?_, (Text.intercalate_fields '.' s.toList).symm, h⟩
    intro hnil
    cases htext : s.toList with
    | nil => rw [htext] at hnil; cases hnil
    | cons c rest =>
        rw [htext, Text.fields] at hnil
        split at hnil
        · cases hnil
        · split at hnil <;> cases hnil

/-- What is taken for an object identifier. -/
theorem isDottedText_iff {s : String} : Oid.isDottedText s = true ↔
    ∃ arcs, Spells s arcs ∧ (arcs = [0] ∨ ∃ a b rest, arcs = a :: b :: rest ∧ a < 7 ∧ b < 40) := by
  simp only [spells_iff]
  unfold Oid.isDottedText
  cases (Text.fields '.' s.toList).mapM arc? with
  | none => simp
  | some arcs =>
      obtain _ | ⟨a, _ | ⟨b, rest⟩⟩ := arcs
      · simp
      · simp
      · simp

theorem spells_dottedForm {arcs arcs' : List Nat} (hne : arcs ≠ []) :
    Spells (dottedForm arcs) arcs' ↔ arcs' = arcs ∧ ∀ n ∈ arcs, n < 2 ^ 64 := by
  have htext : (dottedForm arcs).toList
      = ['.'].intercalate (arcs.map fun n => (toString n).toList) := by
    rw [dottedForm, String.toList_intercalate, List.map_map]
    rfl
  have hdot : ∀ part ∈ arcs.map fun n => (toString n).toList, '.' ∉ part := by
    intro part hpart hin
    obtain ⟨n, -, rfl⟩ := List.mem_map.mp hpart
    rw [toList_toString] at hin
    exact absurd (Nat.isDigit_of_mem_toDigits (by decide) (by decide) hin) (by decide)
  have hfields : Text.fields '.' (dottedForm arcs).toList
      = arcs.map fun n => (toString n).toList := by
    rw [htext, Text.fields_intercalate (mt List.map_eq_nil_iff.mp hne) hdot]
  simp only [spells_iff, hfields, mapM_eq_some, arc?_eq_some, List.forall₂_map_left_iff,
    spellsArc_toString]
  constructor
  · intro h
    exact ⟨List.forall₂_eq_eq_eq ▸ h.flip.imp fun _ _ hab => hab.1,
      forall_of_forall₂ (fun _ _ hab => hab.2) h⟩
  · rintro ⟨rfl, hlt⟩
    exact List.forall₂_same.mpr fun n hn => ⟨rfl, hlt n hn⟩

/-! ## Printed identifiers -/

namespace Oid

/-- The numbers that an identifier prints: a single zero, or two that make
up an octet and more, of which only the last may take sixty-four bits. -/
def Printable (arcs : List Nat) : Prop :=
  arcs = [0] ∨ ∃ a b rest, arcs = a :: b :: rest ∧ b < 40 ∧ 40 * a + b < 256
    ∧ (a = 0 → b = 0 → rest ≠ []) ∧ (∀ n ∈ rest.dropLast, n < 2 ^ 63) ∧ ∀ n ∈ rest, n < 2 ^ 64

theorem forall_dropLast_cons {α : Type} {P : α → Prop} {a : α} {as : List α} (ha : P a)
    (h : ∀ b ∈ as.dropLast, P b) : ∀ b ∈ (a :: as).dropLast, P b := by
  cases as with
  | nil => exact nofun
  | cons c as => exact List.forall_mem_cons.mpr ⟨ha, h⟩

/-- Numbers none of which is too long: only the last can have its last
octet missing, and so be of sixty-four bits. -/
theorem bounds_arcsFrom : ∀ {octets : Octets} {value count : Nat}, value < 128 ^ count →
    (∀ arc ∈ arcsFrom value count octets, 7 * arc.2 ≤ 64) →
      (∀ n ∈ ((arcsFrom value count octets).map (·.1)).dropLast, n < 2 ^ 63)
        ∧ ∀ n ∈ (arcsFrom value count octets).map (·.1), n < 2 ^ 64
  | [], value, count, _, _ => by
      rw [arcsFrom]
      split
      · exact ⟨nofun, nofun⟩
      · refine ⟨nofun, fun n hn => ?_⟩
        obtain rfl := List.mem_singleton.mp hn
        exact Nat.mod_lt _ (by decide)
  | b :: rest, value, count, hvalue, hshort => by
      have hgrown : value * 128 + b.toNat % 128 < 128 ^ (count + 1) := by
        have hdigit := Nat.mod_lt b.toNat (show 0 < 128 by decide)
        rw [Nat.pow_succ]
        omega
      unfold arcsFrom at hshort ⊢
      dsimp only at hshort ⊢
      split at hshort
      · next hlast =>
        obtain ⟨hcount, hrest⟩ := List.forall_mem_cons.mp hshort
        have hlt : value * 128 + b.toNat % 128 < 2 ^ 63 := by
          refine Nat.lt_of_lt_of_le hgrown ?_
          rw [show 2 ^ 63 = 128 ^ 9 by decide]
          exact Nat.pow_le_pow_right (by decide) (by omega)
        have hzero : 0 < 128 ^ 0 := by decide
        obtain ⟨hinit, hall⟩ := bounds_arcsFrom hzero hrest
        rw [if_pos hlast, List.map_cons]
        exact ⟨forall_dropLast_cons hlt hinit,
          List.forall_mem_cons.mpr ⟨Nat.lt_trans hlt (by decide), hall⟩⟩
      · next hmore =>
        rw [if_neg hmore]
        exact bounds_arcsFrom hgrown hshort

theorem arcsFrom_eq_nil : ∀ {octets : Octets} {value count : Nat},
    arcsFrom value count octets = [] → octets = []
  | [], _, _, _ => rfl
  | b :: rest, value, count, h => by
      unfold arcsFrom at h
      dsimp only at h
      split at h
      · cases h
      · obtain rfl := arcsFrom_eq_nil h
        rw [arcsFrom, if_neg (Nat.succ_ne_zero count)] at h
        cases h

/-! ### Encodings -/

/-- The base-128 digits of a number as octets that have more to come. -/
def continued (n : Nat) : Octets :=
  if n = 0 then [] else continued (n / 128) ++ [UInt8.ofNat (128 + n % 128)]
decreasing_by exact Nat.div_lt_self (Nat.pos_of_ne_zero ‹_›) (by decide)

/-- The encoding of a number. -/
def encodeArc (n : Nat) : Octets := continued (n / 128) ++ [UInt8.ofNat (n % 128)]

/-- The encodings of numbers; the last octet of the last one is missing if
it is too long. -/
def encodeArcs : List Nat → Octets
  | [] => []
  | [n] => if n < 2 ^ 63 then encodeArc n else continued n
  | n :: ns => encodeArc n ++ encodeArcs ns

theorem arcsFrom_continued (n : Nat) (rest : Octets) :
    arcsFrom 0 0 (continued n ++ rest) = arcsFrom n (continued n).length rest := by
  induction n using Nat.strongRecOn generalizing rest with
  | ind n ih =>
      rw [continued]
      split
      · next hzero => rw [hzero]; rfl
      · next hpos =>
        have hoctet : (UInt8.ofNat (128 + n % 128)).toNat = 128 + n % 128 :=
          UInt8.toNat_ofNat_of_lt' (show _ < 256 by omega)
        rw [List.append_assoc, ih _ (Nat.div_lt_self (Nat.pos_of_ne_zero hpos) (by decide)),
          List.singleton_append, arcsFrom, hoctet, if_neg (by omega), List.length_append,
          List.length_singleton]
        congr 1
        omega

theorem length_continued_le : ∀ {count n : Nat}, n < 128 ^ count → (continued n).length ≤ count
  | 0, n, h => by
      obtain rfl : n = 0 := by simpa using h
      simp [continued]
  | count + 1, n, h => by
      rw [continued]
      split
      · exact Nat.zero_le _
      · rw [List.length_append, List.length_singleton]
        refine Nat.succ_le_succ (length_continued_le ?_)
        rw [Nat.pow_succ] at h
        omega

theorem arcsFrom_encodeArc (n : Nat) (rest : Octets) :
    arcsFrom 0 0 (encodeArc n ++ rest)
      = (n, (continued (n / 128)).length + 1) :: arcsFrom 0 0 rest := by
  have hoctet : (UInt8.ofNat (n % 128)).toNat = n % 128 :=
    UInt8.toNat_ofNat_of_lt' (show _ < 256 by omega)
  rw [encodeArc, List.append_assoc, arcsFrom_continued, List.singleton_append, arcsFrom, hoctet,
    if_pos (Nat.mod_lt n (by decide)), Nat.mod_mod, Nat.div_add_mod']

theorem short_encodeArc {n : Nat} (h : n < 2 ^ 63) :
    7 * ((continued (n / 128)).length + 1) ≤ 64 := by
  have hlength : (continued (n / 128)).length ≤ 8 := by
    refine length_continued_le ?_
    rw [show 128 ^ 8 = 2 ^ 56 by decide]
    omega
  omega

/-- Numbers of as many bits as can be are read back. -/
theorem arcsFrom_encodeArcs : ∀ {arcs : List Nat}, (∀ n ∈ arcs.dropLast, n < 2 ^ 63) →
    (∀ n ∈ arcs, n < 2 ^ 64) →
      (arcsFrom 0 0 (encodeArcs arcs)).map (·.1) = arcs
        ∧ ∀ arc ∈ arcsFrom 0 0 (encodeArcs arcs), 7 * arc.2 ≤ 64
  | [], _, _ => ⟨rfl, nofun⟩
  | [n], _, hall => by
      rw [encodeArcs]
      split
      · next hlt =>
        have hread := arcsFrom_encodeArc n []
        rw [List.append_nil, show arcsFrom 0 0 [] = [] from rfl] at hread
        rw [hread]
        exact ⟨rfl, List.forall_mem_singleton.mpr (short_encodeArc hlt)⟩
      · next hge =>
        have hsome : (continued n).length ≠ 0 := by
          rw [continued, if_neg (by omega), List.length_append]
          exact Nat.succ_ne_zero _
        have hread := arcsFrom_continued n []
        rw [List.append_nil, arcsFrom, if_neg hsome] at hread
        rw [hread]
        refine ⟨?_, List.forall_mem_singleton.mpr (Nat.zero_le 64)⟩
        exact congrArg (fun m => [m]) (Nat.mod_eq_of_lt (hall n List.mem_cons_self))
  | n :: next :: more, hinit, hall => by
      obtain ⟨hn, hinit⟩ := List.forall_mem_cons.mp hinit
      obtain ⟨-, hall⟩ := List.forall_mem_cons.mp hall
      obtain ⟨hread, hshort⟩ := arcsFrom_encodeArcs hinit hall
      rw [encodeArcs, arcsFrom_encodeArc]
      · exact ⟨congrArg (n :: ·) hread, List.forall_mem_cons.mpr ⟨short_encodeArc hn, hshort⟩⟩
      · exact List.cons_ne_nil _ _

/-! ### What is printed -/

/-- An identifier prints numbers, unless one is too long; then there are
blanks between its octets. -/
theorem dotted_cons {first : UInt8} {rest : Octets} (h : first ≠ 0 ∨ rest ≠ []) :
    dotted ⟨first :: rest⟩ =
      if ∀ arc ∈ arcsFrom 0 0 rest, 7 * arc.2 ≤ 64 then
        dottedForm (first.toNat / 40 :: first.toNat % 40 :: (arcsFrom 0 0 rest).map (·.1))
      else Octets.toHexWith " " (first :: rest) := by
  unfold dotted
  split
  · next hnil => cases hnil
  · next hzero =>
    obtain ⟨rfl, rfl⟩ := List.cons.inj hzero
    exact absurd rfl (h.resolve_right (fun hne => hne rfl))
  · next hcons =>
    obtain ⟨rfl, rfl⟩ := List.cons.inj hcons
    dsimp only
    have hlong : (arcsFrom 0 0 rest).any (fun arc => decide (64 < 7 * arc.2)) = true
        ↔ ¬ ∀ arc ∈ arcsFrom 0 0 rest, 7 * arc.2 ≤ 64 := by
      simp only [List.any_eq_true, decide_eq_true_eq, not_forall, Nat.not_le, exists_prop]
    by_cases hshort : ∀ arc ∈ arcsFrom 0 0 rest, 7 * arc.2 ≤ 64
    · rw [if_neg (fun hany => hlong.mp hany hshort), if_pos hshort]
      rfl
    · rw [if_pos (hlong.mpr hshort), if_neg hshort]

theorem not_spells_toHexWith {a b : UInt8} {more : Octets} {arcs : List Nat} :
    ¬ Spells (Octets.toHexWith " " (a :: b :: more)) arcs := by
  rintro ⟨parts, -, htext, harcs⟩
  have hblank : ' ' ∈ (Octets.toHexWith " " (a :: b :: more)).toList := by
    rw [Octets.toHexWith, String.toList_intercalate, List.map_cons, List.map_cons, List.map_cons,
      List.map_cons, List.intercalate_cons_cons]
    exact List.mem_append_left _ (List.mem_append_right _ (by decide))
  rw [htext] at hblank
  rcases mem_intercalate hblank with hdot | ⟨part, hpart, hin⟩
  · exact absurd hdot (by decide)
  · exact forall_of_forall₂ (fun _ _ h => h.not_mem (by decide) (by decide)) harcs part hpart hin

theorem printable_of_dotted {oid : Oid} {arcs : List Nat} (h : Spells oid.dotted arcs) :
    oid.dotted = dottedForm arcs ∧ Printable arcs := by
  obtain ⟨octets⟩ := oid
  obtain _ | ⟨first, rest⟩ := octets
  · have hnone : (Text.fields '.' (dotted ⟨[]⟩).toList).mapM arc? = none := by decide
    exact absurd (hnone.symm.trans (spells_iff.mp h)) nofun
  · by_cases hzero : first = 0 ∧ rest = []
    · obtain ⟨rfl, rfl⟩ := hzero
      have hform : dotted ⟨[0]⟩ = dottedForm [0] := rfl
      rw [hform] at h ⊢
      obtain ⟨rfl, -⟩ := (spells_dottedForm (List.cons_ne_nil _ _)).mp h
      exact ⟨rfl, Or.inl rfl⟩
    · have hsome : first ≠ 0 ∨ rest ≠ [] := by
        by_cases hfirst : first = 0
        · exact Or.inr fun hnil => hzero ⟨hfirst, hnil⟩
        · exact Or.inl hfirst
      rw [dotted_cons hsome] at h ⊢
      split at h
      · next hshort =>
        rw [if_pos hshort]
        obtain ⟨rfl, -⟩ := (spells_dottedForm (List.cons_ne_nil _ _)).mp h
        have hzero : 0 < 128 ^ 0 := by decide
        obtain ⟨hinit, hall⟩ := bounds_arcsFrom hzero hshort
        have hsize : first.toNat < 256 := first.toNat_lt
        refine ⟨rfl, Or.inr ⟨_, _, _, rfl, by omega, by omega, fun ha hb hnil => ?_, hinit, hall⟩⟩
        have hfirst : first = 0 := UInt8.toNat_inj.mp (show first.toNat = 0 by omega)
        have hnone := arcsFrom_eq_nil (List.map_eq_nil_iff.mp hnil)
        exact hsome.elim (absurd hfirst) (absurd hnone)
      · next hlong =>
        obtain _ | ⟨b, more⟩ := rest
        · exact absurd (List.forall_mem_nil _) hlong
        · exact absurd h not_spells_toHexWith

/-- Whether a text that spells numbers is printed by any identifier. -/
theorem printed_iff {s : String} {arcs : List Nat} (h : Spells s arcs) :
    (∃ oid : Oid, oid.dotted = s) ↔ s = dottedForm arcs ∧ Printable arcs := by
  constructor
  · rintro ⟨oid, rfl⟩
    exact printable_of_dotted h
  · rintro ⟨rfl, rfl | ⟨a, b, rest, rfl, hb, hoctet, hzero, hinit, hall⟩⟩
    · exact ⟨⟨[0]⟩, rfl⟩
    · have hfirst : (UInt8.ofNat (40 * a + b)).toNat = 40 * a + b :=
        UInt8.toNat_ofNat_of_lt' hoctet
      obtain ⟨hread, hshort⟩ := arcsFrom_encodeArcs hinit hall
      have hsome : UInt8.ofNat (40 * a + b) ≠ 0 ∨ encodeArcs rest ≠ [] := by
        by_cases hnil : encodeArcs rest = []
        · rw [hnil] at hread
          refine Or.inl fun h0 => ?_
          rw [h0, UInt8.toNat_zero] at hfirst
          exact hzero (by omega) (by omega) hread.symm
        · exact Or.inr hnil
      refine ⟨⟨UInt8.ofNat (40 * a + b) :: encodeArcs rest⟩, ?_⟩
      rw [dotted_cons hsome, if_pos hshort, hfirst, hread]
      congr 3 <;> omega

end Oid

end TrustPath
