import Mathlib.Data.Bool.AllAny
import TrustPath.Name.Printer

/-!
# Normal texts

Normalizing a text, white space collapsed and letters lowercased, changes
nothing the second time (`normalizeText_normalizeText`). Two facts carry
this. Lowercasing writes only characters that it leaves alone
(`isLowered_of_mem_lowerFrom`), and it turns words into words, neither
making white space nor removing it (`lowerFrom_words`).

Both rest on the table of mappings as a whole. The code points that it
moves, those it moves to and those of white space are held as the bits of
numbers; that two of these sets are disjoint is then one computation.
-/

namespace TrustPath

namespace Text

/-! ## Sets of code points as numbers -/

/-- The number whose bits are the listed positions. -/
def mask (positions : List Nat) : Nat := positions.foldr (fun n m => 1 <<< n ||| m) 0

theorem testBit_mask {positions : List Nat} {n : Nat} :
    (mask positions).testBit n = true ↔ n ∈ positions := by
  induction positions with
  | nil => simp [mask]
  | cons first rest ih =>
      have hmask : mask (first :: rest) = 1 <<< first ||| mask rest := rfl
      rw [hmask, Nat.testBit_or, Bool.or_eq_true, ih, Nat.one_shiftLeft, Nat.testBit_two_pow,
        decide_eq_true_eq, List.mem_cons, eq_comm]

theorem not_mem_of_mask {as bs : List Nat} (h : mask as &&& mask bs = 0) {n : Nat} (ha : n ∈ as) :
    n ∉ bs := by
  intro hb
  have hand : (mask as &&& mask bs).testBit n = true := by
    rw [Nat.testBit_and, testBit_mask.mpr ha, testBit_mask.mpr hb, Bool.and_self]
  rw [h, Nat.zero_testBit] at hand
  cases hand

end Text

namespace Text.CodePointRun

/-- The code points that a run moves. -/
def points (run : CodePointRun) : List Nat :=
  (List.range ((run.last - run.first) / run.step + 1)).map (run.first + run.step * ·)

/-- Where a run moves a code point. -/
def target (run : CodePointRun) (n : Nat) : Nat := ((n : Int) + run.shift).toNat

theorem mem_points {run : CodePointRun} {n : Nat} (h : run.covers n = true) : n ∈ run.points := by
  simp only [covers, Bool.and_eq_true, decide_eq_true_eq, beq_iff_eq] at h
  obtain ⟨⟨hfirst, hlast⟩, hstep⟩ := h
  have hdiv := Nat.div_add_mod (n - run.first) run.step
  have hle : (n - run.first) / run.step ≤ (run.last - run.first) / run.step :=
    Nat.div_le_div_right (by omega)
  exact List.mem_map.mpr
    ⟨(n - run.first) / run.step, List.mem_range.mpr (by omega), by omega⟩

end Text.CodePointRun

namespace Text

/-! ## The table of mappings -/

/-- The code points that the table moves. -/
def movedPoints : List Nat := lowercaseRuns.flatMap (·.points)

/-- The code points to which the table moves others. -/
def targetPoints : List Nat :=
  lowercaseRuns.flatMap fun run => run.points.map run.target

def blankPoints : List Nat :=
  blanks.flatMap fun range => (List.range (range.2 - range.1 + 1)).map (range.1 + ·)

/-- What the table moves to it does not move on; nor is it `İ`, which the table does not hold. -/
theorem mask_targets_moved :
    mask targetPoints &&& mask ('İ'.toNat :: movedPoints) = 0 := by decide +kernel

theorem mask_targets_blank : mask targetPoints &&& mask blankPoints = 0 := by decide +kernel

theorem mask_moved_blank : mask movedPoints &&& mask blankPoints = 0 := by decide +kernel

/-- The runs stay within what characters there are. -/
theorem runs_valid : ∀ run ∈ lowercaseRuns, run.first ≤ run.last ∧ 0 ≤ run.first + run.shift
    ∧ (run.last + run.shift < 0xd800
      ∨ 0xdfff < run.first + run.shift ∧ run.last + run.shift < 0x110000) := by
  decide +kernel

/-- Only the first run has characters of ASCII. -/
theorem run_of_ascii : ∀ run ∈ lowercaseRuns, run.first < 0x80 → run = ⟨0x41, 0x5a, 1, 32⟩ := by
  decide +kernel

theorem mem_blankPoints {c : Char} (h : isBlank c = true) : c.toNat ∈ blankPoints := by
  obtain ⟨range, hrange, hc⟩ := List.any_eq_true.mp h
  simp only [Bool.and_eq_true, decide_eq_true_eq] at hc
  refine List.mem_flatMap.mpr ⟨range, hrange, List.mem_map.mpr ⟨c.toNat - range.1, ?_, by omega⟩⟩
  exact List.mem_range.mpr (by omega)

theorem mem_points_of_run {run : CodePointRun} {n : Nat} (hrun : run ∈ lowercaseRuns)
    (hn : run.covers n = true) : n ∈ movedPoints ∧ run.target n ∈ targetPoints :=
  have hpoint := CodePointRun.mem_points hn
  ⟨List.mem_flatMap.mpr ⟨run, hrun, hpoint⟩,
    List.mem_flatMap.mpr ⟨run, hrun, List.mem_map_of_mem hpoint⟩⟩

/-- Where a run moves a character there is one. -/
theorem toNat_ofNat_target {run : CodePointRun} {n : Nat} (hrun : run ∈ lowercaseRuns)
    (hn : run.covers n = true) : ((Char.ofNat (run.target n)).toNat : Int) = n + run.shift := by
  obtain ⟨hrange, hlow, hvalid⟩ := runs_valid run hrun
  simp only [CodePointRun.covers, Bool.and_eq_true, decide_eq_true_eq] at hn
  have hchar : (run.target n).isValidChar := by
    unfold CodePointRun.target Nat.isValidChar
    omega
  rw [Char.ofNat, dif_pos hchar]
  show ((run.target n : Nat) : Int) = n + run.shift
  unfold CodePointRun.target
  omega

/-- The letters that the lowercasing of ASCII moves are those of the first run. -/
theorem toLower_cases {c : Char} (hascii : c.toNat < 0x80) :
    (∃ run ∈ lowercaseRuns, run.covers c.toNat = true
        ∧ (c.toLower.toNat : Int) = c.toNat + run.shift)
      ∨ (∀ run ∈ lowercaseRuns, run.covers c.toNat = false) ∧ c.toLower = c := by
  by_cases h : c.val ≥ 'A'.val ∧ c.val ≤ 'Z'.val
  · have hlow : 0x41 ≤ c.toNat := h.1
    have hhigh : c.toNat ≤ 0x5a := h.2
    have hcovers : CodePointRun.covers ⟨0x41, 0x5a, 1, 32⟩ c.toNat = true := by
      simp [CodePointRun.covers, hlow, hhigh, Nat.mod_one]
    have hval : (c.val + 32).toNat = c.toNat + 32 := by
      have hsmall : c.toNat + 32 < 2 ^ 32 := by omega
      rw [UInt32.toNat_add, Char.toNat_val]
      exact Nat.mod_eq_of_lt hsmall
    have hlower : c.toLower.toNat = c.toNat + 32 := by
      have hlower : c.toLower = dite _ _ _ := rfl
      rw [hlower, dif_pos h]
      exact hval
    exact .inl ⟨_, List.mem_cons_self .., hcovers, congrArg Int.ofNat hlower⟩
  · refine .inr ⟨fun run hrun => Bool.eq_false_iff.mpr fun hcovers => h ?_, dif_neg h⟩
    simp only [CodePointRun.covers, Bool.and_eq_true, decide_eq_true_eq] at hcovers
    obtain rfl := run_of_ascii run hrun (by omega)
    exact hcovers.1

/-- A character on its own is moved as one of the runs says, or stays if none has it. -/
theorem lowerChar_cases (c : Char) :
    (∃ run ∈ lowercaseRuns, run.covers c.toNat = true
        ∧ ((lowerChar c).toNat : Int) = c.toNat + run.shift)
      ∨ (∀ run ∈ lowercaseRuns, run.covers c.toNat = false) ∧ lowerChar c = c := by
  unfold lowerChar
  split
  · next hascii => exact toLower_cases hascii
  · cases hfind : lowercaseRuns.find? (·.covers c.toNat) with
    | none =>
        rw [CodePointRun.move?, hfind]
        refine .inr ⟨fun run hrun => ?_, rfl⟩
        simpa using List.find?_eq_none.mp hfind run hrun
    | some run =>
        rw [CodePointRun.move?, hfind]
        have hrun := List.mem_of_find?_eq_some hfind
        have hcovers : run.covers c.toNat = true := by simpa using List.find?_some hfind
        exact .inl ⟨run, hrun, hcovers, toNat_ofNat_target hrun hcovers⟩

/-- The same by the sets of code points. -/
theorem lowerChar_points (c : Char) :
    lowerChar c = c ∨ c.toNat ∈ movedPoints ∧ (lowerChar c).toNat ∈ targetPoints := by
  obtain ⟨run, hrun, hcovers, hmoved⟩ | ⟨-, hsame⟩ := lowerChar_cases c
  · obtain ⟨hpoint, htarget⟩ := mem_points_of_run hrun hcovers
    have heq : (lowerChar c).toNat = run.target c.toNat := by
      unfold CodePointRun.target
      omega
    exact .inr ⟨hpoint, heq ▸ htarget⟩
  · exact .inl hsame

theorem isBlank_lowerChar (c : Char) : isBlank (lowerChar c) = isBlank c := by
  obtain h | ⟨hmoved, htarget⟩ := lowerChar_points c
  · rw [h]
  · have hc : isBlank c = false := by
      refine Bool.eq_false_iff.mpr fun hblank => ?_
      exact not_mem_of_mask mask_moved_blank hmoved (mem_blankPoints hblank)
    have hlower : isBlank (lowerChar c) = false := by
      refine Bool.eq_false_iff.mpr fun hblank => ?_
      exact not_mem_of_mask mask_targets_blank htarget (mem_blankPoints hblank)
    rw [hc, hlower]

/-! ## Lowercasing -/

/-- A character that lowercasing leaves alone, wherever it stands. -/
def IsLowered (c : Char) : Prop := c ≠ 'Σ' ∧ c ≠ 'İ' ∧ lowerChar c = c

instance (c : Char) : Decidable (IsLowered c) := inferInstanceAs (Decidable (_ ∧ _))

theorem lowerFrom_of_isLowered {cs : List Char} (h : ∀ c ∈ cs, IsLowered c) (before : List Char) :
    lowerFrom before cs = cs := by
  induction cs generalizing before with
  | nil => rfl
  | cons c rest ih =>
      obtain ⟨⟨hsigma, hdotted, hlower⟩, hrest⟩ := List.forall_mem_cons.mp h
      rw [lowerFrom, if_neg hsigma, if_neg hdotted, hlower, ih hrest]
      rfl

theorem isLowered_lowerChar {c : Char} (hdotted : c ≠ 'İ') : IsLowered (lowerChar c) := by
  have hsigma : ('Σ').toNat ∈ movedPoints :=
    ((lowerChar_points 'Σ').resolve_left (by decide)).1
  obtain hsame | ⟨-, htarget⟩ := lowerChar_points c
  · refine ⟨?_, by rwa [hsame], by rw [hsame, hsame]⟩
    rw [hsame]
    rintro rfl
    exact absurd hsame (by decide)
  · have hfree := not_mem_of_mask mask_targets_moved htarget
    refine ⟨?_, ?_, ?_⟩
    · intro h
      exact hfree (h ▸ List.mem_cons_of_mem _ hsigma)
    · intro h
      exact hfree (h ▸ List.mem_cons_self ..)
    · exact (lowerChar_points _).resolve_right fun h => hfree (List.mem_cons_of_mem _ h.1)

/-- What one character contributes to the lowercase form of a text. -/
theorem lowerFrom_cons (before : List Char) (c : Char) (rest : List Char) :
    ∃ ds, lowerFrom before (c :: rest) = ds ++ lowerFrom (c :: before) rest ∧ ds ≠ [] ∧
      (∀ d ∈ ds, IsLowered d) ∧ (isBlank c = false → ∀ d ∈ ds, isBlank d = false) := by
  rw [lowerFrom]
  refine ⟨_, rfl, ?_⟩
  split
  · refine ⟨by simp, List.forall_mem_singleton.mpr ?_, fun _ => List.forall_mem_singleton.mpr ?_⟩ <;>
      split <;> decide
  · split
    · exact ⟨by simp, List.all_iff_forall_prop.mp (by decide),
        fun _ => List.all_iff_forall_prop.mp (by decide)⟩
    · next hdotted =>
      refine ⟨by simp, ?_, fun hblank => ?_⟩
      · simpa using isLowered_lowerChar hdotted
      · simpa [isBlank_lowerChar] using hblank

theorem isLowered_of_mem_lowerFrom {before cs : List Char} :
    ∀ d ∈ lowerFrom before cs, IsLowered d := by
  induction cs generalizing before with
  | nil => simp [lowerFrom]
  | cons c rest ih =>
      obtain ⟨ds, hlower, -, hds, -⟩ := lowerFrom_cons before c rest
      rw [hlower]
      exact List.forall_mem_append.mpr ⟨hds, ih⟩

/-! ## Words -/

/-- A run of characters that are not white space. -/
def IsWord (word : List Char) : Prop := word ≠ [] ∧ ∀ c ∈ word, isBlank c = false

theorem wordsFrom_append {word : List Char} (hword : ∀ c ∈ word, isBlank c = false)
    (before rest : List Char) :
    wordsFrom before (word ++ rest) = wordsFrom (word.reverse ++ before) rest := by
  induction word generalizing before with
  | nil => rfl
  | cons c word ih =>
      obtain ⟨hc, hword⟩ := List.forall_mem_cons.mp hword
      rw [List.cons_append, wordsFrom, if_neg (by simp [hc]), ih hword]
      simp

theorem isWord_reverse {word : List Char} (hblank : ∀ c ∈ word, isBlank c = false)
    (hne : ¬ word.isEmpty = true) : IsWord word.reverse :=
  ⟨by simpa using hne, by simpa using hblank⟩

theorem isWord_of_mem_wordsFrom {before cs : List Char} (h : ∀ c ∈ before, isBlank c = false) :
    ∀ word ∈ wordsFrom before cs, IsWord word := by
  fun_induction wordsFrom before cs with
  | case1 => simp
  | case2 word hne => simpa using isWord_reverse h hne
  | case3 word c rest hblank hempty ih => exact ih (by simp)
  | case4 word c rest hblank hne ih =>
      exact List.forall_mem_cons.mpr ⟨isWord_reverse h hne, ih (by simp)⟩
  | case5 word c rest hblank ih =>
      exact ih (List.forall_mem_cons.mpr ⟨by simpa using hblank, h⟩)

theorem isWord_of_mem_words {cs : List Char} : ∀ word ∈ words cs, IsWord word :=
  isWord_of_mem_wordsFrom (by simp)

/-- Joined words are cut into the same words. -/
theorem words_intercalate {ws : List (List Char)} (h : ∀ word ∈ ws, IsWord word) :
    words ([' '].intercalate ws) = ws := by
  induction ws with
  | nil => rfl
  | cons word ws ih =>
      obtain ⟨⟨hne, hblank⟩, hws⟩ := List.forall_mem_cons.mp h
      cases ws with
      | nil =>
          have hcut := wordsFrom_append hblank [] []
          simpa [words, wordsFrom, hne] using hcut
      | cons next more =>
          have hspace : isBlank ' ' = true := by decide
          rw [List.intercalate_cons_cons, List.append_assoc, words, wordsFrom_append hblank,
            List.singleton_append, wordsFrom, if_pos hspace, if_neg (by simpa using hne)]
          rw [words] at ih
          simpa using ih hws

theorem lowerFrom_append (word before rest : List Char) (hblank : ∀ c ∈ word, isBlank c = false) :
    ∃ ds, lowerFrom before (word ++ rest) = ds ++ lowerFrom (word.reverse ++ before) rest ∧
      (word ≠ [] → ds ≠ []) ∧ ∀ d ∈ ds, isBlank d = false := by
  induction word generalizing before with
  | nil => exact ⟨[], rfl, by simp, by simp⟩
  | cons c word ih =>
      obtain ⟨hc, hword⟩ := List.forall_mem_cons.mp hblank
      obtain ⟨cs, hfirst, hne, -, hcs⟩ := lowerFrom_cons before c (word ++ rest)
      obtain ⟨ds, hrest, -, hds⟩ := ih (c :: before) hword
      refine ⟨cs ++ ds, ?_, by simp [hne], List.forall_mem_append.mpr ⟨hcs hc, hds⟩⟩
      rw [List.cons_append, hfirst, hrest]
      simp

/-- Lowercasing turns words into words. -/
theorem lowerFrom_words {ws : List (List Char)} (h : ∀ word ∈ ws, IsWord word)
    (before : List Char) :
    ∃ vs, lowerFrom before ([' '].intercalate ws) = [' '].intercalate vs ∧
      vs.length = ws.length ∧ ∀ word ∈ vs, IsWord word := by
  induction ws generalizing before with
  | nil => exact ⟨[], rfl, rfl, by simp⟩
  | cons word ws ih =>
      obtain ⟨⟨hne, hblank⟩, hws⟩ := List.forall_mem_cons.mp h
      cases ws with
      | nil =>
          obtain ⟨ds, hlower, hds, hfree⟩ := lowerFrom_append word before [] hblank
          exact ⟨[ds], by simpa [lowerFrom] using hlower, rfl, by simpa using ⟨hds hne, hfree⟩⟩
      | cons next more =>
          obtain ⟨ds, hlower, hds, hfree⟩ := lowerFrom_append word before
            (' ' :: [' '].intercalate (next :: more)) hblank
          obtain ⟨vs, hvs, hlength, hwords⟩ := ih hws (' ' :: (word.reverse ++ before))
          have hspace : ∀ before rest, lowerFrom before (' ' :: rest) =
              ' ' :: lowerFrom (' ' :: before) rest := fun _ _ => rfl
          obtain ⟨v, vs, rfl⟩ := List.exists_cons_of_length_eq_add_one hlength
          refine ⟨ds :: v :: vs, ?_, by simpa using hlength,
            List.forall_mem_cons.mpr ⟨⟨hds hne, hfree⟩, hwords⟩⟩
          rw [List.intercalate_cons_cons, List.intercalate_cons_cons, List.append_assoc,
            List.singleton_append, hlower, hspace, hvs]
          simp

end Text

/-- Normalizing a text twice gives what normalizing it once does. -/
theorem normalizeText_normalizeText (s : String) :
    normalizeText (normalizeText s) = normalizeText s := by
  have hwords : ∀ word ∈ Text.words s.toList, Text.IsWord word := Text.isWord_of_mem_words
  obtain ⟨vs, hlower, -, hwords⟩ := Text.lowerFrom_words hwords []
  have hcollapse : Text.collapse (Text.lowerChars (Text.collapse s.toList)) =
      Text.lowerChars (Text.collapse s.toList) := by
    unfold Text.lowerChars Text.collapse
    rw [hlower, Text.words_intercalate hwords]
  have hlowered : Text.lowerChars (Text.lowerChars (Text.collapse s.toList)) =
      Text.lowerChars (Text.collapse s.toList) :=
    Text.lowerFrom_of_isLowered Text.isLowered_of_mem_lowerFrom []
  unfold normalizeText
  rw [String.toList_ofList, hcollapse, hlowered]

end TrustPath
