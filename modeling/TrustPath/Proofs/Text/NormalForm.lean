import Mathlib.Data.List.Chain
import Mathlib.Data.List.TakeWhile
import TrustPath.Proofs.Text.Normal

/-!
# The normal form of a text

Texts in names are compared by a normal form. What it is, is said here
without the functions that compute it: the words of the text with one
blank between them, each character in lowercase (`NormalForm`). Every
text has the computed form as its normal form, and no other
(`normalForm_iff`).

A text holds words if it is made of them, with white space between them
and perhaps around them (`Spaced`). What a character becomes in lowercase
is a matter of the table of mappings for all characters but two, and for
`Σ` of what stands around it (`Becomes`). There is one answer because the
runs of the table do not overlap (`runs_apart`).
-/

namespace TrustPath

namespace Text

/-! ## Words with white space around them -/

/-- A text is made of words, with white space between them and perhaps
around them. -/
inductive Spaced : List Char → List (List Char) → Prop
  | blank {gap : List Char} (hgap : ∀ c ∈ gap, isBlank c = true) : Spaced gap []
  | word {gap word rest : List Char} {ws : List (List Char)}
      (hgap : ∀ c ∈ gap, isBlank c = true) (hword : IsWord word)
      (hend : ∀ c ∈ rest.head?, isBlank c = true) (hrest : Spaced rest ws) :
      Spaced (gap ++ (word ++ rest)) (word :: ws)

theorem words_gap {gap : List Char} (hgap : ∀ c ∈ gap, isBlank c = true) (rest : List Char) :
    words (gap ++ rest) = words rest := by
  induction gap with
  | nil => rfl
  | cons c gap ih =>
      obtain ⟨hc, hgap⟩ := List.forall_mem_cons.mp hgap
      rw [List.cons_append, words, wordsFrom, if_pos hc]
      exact ih hgap

/-- A word ends where white space or nothing follows. -/
theorem wordsFrom_end {word rest : List Char} (hne : word ≠ [])
    (hend : ∀ c ∈ rest.head?, isBlank c = true) :
    wordsFrom word rest = word.reverse :: words rest := by
  have hword : ¬ word.isEmpty = true := by simpa using hne
  cases rest with
  | nil => rw [wordsFrom, if_neg hword]; rfl
  | cons c rest =>
      rw [words, wordsFrom, wordsFrom, if_pos (hend c rfl), if_pos (hend c rfl), if_neg hword]
      rfl

theorem Spaced.words_eq {cs : List Char} {ws : List (List Char)} (h : Spaced cs ws) :
    words cs = ws := by
  induction h with
  | blank hgap =>
      have hnone := words_gap hgap []
      rwa [List.append_nil] at hnone
  | @word gap word rest ws hgap hword hend _ ih =>
      have hne : word.reverse ++ [] ≠ [] := by simpa using hword.1
      rw [words_gap hgap, words, wordsFrom_append hword.2, wordsFrom_end hne hend, ih]
      simp

theorem Spaced.cons {c : Char} (hc : isBlank c = true) {cs : List Char} {ws : List (List Char)}
    (h : Spaced cs ws) : Spaced (c :: cs) ws := by
  cases h with
  | blank hgap => exact .blank (List.forall_mem_cons.mpr ⟨hc, hgap⟩)
  | word hgap hword hend hrest =>
      rw [← List.cons_append]
      exact .word (List.forall_mem_cons.mpr ⟨hc, hgap⟩) hword hend hrest

/-- A text is made of the words into which it is cut; `word` is what has
been read of the first of them. -/
theorem spaced_wordsFrom {word cs : List Char} (hword : ∀ c ∈ word, isBlank c = false) :
    Spaced (word.reverse ++ cs) (wordsFrom word cs) := by
  have hgap : ∀ c ∈ ([] : List Char), isBlank c = true := by simp
  fun_induction wordsFrom word cs with
  | case1 word hempty =>
      rw [List.isEmpty_iff.mp hempty]
      exact .blank hgap
  | case2 word hne => exact .word hgap (isWord_reverse hword hne) (by simp) (.blank hgap)
  | case3 word c rest hc hempty ih =>
      rw [List.isEmpty_iff.mp hempty]
      exact (ih (by simp)).cons hc
  | case4 word c rest hc hne ih =>
      exact .word hgap (isWord_reverse hword hne) (by simpa using hc) ((ih (by simp)).cons hc)
  | case5 word c rest hc ih =>
      have hrest := ih (List.forall_mem_cons.mpr ⟨by simpa using hc, hword⟩)
      rwa [List.reverse_cons, List.append_assoc] at hrest

theorem spaced_iff {cs : List Char} {ws : List (List Char)} : Spaced cs ws ↔ words cs = ws := by
  refine ⟨Spaced.words_eq, ?_⟩
  rintro rfl
  have hcut : Spaced (List.reverse [] ++ cs) (wordsFrom [] cs) := spaced_wordsFrom (by simp)
  exact hcut

/-! ## Lowercase -/

/-- The first character after those that do not end a word is a letter
with case. -/
def MeetsLetter (cs : List Char) : Prop :=
  ∃ skipped c rest, cs = skipped ++ c :: rest ∧ (∀ d ∈ skipped, caseIgnorable.has d = true)
    ∧ caseIgnorable.has c = false ∧ cased.has c = true

/-- What a character becomes in lowercase where `before`, read backwards,
stands in front of it and `after` behind it. -/
inductive Becomes (before after : List Char) : Char → List Char → Prop
  | final (hbefore : MeetsLetter before) (hafter : ¬ MeetsLetter after) :
      Becomes before after 'Σ' ['ς']
  | inner (hinner : ¬ (MeetsLetter before ∧ ¬ MeetsLetter after)) : Becomes before after 'Σ' ['σ']
  | dotted : Becomes before after 'İ' ['i', '\u0307']
  | moved {c d : Char} {run : CodePointRun} (hsigma : c ≠ 'Σ') (hrun : run ∈ lowercaseRuns)
      (hcovers : run.covers c.toNat = true) (hmoved : (d.toNat : Int) = c.toNat + run.shift) :
      Becomes before after c [d]
  | same {c : Char} (hdotted : c ≠ 'İ')
      (hnone : ∀ run ∈ lowercaseRuns, run.covers c.toNat = false) : Becomes before after c [c]

/-- A text in lowercase, character by character. -/
inductive Lowered : List Char → List Char → List Char → Prop
  | nil {before : List Char} : Lowered before [] []
  | cons {before rest ds more : List Char} {c : Char} (hc : Becomes before rest c ds)
      (hrest : Lowered (c :: before) rest more) : Lowered before (c :: rest) (ds ++ more)

theorem reachesLetter_iff {cs : List Char} : reachesLetter cs = true ↔ MeetsLetter cs := by
  unfold reachesLetter
  constructor
  · intro h
    split at h
    · cases h
    · next c rest hdrop =>
      refine ⟨cs.takeWhile (caseIgnorable.has ·), c, rest, ?_, ?_, ?_, h⟩
      · rw [← hdrop, List.takeWhile_append_dropWhile]
      · exact fun d hd => List.mem_takeWhile_imp hd
      · have hhead := List.head?_dropWhile_not (caseIgnorable.has ·) cs
        rwa [hdrop] at hhead
  · rintro ⟨skipped, c, rest, rfl, hskipped, hstop, hcased⟩
    rw [List.dropWhile_append_of_pos hskipped, List.dropWhile_cons_of_neg (by simpa using hstop)]
    exact hcased

theorem runs_ordered :
    lowercaseRuns.IsChain fun a b => a.last < b.first ∧ b.first ≤ b.last := by decide +kernel

/-- No two runs of the table have a character in common. -/
theorem runs_apart {a b : CodePointRun} (ha : a ∈ lowercaseRuns) (hb : b ∈ lowercaseRuns) {n : Nat}
    (hna : a.covers n = true) (hnb : b.covers n = true) : a = b := by
  have htrans : IsTrans CodePointRun fun a b => a.last < b.first ∧ b.first ≤ b.last :=
    ⟨fun _ _ _ hab hbc => ⟨Nat.lt_of_lt_of_le hab.1 (hab.2.trans hbc.1.le), hbc.2⟩⟩
  have hpairs : lowercaseRuns.Pairwise fun a b =>
      a.covers n = true → b.covers n = true → a = b := by
    refine (List.isChain_iff_pairwise.mp runs_ordered).imp fun {a b} hab hna hnb => ?_
    simp only [CodePointRun.covers, Bool.and_eq_true, decide_eq_true_eq] at hna hnb
    omega
  have hsymm : Std.Symm fun a b : CodePointRun => a.covers n = true → b.covers n = true → a = b :=
    ⟨fun _ _ h hb ha => (h ha hb).symm⟩
  exact hpairs.forall_of_forall (fun _ _ _ _ => rfl) ha hb hna hnb

/-- What lowercasing makes of a character. -/
def loweredAt (before after : List Char) (c : Char) : List Char :=
  if c = 'Σ' then [if reachesLetter before && !reachesLetter after then 'ς' else 'σ']
  else if c = 'İ' then ['i', '\u0307']
  else [lowerChar c]

theorem endsWord_iff {before after : List Char} :
    (reachesLetter before && !reachesLetter after) = true
      ↔ MeetsLetter before ∧ ¬ MeetsLetter after := by
  rw [Bool.and_eq_true, Bool.not_eq_true', ← Bool.not_eq_true, reachesLetter_iff,
    reachesLetter_iff]

theorem becomes_loweredAt (before after : List Char) (c : Char) :
    Becomes before after c (loweredAt before after c) := by
  unfold loweredAt
  split
  · next hsigma =>
    subst hsigma
    split
    · next h => exact .final (endsWord_iff.mp h).1 (endsWord_iff.mp h).2
    · next h => exact .inner fun hends => h (endsWord_iff.mpr hends)
  · next hsigma =>
    split
    · next hdotted =>
      subst hdotted
      exact .dotted
    · next hdotted =>
      obtain ⟨run, hrun, hcovers, hmoved⟩ | ⟨hnone, hsame⟩ := lowerChar_cases c
      · exact .moved hsigma hrun hcovers hmoved
      · rw [hsame]
        exact .same hdotted hnone

/-- `Σ` is in the table and `İ` is not, so each character becomes one
thing only. -/
theorem Becomes.eq_loweredAt {before after : List Char} {c : Char} {ds : List Char}
    (h : Becomes before after c ds) : ds = loweredAt before after c := by
  have hmoves : ¬ ∀ run ∈ lowercaseRuns, run.covers ('Σ').toNat = false := by decide +kernel
  have hstays : ∀ run ∈ lowercaseRuns, run.covers ('İ').toNat = false := by decide +kernel
  unfold loweredAt
  cases h with
  | final hbefore hafter => rw [if_pos rfl, if_pos (endsWord_iff.mpr ⟨hbefore, hafter⟩)]
  | inner hinner => rw [if_pos rfl, if_neg fun h => hinner (endsWord_iff.mp h)]
  | dotted => rw [if_neg (by decide), if_pos rfl]
  | @moved _ d run hsigma hrun hcovers hmoved =>
      have hdotted : c ≠ 'İ' := by
        rintro rfl
        rw [hstays run hrun] at hcovers
        cases hcovers
      rw [if_neg hsigma, if_neg hdotted]
      obtain ⟨run', hrun', hcovers', hmoved'⟩ | ⟨hnone, -⟩ := lowerChar_cases c
      · obtain rfl := runs_apart hrun hrun' hcovers hcovers'
        have hnat : d.toNat = (lowerChar c).toNat := by omega
        rw [Char.toNat_inj.mp hnat]
      · rw [hnone run hrun] at hcovers
        cases hcovers
  | same hdotted hnone =>
      have hsigma : c ≠ 'Σ' := by
        rintro rfl
        exact hmoves hnone
      rw [if_neg hsigma, if_neg hdotted]
      obtain ⟨run, hrun, hcovers, -⟩ | ⟨-, hsame⟩ := lowerChar_cases c
      · rw [hnone run hrun] at hcovers
        cases hcovers
      · rw [hsame]

theorem lowered_iff {before cs ds : List Char} :
    Lowered before cs ds ↔ lowerFrom before cs = ds := by
  constructor
  · intro h
    induction h with
    | nil => rfl
    | @cons before rest ds more c hc _ ih =>
        rw [lowerFrom, ih]
        exact congrArg (· ++ more) hc.eq_loweredAt.symm
  · rintro rfl
    induction cs generalizing before with
    | nil => exact .nil
    | cons c rest ih => exact .cons (becomes_loweredAt before rest c) ih

end Text

/-! ## Normal forms -/

/-- The normal form of a text: its words with one blank between them, in
lowercase. -/
def NormalForm (s form : String) : Prop :=
  ∃ ws, Text.Spaced s.toList ws ∧ Text.Lowered [] ([' '].intercalate ws) form.toList

theorem normalForm_iff {s form : String} : NormalForm s form ↔ normalizeText s = form := by
  have htext : NormalForm s form ↔
      Text.lowerChars ([' '].intercalate (Text.words s.toList)) = form.toList := by
    simp only [NormalForm, Text.spaced_iff, Text.lowered_iff, exists_eq_left', Text.lowerChars]
  rw [htext, ← String.toList_inj, normalizeText, String.toList_ofList, Text.collapse]

end TrustPath
