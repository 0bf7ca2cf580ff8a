import TrustPath.Proofs.Path.PartialPath

/-!
# The length of a path

The length of a path is limited from two sides. A candidate is checked
from the anchor's side down with one running number, how many counted
authorities may still follow: each one uses up a step of it and then caps
it by a limit of its own. The search goes the other way, from the target
up, and gives up a partial path with more counted issuers than the depth
allows.

The running number after some authorities is `Candidate.countdown`, and
`Candidate.within_countdown` says what it is with additions alone: a
count keeps it exactly when that count and what has passed since keep
every limit so far. So whether a limit is capped before or after a step
makes the difference it should, and no step goes below zero
(`Candidate.spend_exact`).

A partial path only grows at the anchor's side, so what it counts, every
candidate that completes it counts too. This is why giving it up loses
nothing (`Candidate.length_exact`).
-/

namespace TrustPath

theorem counted_append (cs ds : List Certificate) :
    counted (cs ++ ds) = counted cs + counted ds :=
  List.countP_append

namespace Candidate

/-! ## The running number -/

/-- How many counted authorities may still follow after some have
passed, the anchor's side first. -/
def countdown (remaining : Option Nat) : List Certificate → Except Rejection (Option Nat)
  | [] => .ok remaining
  | ca :: rest => do
    let limit ← ca.checkAuthority
    let remaining ← spend remaining ca
    ca.checkMaySign
    countdown (stricter remaining limit) rest

/-- The check goes on from the number that is left. -/
theorem checkAuthorities_append (passed rest : List Certificate) :
    ∀ remaining : Option Nat, checkAuthorities remaining (passed ++ rest)
      = countdown remaining passed >>= fun left => checkAuthorities left rest := by
  induction passed with
  | nil => exact fun remaining => rfl
  | cons ca passed ih =>
      intro remaining
      simp only [List.cons_append, checkAuthorities, countdown, ih, bind_assoc]

/-- A step that is used up was there: the subtraction is exact. -/
theorem spend_exact {remaining left : Option Nat} {c : Certificate}
    (h : spend remaining c = .ok left) :
    remaining = left.map (· + if c.isSelfIssued then 0 else 1) := by
  unfold spend at h
  cases hissued : c.isSelfIssued with
  | true =>
      rw [hissued, if_pos rfl] at h
      obtain rfl := Except.ok.inj h
      simp
  | false =>
      rw [hissued, if_neg Bool.false_ne_true] at h
      match remaining with
      | none =>
          obtain rfl := Except.ok.inj h
          rfl
      | some 0 => cases h
      | some (n + 1) =>
          obtain rfl := Except.ok.inj h
          rfl

/-- A count keeps the limits that some authorities set: with all of them
it keeps the limit from the start, and with those after an authority the
limit of that one. -/
structure Keeps (n : Nat) (start : Option Nat) (passed : List Certificate) : Prop where
  start : Within (counted passed + n) start
  limits : ∀ upper c below limit, passed = upper ++ c :: below →
    c.basicConstraints = .ok (some (true, some limit)) → counted below + n ≤ limit

/-- One more authority at the anchor's side. -/
theorem keeps_cons {n : Nat} {start limit : Option Nat} {ca : Certificate}
    {passed : List Certificate} (hbc : ca.basicConstraints = .ok (some (true, limit))) :
    Keeps n start (ca :: passed) ↔
      Within (counted passed + n + if ca.isSelfIssued then 0 else 1) start
        ∧ Within (counted passed + n) limit
        ∧ ∀ upper c below m, passed = upper ++ c :: below →
            c.basicConstraints = .ok (some (true, some m)) → counted below + n ≤ m := by
  have hcount : counted (ca :: passed) + n
      = counted passed + n + if ca.isSelfIssued then 0 else 1 := by
    rw [counted_cons]
    omega
  constructor
  · rintro ⟨hstart, hlimits⟩
    refine ⟨hcount ▸ hstart, ?_, fun upper c below m hsplit => ?_⟩
    · rintro m rfl
      exact hlimits [] ca passed m rfl hbc
    · exact hlimits (ca :: upper) c below m (by rw [hsplit]; rfl)
  · rintro ⟨hstart, hlimit, hbelow⟩
    refine ⟨hcount ▸ hstart, fun upper c below m hsplit hc => ?_⟩
    rcases List.cons_eq_append_iff.mp hsplit with ⟨rfl, heq⟩ | ⟨upper, rfl, hrest⟩
    · obtain ⟨rfl, rfl⟩ := List.cons.inj heq
      obtain rfl : limit = some m := by
        rw [hbc] at hc
        simpa using hc
      exact hlimit m rfl
    · exact hbelow upper c below m hrest hc

/-- What is left, in closed form. The induction is on the authorities
that pass; each uses up a step, then caps what is left by its limit. -/
theorem within_countdown {passed : List Certificate} {n : Nat} :
    ∀ {remaining left : Option Nat}, countdown remaining passed = .ok left →
      (Within n left ↔ Keeps n remaining passed) := by
  induction passed with
  | nil =>
      intro remaining left h
      obtain rfl := Except.ok.inj h
      refine ⟨fun hn => ⟨by simpa using hn, fun upper c below m hsplit => ?_⟩, fun hkeeps => ?_⟩
      · exact absurd hsplit (by simp)
      · simpa using hkeeps.start
  | cons ca passed ih =>
      intro remaining left h
      simp only [countdown, bind_eq_ok, exists_unit_ok] at h
      obtain ⟨limit, hauthority, spent, hspend, -, hrest⟩ := h
      have hbc := Certificate.checkAuthority_eq_ok.mp hauthority
      have hspent : ∀ m, Within m spent
          ↔ Within (m + if ca.isSelfIssued then 0 else 1) remaining := by
        intro m
        rw [← spend_within, hspend]
        simp
      rw [ih hrest, keeps_cons hbc, ← hspent]
      constructor
      · rintro ⟨hstart, hlimits⟩
        obtain ⟨hleft, hlimit⟩ := within_stricter.mp hstart
        exact ⟨hleft, hlimit, hlimits⟩
      · rintro ⟨hleft, hlimit, hlimits⟩
        exact ⟨within_stricter.mpr ⟨hleft, hlimit⟩, hlimits⟩

/-- Authorities that may sign pass exactly when they keep the limits. -/
theorem checkAuthorities_eq_ok_iff_keeps {remaining : Option Nat} {above : List Certificate}
    (hauthorities : ∀ c ∈ above, c.IsAuthority ∧ c.MaySign) :
    checkAuthorities remaining above = .ok () ↔ Keeps 0 remaining above := by
  rw [checkAuthorities_eq_ok]
  constructor
  · rintro ⟨-, hstart, hlimits⟩
    exact ⟨hstart, fun upper c below m hsplit => hlimits c below m ⟨upper, hsplit.symm⟩⟩
  · rintro ⟨hstart, hlimits⟩
    refine ⟨hauthorities, hstart, ?_⟩
    rintro c below m ⟨upper, hsplit⟩
    exact hlimits upper c below m hsplit.symm

/-! ## Partial paths that are too long -/

theorem isTooLong_iff {p : PathProblem} {s : SearchState} :
    p.isTooLong s = true ↔ ¬ Within (counted (PathProblem.above s)) p.parameters.lengthLimit := by
  rw [← PathProblem.exceedsLimit_eq_false, Bool.not_eq_false]
  rfl

/-- What is put above a partial path that is too long does not pass. -/
theorem checkAuthorities_of_isTooLong {p : PathProblem} {s : SearchState}
    (h : p.isTooLong s = true) (more : List Certificate) :
    checkAuthorities p.parameters.lengthLimit (more ++ PathProblem.above s) ≠ .ok () := by
  intro hok
  obtain ⟨-, hwithin, -⟩ := checkAuthorities_eq_ok.mp hok
  rw [counted_append] at hwithin
  exact isTooLong_iff.mp h (hwithin.mono (Nat.le_add_left ..))

/-- Counting is exact in both places. Readable authorities that may sign
certificates pass exactly when as many of them as count are allowed from
the start, and after each one with a limit no more than that limit. All
along, what is left is exactly what the limits so far allow, and a step
is only taken off where one is left. A partial path is given up exactly
when it has more issuers that count than the depth allows, and then every
candidate that completes it fails the check. -/
theorem length_exact {parameters : PathParameters} {above : List Certificate}
    (hauthorities : ∀ c ∈ above, c.IsAuthority ∧ c.MaySign) :
    (checkAuthorities parameters.lengthLimit above = .ok () ↔
        (0 ≤ parameters.maxPathLength → (counted above : Int) ≤ parameters.maxPathLength)
          ∧ ∀ upper c below limit, above = upper ++ c :: below →
              c.basicConstraints = .ok (some (true, some limit)) → counted below ≤ limit)
      ∧ (∀ passed ca rest left, above = passed ++ ca :: rest →
          countdown parameters.lengthLimit passed = .ok left →
            checkAuthorities parameters.lengthLimit above = checkAuthorities left (ca :: rest)
              ∧ (∀ n, Within n left ↔ Keeps n parameters.lengthLimit passed)
              ∧ ∀ after, spend left ca = .ok after →
                  left = after.map (· + if ca.isSelfIssued then 0 else 1))
      ∧ ∀ (p : PathProblem) (s : SearchState),
          (p.isTooLong s = true ↔ 0 ≤ p.parameters.maxPathLength
              ∧ p.parameters.maxPathLength < (counted (PathProblem.above s) : Int))
            ∧ (p.isTooLong s = true → ∀ more : List Certificate,
                checkAuthorities p.parameters.lengthLimit (more ++ PathProblem.above s) ≠ .ok ()
                  ∧ ∀ anchor, (check p.holds p.crls p.parameters (more ++ PathProblem.above s)
                      p.target anchor).1 ≠ .ok ()) := by
  refine ⟨?_, fun passed ca rest left hsplit hleft => ⟨?_, fun n => within_countdown hleft,
    fun after => spend_exact⟩, fun p s => ⟨?_, fun hlong more => ?_⟩⟩
  · rw [checkAuthorities_eq_ok_iff_keeps hauthorities, ← within_lengthLimit]
    exact ⟨fun h => ⟨h.start, h.limits⟩, fun h => ⟨h.1, h.2⟩⟩
  · rw [hsplit, checkAuthorities_append, hleft]
    rfl
  · rw [isTooLong_iff, within_lengthLimit]
    omega
  · refine ⟨checkAuthorities_of_isTooLong hlong more, fun anchor hok => ?_⟩
    have hacceptable := check_eq_ok.mp hok
    have hdepth := within_lengthLimit.mpr hacceptable.depth
    rw [counted_reverse, counted_append] at hdepth
    exact isTooLong_iff.mp hlong (hdepth.mono (Nat.le_add_left ..))

/-- An authority by what counting reads of it: its name, its issuer's name and its limit. -/
def sampleIssuer (subject issuer : String) (limit : Option Nat) : Certificate :=
  .bare subject issuer
    [⟨Extension.basicConstraintsOid, true, .basicConstraints true limit⟩,
      ⟨Extension.keyUsageOid, true, .keyUsage true false⟩]

/-- A new key of the root under its old one, then two more authorities. -/
def sampleIssuers : List Certificate :=
  [sampleIssuer "Root" "Root" (some 2), sampleIssuer "Upper" "Root" (some 1),
    sampleIssuer "Lower" "Upper" none]

/-- The authorities pass at depth two, so they keep every limit, and they
do not pass at depth one. -/
theorem sample_length :
    (∀ c ∈ sampleIssuers, c.IsAuthority ∧ c.MaySign)
      ∧ checkAuthorities (some 2) sampleIssuers = .ok ()
      ∧ (∀ upper c below limit, sampleIssuers = upper ++ c :: below →
          c.basicConstraints = .ok (some (true, some limit)) → counted below ≤ limit)
      ∧ checkAuthorities (some 1) sampleIssuers ≠ .ok () := by
  have hauthorities : ∀ c ∈ sampleIssuers, c.IsAuthority ∧ c.MaySign := by
    have hone : ∀ subject issuer limit, (sampleIssuer subject issuer limit).IsAuthority
        ∧ (sampleIssuer subject issuer limit).MaySign :=
      fun _ _ limit => ⟨⟨limit, rfl⟩, Or.inr ⟨false, rfl⟩⟩
    simp only [sampleIssuers, List.forall_mem_cons, List.not_mem_nil, false_implies, implies_true,
      and_true, hone]
  have hpassed : succeeds (checkAuthorities (some 2) sampleIssuers) (fun _ => true) = true := by
    decide +kernel
  obtain ⟨⟨⟩, hok, -⟩ := succeeds_iff.mp hpassed
  have hdeep := (@length_exact ⟨2, false, ⟨.empty, false, false, false⟩, 0⟩ _ hauthorities).1
  have hflat := (@length_exact ⟨1, false, ⟨.empty, false, false, false⟩, 0⟩ _ hauthorities).1
  refine ⟨hauthorities, hok, (hdeep.mp hok).2, fun hflatOk => ?_⟩
  have hcounted : counted sampleIssuers = 2 := by decide +kernel
  have hdepth := (hflat.mp hflatOk).1 (by decide)
  rw [hcounted] at hdepth
  exact absurd hdepth (by decide)

end Candidate

end TrustPath
