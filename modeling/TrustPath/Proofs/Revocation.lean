import TrustPath.Revocation

/-!
# What revocation lists say

What it takes for revocation lists to clear a certificate under its
issuer (`Revocation.Clear`): the issuer may sign lists, some list counts,
and no list that counts names the certificate. One list that counts and
names it revokes it, whatever the others say.

The lists are gone through with the status found so far; the inductions
are on the lists with that status general (`statusFrom_eq_good`,
`statusFrom_eq_revoked`). The order of the lists does not enter: the
status depends on which lists count and on nothing else
(`status_eq_of_counting`), so a list that does not count, such as an
outdated one, might as well not be there.
-/

namespace TrustPath

namespace Crl

/-- A list counts for a certificate under its issuer at a time. -/
structure Counts (holds : Signed → PublicKey → Bool) (c issuer : Certificate) (now : Int)
    (crl : Crl) : Prop where
  names : (crl.issuer == c.issuer) = true
  begun : crl.thisUpdate.timestamp ≤ now
  current : ∀ due ∈ crl.nextUpdate, now ≤ due.timestamp
  understood : ∀ ext ∈ crl.extensions, ext.critical = true → ext.oid.dotted ∈ supportedCritical
  signed : holds crl.signed issuer.publicKey = true

variable {holds : Signed → PublicKey → Bool} {c issuer : Certificate} {key : PublicKey}
  {now : Int} {crl : Crl}

theorem isExpired_eq_false :
    crl.isExpired now = false ↔ ∀ due ∈ crl.nextUpdate, now ≤ due.timestamp := by
  rw [isExpired, Option.any_eq_false]
  refine forall_congr' fun due => imp_congr_right fun _ => ?_
  rw [decide_eq_false_iff_not, Int.not_lt]

theorem unsupported?_eq_none :
    crl.unsupported? = none ↔
      ∀ ext ∈ crl.extensions, ext.critical = true → ext.oid.dotted ∈ supportedCritical := by
  simp only [unsupported?, List.find?_eq_none, Bool.and_eq_true, not_and, Bool.not_eq_true',
    Bool.not_eq_false, List.contains_iff_mem]

theorem obstacle?_eq_none :
    crl.obstacle? holds key now = none ↔
      crl.thisUpdate.timestamp ≤ now ∧ crl.isExpired now = false ∧ crl.unsupported? = none
        ∧ holds crl.signed key = true := by
  unfold obstacle?
  by_cases hbegun : now < crl.thisUpdate.timestamp
  · simp [hbegun, Int.not_le.mpr hbegun]
  · rw [if_neg hbegun]
    cases crl.isExpired now with
    | true => simp
    | false =>
        cases crl.unsupported? with
        | some ext => simp
        | none => cases holds crl.signed key <;> simp [Int.not_lt.mp hbegun]

theorem counts_iff :
    crl.Counts holds c issuer now ↔
      (crl.issuer == c.issuer) = true ∧ crl.obstacle? holds issuer.publicKey now = none := by
  rw [obstacle?_eq_none, isExpired_eq_false, unsupported?_eq_none]
  exact ⟨fun h => ⟨h.names, h.begun, h.current, h.understood, h.signed⟩,
    fun ⟨hnames, hbegun, hcurrent, hunderstood, hsigned⟩ =>
      ⟨hnames, hbegun, hcurrent, hunderstood, hsigned⟩⟩

end Crl

namespace Revocation

/-- Revocation lists clear a certificate under its issuer. -/
structure Clear (holds : Signed → PublicKey → Bool) (crls : List Crl) (now : Int)
    (c issuer : Certificate) : Prop where
  maySign : maySignCrls issuer = true
  covered : ∃ crl ∈ crls, crl.Counts holds c issuer now
  unlisted : ∀ crl ∈ crls, crl.Counts holds c issuer now → c.serial ∉ crl.revoked

variable {holds : Signed → PublicKey → Bool} {c issuer : Certificate} {now : Int}

theorem statusFrom_eq_good {crls : List Crl} : ∀ {status : RevocationStatus},
    (statusFrom holds c issuer now status crls).1 = .good ↔
      (status = .good ∨ ∃ crl ∈ crls, crl.Counts holds c issuer now)
        ∧ (∀ crl ∈ crls, crl.Counts holds c issuer now → c.serial ∉ crl.revoked) := by
  induction crls with
  | nil => simp [statusFrom]
  | cons crl rest ih =>
      intro status
      simp only [List.mem_cons, exists_eq_or_imp, forall_eq_or_imp]
      rw [Crl.counts_iff, statusFrom]
      cases crl.issuer == c.issuer with
      | false => simpa using ih
      | true =>
          cases crl.obstacle? holds issuer.publicKey now with
          | some obstacle => simpa using ih
          | none =>
              cases hrevokes : crl.revokes c.serial with
              | true => simp_all [Crl.revokes]
              | false =>
                  have hnot : c.serial ∉ crl.revoked := by simpa [Crl.revokes] using hrevokes
                  simpa [hnot] using @ih .good

/-- A certificate is good exactly when the lists clear it. -/
theorem status_eq_good {crls : List Crl} :
    (status holds c issuer crls now).1 = .good ↔ Clear holds crls now c issuer := by
  unfold status
  cases hsign : maySignCrls issuer with
  | false =>
      refine ⟨nofun, fun h => ?_⟩
      exact absurd (hsign.symm.trans h.maySign) Bool.false_ne_true
  | true =>
      rw [if_pos rfl, statusFrom_eq_good]
      constructor
      · rintro ⟨hstart | hcovered, hunlisted⟩
        · cases hstart
        · exact ⟨hsign, hcovered, hunlisted⟩
      · exact fun h => ⟨Or.inr h.covered, h.unlisted⟩

/-- A list that counts and names the certificate is found wherever it
stands. The status carried along is never `revoked` itself: a list that
revokes ends the search. -/
theorem statusFrom_eq_revoked {crls : List Crl} : ∀ {status : RevocationStatus},
    status ≠ .revoked → ((statusFrom holds c issuer now status crls).1 = .revoked ↔
      ∃ crl ∈ crls, crl.Counts holds c issuer now ∧ c.serial ∈ crl.revoked) := by
  induction crls with
  | nil =>
      intro status hstatus
      simpa [statusFrom] using hstatus
  | cons crl rest ih =>
      intro status hstatus
      simp only [List.mem_cons, exists_eq_or_imp]
      rw [Crl.counts_iff, statusFrom]
      cases crl.issuer == c.issuer with
      | false => simpa using ih hstatus
      | true =>
          cases crl.obstacle? holds issuer.publicKey now with
          | some obstacle => simpa using ih hstatus
          | none =>
              cases hrevokes : crl.revokes c.serial with
              | true =>
                  have hlisted : c.serial ∈ crl.revoked := by simpa [Crl.revokes] using hrevokes
                  simp [hlisted]
              | false =>
                  have hnot : c.serial ∉ crl.revoked := by simpa [Crl.revokes] using hrevokes
                  have hgood : RevocationStatus.good ≠ .revoked := nofun
                  simpa [hnot] using ih hgood

/-! ## The three answers

What each answer means when the issuer may sign lists. Nothing here
depends on the order of the lists, so neither does the status. -/

theorem maySignCrls_eq_false :
    maySignCrls issuer = false ↔ ∃ certSign, issuer.keyUsage = .ok (some (certSign, false)) := by
  unfold maySignCrls
  rcases issuer.keyUsage with fault | _ | ⟨certSign, crlSign⟩
  · simp
  · simp
  · cases crlSign <;> simp

theorem status_of_barred {crls : List Crl} (h : maySignCrls issuer = false) :
    (status holds c issuer crls now).1 = .undetermined := by
  rw [status, h, if_neg Bool.false_ne_true]

theorem status_eq_revoked {crls : List Crl} (hsign : maySignCrls issuer = true) :
    (status holds c issuer crls now).1 = .revoked ↔
      ∃ crl ∈ crls, crl.Counts holds c issuer now ∧ c.serial ∈ crl.revoked := by
  rw [status, if_pos hsign]
  exact statusFrom_eq_revoked nofun

/-- Without an answer from any list the status stays open: it is neither
good nor revoked. -/
theorem status_eq_undetermined {crls : List Crl} (hsign : maySignCrls issuer = true) :
    (status holds c issuer crls now).1 = .undetermined ↔
      ∀ crl ∈ crls, ¬ crl.Counts holds c issuer now := by
  have hgood : (status holds c issuer crls now).1 = .good ↔ _ := status_eq_good
  have hrevoked : (status holds c issuer crls now).1 = .revoked ↔ _ := status_eq_revoked hsign
  constructor
  · intro h crl hmem hcounts
    rw [h] at hgood hrevoked
    by_cases hlisted : ∃ crl ∈ crls, crl.Counts holds c issuer now ∧ c.serial ∈ crl.revoked
    · exact absurd (hrevoked.mpr hlisted) nofun
    · refine absurd (hgood.mpr ⟨hsign, ⟨crl, hmem, hcounts⟩, ?_⟩) nofun
      exact fun other hother hcounts hin => hlisted ⟨other, hother, hcounts, hin⟩
  · intro h
    cases hstatus : (status holds c issuer crls now).1 with
    | undetermined => rfl
    | good =>
        obtain ⟨crl, hmem, hcounts⟩ := (hgood.mp hstatus).covered
        exact absurd hcounts (h crl hmem)
    | revoked =>
        obtain ⟨crl, hmem, hcounts, -⟩ := hrevoked.mp hstatus
        exact absurd hcounts (h crl hmem)

/-- Lists of which the same ones count say the same. -/
theorem status_eq_of_counting {crls crls' : List Crl}
    (h : ∀ crl, crl.Counts holds c issuer now → (crl ∈ crls ↔ crl ∈ crls')) :
    (status holds c issuer crls now).1 = (status holds c issuer crls' now).1 := by
  cases hsign : maySignCrls issuer with
  | false => rw [status_of_barred hsign, status_of_barred hsign]
  | true =>
      symm
      cases hstatus : (status holds c issuer crls now).1 with
      | good =>
          obtain ⟨-, ⟨crl, hmem, hcounts⟩, hunlisted⟩ := status_eq_good.mp hstatus
          refine status_eq_good.mpr ⟨hsign, ⟨crl, (h crl hcounts).mp hmem, hcounts⟩, ?_⟩
          exact fun crl hmem hcounts => hunlisted crl ((h crl hcounts).mpr hmem) hcounts
      | revoked =>
          obtain ⟨crl, hmem, hcounts, hlisted⟩ := (status_eq_revoked hsign).mp hstatus
          exact (status_eq_revoked hsign).mpr ⟨crl, (h crl hcounts).mp hmem, hcounts, hlisted⟩
      | undetermined =>
          have hnone := (status_eq_undetermined hsign).mp hstatus
          refine (status_eq_undetermined hsign).mpr fun crl hmem hcounts => ?_
          exact hnone crl ((h crl hcounts).mpr hmem) hcounts

/-- An outdated list never determines a status. -/
theorem status_filter_current (crls : List Crl) :
    (status holds c issuer (crls.filter fun crl => !crl.isExpired now) now).1
      = (status holds c issuer crls now).1 := by
  refine status_eq_of_counting fun crl hcounts => ?_
  have hcurrent : crl.isExpired now = false := Crl.isExpired_eq_false.mpr hcounts.current
  simp [hcurrent]

/-- More lists never take a revocation back. -/
theorem status_revoked_of_subset {crls crls' : List Crl} (hsub : crls ⊆ crls')
    (h : (status holds c issuer crls now).1 = .revoked) :
    (status holds c issuer crls' now).1 = .revoked := by
  cases hsign : maySignCrls issuer with
  | false =>
      rw [status_of_barred hsign] at h
      cases h
  | true =>
      obtain ⟨crl, hmem, hcounts, hlisted⟩ := (status_eq_revoked hsign).mp h
      exact (status_eq_revoked hsign).mpr ⟨crl, hsub hmem, hcounts, hlisted⟩

/-- The status of a certificate is exact. An issuer that may not sign
lists leaves it open. Otherwise a list that counts and names the
certificate revokes it, a certificate is good if some list counts and
none that counts names it, and the status is open if no list counts.
So neither order, nor repetition, nor lists that do not count make a
difference, and a revocation is never taken back by more lists. -/
theorem status_exact (holds : Signed → PublicKey → Bool) (c issuer : Certificate) (now : Int) :
    (∀ crls certSign, issuer.keyUsage = .ok (some (certSign, false)) →
        (status holds c issuer crls now).1 = .undetermined)
      ∧ ((∀ certSign, issuer.keyUsage ≠ .ok (some (certSign, false))) → ∀ crls,
          ((status holds c issuer crls now).1 = .revoked ↔
            ∃ crl ∈ crls, crl.Counts holds c issuer now ∧ c.serial ∈ crl.revoked)
          ∧ ((status holds c issuer crls now).1 = .good ↔
            (∃ crl ∈ crls, crl.Counts holds c issuer now)
              ∧ ∀ crl ∈ crls, crl.Counts holds c issuer now → c.serial ∉ crl.revoked)
          ∧ ((status holds c issuer crls now).1 = .undetermined ↔
            ∀ crl ∈ crls, ¬ crl.Counts holds c issuer now))
      ∧ (∀ crls crls', (∀ crl, crl.Counts holds c issuer now → (crl ∈ crls ↔ crl ∈ crls')) →
          (status holds c issuer crls now).1 = (status holds c issuer crls' now).1)
      ∧ (∀ crls crls', crls ⊆ crls' → (status holds c issuer crls now).1 = .revoked →
          (status holds c issuer crls' now).1 = .revoked) := by
  refine ⟨fun crls certSign h => status_of_barred (maySignCrls_eq_false.mpr ⟨certSign, h⟩), ?_,
    fun crls crls' h => status_eq_of_counting h, fun crls crls' hsub h =>
      status_revoked_of_subset hsub h⟩
  intro hallowed crls
  have hsign : maySignCrls issuer = true := by
    rw [← Bool.not_eq_false, maySignCrls_eq_false]
    exact fun ⟨certSign, h⟩ => hallowed certSign h
  refine ⟨status_eq_revoked hsign, ?_, status_eq_undetermined hsign⟩
  rw [status_eq_good]
  exact ⟨fun h => ⟨h.covered, h.unlisted⟩,
    fun ⟨hcovered, hunlisted⟩ => ⟨hsign, hcovered, hunlisted⟩⟩

end Revocation

end TrustPath
