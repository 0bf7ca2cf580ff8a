import Mathlib.Data.List.Chain
import TrustPath.Path.Candidate
import TrustPath.Proofs.Outcome
import TrustPath.Proofs.Revocation

/-!
# Acceptable candidates

What the checks of a candidate establish, said without them. A
candidate is a target, the issuers above it (the target's own issuer
first) and an anchor; `Candidate.Acceptable` lists the conditions it has
to meet, one field for each rule of path validation, and
`Candidate.check_eq_ok` proves that the checks pass exactly then.

The checks work from the anchor's side down and carry what is left of
the length limits along; the conditions speak of the path as a whole.
The bridge is one induction for each check: over the authorities with
the limit that remains (`checkAuthorities_eq_ok`), over the certificates
below an authority (`checkNames_eq_ok`, `checkAllNames_eq_ok`), and over
the path with its issuers (`checkRevocation_eq_ok`).

A consequence used for searches in different material: acceptance only
grows with the depth that is allowed (`Acceptable.of_deeper`).
-/

namespace TrustPath

/-- A count keeps a limit, if there is one. -/
def Within (n : Nat) (limit : Option Nat) : Prop := ∀ m ∈ limit, n ≤ m

theorem Within.mono {n n' : Nat} {limit : Option Nat} (h : Within n limit) (hle : n' ≤ n) :
    Within n' limit :=
  fun m hm => Nat.le_trans hle (h m hm)

/-- The limit on the length of a path, if there is one, is the greatest
length that is not negative. -/
theorem within_lengthLimit {n : Nat} {parameters : PathParameters} :
    Within n parameters.lengthLimit ↔
      (0 ≤ parameters.maxPathLength → (n : Int) ≤ parameters.maxPathLength) := by
  unfold Within PathParameters.lengthLimit
  split
  · next hneg => exact ⟨fun _ h => absurd h (Int.not_le.mpr hneg), fun _ => nofun⟩
  · next hneg => simp only [Option.mem_some_iff, forall_eq']; omega

/-- One depth allows no more than another. A negative depth allows every
length. -/
def NoDeeper (depth deeper : Int) : Prop := 0 ≤ deeper → 0 ≤ depth ∧ depth ≤ deeper

theorem Within.of_noDeeper {n : Nat} {parameters deeper : PathParameters}
    (h : Within n parameters.lengthLimit)
    (hdepth : NoDeeper parameters.maxPathLength deeper.maxPathLength) :
    Within n deeper.lengthLimit := by
  rw [within_lengthLimit] at h ⊢
  intro hle
  obtain ⟨hnonneg, hdeeper⟩ := hdepth hle
  exact Int.le_trans (h hnonneg) hdeeper

/-- The certificates that count towards limits on the length of a path:
those that their subject did not issue itself. -/
def counted (cs : List Certificate) : Nat := cs.countP fun c => !c.isSelfIssued

@[simp] theorem counted_nil : counted [] = 0 := rfl

theorem counted_cons (c : Certificate) (cs : List Certificate) :
    counted (c :: cs) = counted cs + if c.isSelfIssued then 0 else 1 := by
  rw [counted, counted, List.countP_cons]
  cases c.isSelfIssued <;> rfl

@[simp] theorem counted_reverse (cs : List Certificate) : counted cs.reverse = counted cs :=
  List.countP_reverse

namespace Certificate

/-- A certificate is in force at a time. -/
def InForce (c : Certificate) (now : Int) : Prop :=
  c.notBefore.timestamp ≤ now ∧ now ≤ c.notAfter.timestamp

/-- Every critical extension is one that path validation understands. -/
def Understood (c : Certificate) : Prop :=
  ∀ ext ∈ c.extensions, ext.critical = true → ext.oid.dotted ∈ supportedCritical

/-- The certificate belongs to a certification authority. -/
def IsAuthority (c : Certificate) : Prop :=
  ∃ limit, c.basicConstraints = .ok (some (true, limit))

/-- The key may sign certificates: its usage is not restricted, or it
names that usage. -/
def MaySign (c : Certificate) : Prop :=
  c.keyUsage = .ok none ∨ ∃ crlSign, c.keyUsage = .ok (some (true, crlSign))

/-- A certificate of which only the names and the extensions matter: it
has neither an encoding nor a key nor a signature. -/
def bare (subject issuer : String) (extensions : List Extension) : Certificate where
  der := []
  serial := []
  issuer := ⟨[⟨[⟨commonNameOid, .text issuer⟩]⟩]⟩
  notBefore := ⟨2000, 1, 1, 0, 0, 0, 0, 0⟩
  notAfter := ⟨2040, 1, 1, 0, 0, 0, 0, 0⟩
  subject := ⟨[⟨[⟨commonNameOid, .text subject⟩]⟩]⟩
  publicKey := ⟨⟨⟨[]⟩, none⟩, []⟩
  extensions := extensions
  signed := ⟨⟨⟨[]⟩, none⟩, [], []⟩

theorem checkValidity_eq_ok {c : Certificate} {now : Int} :
    c.checkValidity now = .ok () ↔ c.InForce now := by
  unfold checkValidity InForce
  split
  · next h => simp [rejectFor]; omega
  · split
    · next h => simp [rejectFor]; omega
    · simp; omega

theorem checkCritical_eq_ok {c : Certificate} : c.checkCritical = .ok () ↔ c.Understood := by
  have hnone : c.unsupported? = none ↔ c.Understood := by
    simp only [unsupported?, List.find?_eq_none, Understood, Bool.and_eq_true, not_and,
      Bool.not_eq_true', Bool.not_eq_false, List.contains_iff_mem]
  unfold checkCritical
  rw [← hnone]
  cases c.unsupported? with
  | none => simp
  | some ext => simp [rejectFor]

theorem checkAlone_eq_ok {c : Certificate} {now : Int} :
    c.checkAlone now = .ok () ↔ c.InForce now ∧ c.Understood := by
  rw [checkAlone, bind_eq_ok, exists_unit_ok, checkValidity_eq_ok, checkCritical_eq_ok]

theorem checkMaySign_eq_ok {c : Certificate} : c.checkMaySign = .ok () ↔ c.MaySign := by
  unfold checkMaySign MaySign
  rcases c.keyUsage with fault | _ | ⟨certSign, crlSign⟩
  · simp [rejectFor]
  · simp
  · cases certSign <;> simp [rejectFor]

theorem checkAuthority_eq_ok {c : Certificate} {limit : Option Nat} :
    c.checkAuthority = .ok limit ↔ c.basicConstraints = .ok (some (true, limit)) := by
  unfold checkAuthority
  rcases c.basicConstraints with fault | _ | ⟨ca, found⟩
  · simp
  · simp
  · cases ca <;> simp

end Certificate

namespace Candidate

/-! ## The authorities -/

theorem within_stricter {n : Nat} {a b : Option Nat} :
    Within n (stricter a b) ↔ Within n a ∧ Within n b := by
  cases a with
  | none => simp [stricter, Within]
  | some a =>
      cases b with
      | none => simp [stricter, Within]
      | some b =>
          simp only [stricter, Within, Option.mem_some_iff, forall_eq']
          omega

/-- One step of what remains can be used up so that a count still keeps
what is left, exactly when the count together with that step keeps what
was there. -/
theorem spend_within {remaining : Option Nat} {c : Certificate} {n : Nat} :
    (∃ left, spend remaining c = .ok left ∧ Within n left)
      ↔ Within (n + if c.isSelfIssued then 0 else 1) remaining := by
  unfold spend
  cases c.isSelfIssued with
  | true => simp
  | false =>
      match remaining with
      | none => simp [Within]
      | some 0 => simp [Within]
      | some (m + 1) => simp [Within]

/-- The authorities above a target pass, the anchor's side first, with a
number that may follow. -/
theorem checkAuthorities_eq_ok : ∀ {remaining : Option Nat} {above : List Certificate},
    checkAuthorities remaining above = .ok () ↔
      (∀ c ∈ above, c.IsAuthority ∧ c.MaySign) ∧ Within (counted above) remaining
        ∧ ∀ c below limit, c :: below <:+ above →
            c.basicConstraints = .ok (some (true, some limit)) → counted below ≤ limit
  | remaining, [] => by simp [checkAuthorities, Within]
  | remaining, ca :: rest => by
      simp only [checkAuthorities, bind_eq_ok, Certificate.checkAuthority_eq_ok, exists_unit_ok,
        Certificate.checkMaySign_eq_ok, checkAuthorities_eq_ok, within_stricter]
      rw [List.forall_mem_cons, counted_cons, ← spend_within]
      constructor
      · rintro ⟨limit, hbc, left, hspend, hsign, hall, ⟨hleft, hlimit⟩, hbelow⟩
        refine ⟨⟨⟨⟨limit, hbc⟩, hsign⟩, hall⟩, ⟨left, hspend, hleft⟩, fun c below m hsuf hc => ?_⟩
        rcases List.suffix_cons_iff.mp hsuf with heq | hsuf
        · obtain ⟨rfl, rfl⟩ := List.cons.inj heq
          obtain rfl : limit = some m := by rw [hc] at hbc; simpa using hbc.symm
          exact hlimit m rfl
        · exact hbelow c below m hsuf hc
      · rintro ⟨⟨⟨⟨limit, hbc⟩, hsign⟩, hall⟩, ⟨left, hspend, hleft⟩, hbelow⟩
        refine ⟨limit, hbc, left, hspend, hsign, hall, ⟨hleft, ?_⟩, fun c below m hsuf =>
          hbelow c below m (hsuf.trans (List.suffix_cons ..))⟩
        rintro m rfl
        exact hbelow ca rest m (List.suffix_refl _) hbc

/-! ## Names -/

/-- The names of the certificates below an authority keep its
constraints: the target's, and those of every certificate between that
did not issue itself. -/
def NamesKept (constraints : NameConstraints) (between : List Certificate) (target : Certificate) :
    Prop :=
  constraints.violation? target = none
    ∧ ∀ c ∈ between, c.isSelfIssued = false → constraints.violation? c = none

theorem checkNames_eq_ok {constraints : NameConstraints} {target : Certificate} :
    ∀ {between : List Certificate},
      checkNames constraints (between ++ [target]) = .ok ()
        ↔ NamesKept constraints between target
  | [] => by
      simp only [List.nil_append, checkNames, List.isEmpty_nil, Bool.not_true, Bool.and_false,
        Bool.false_eq_true, if_false, NamesKept, List.not_mem_nil, false_implies, implies_true,
        and_true]
      cases constraints.violation? target <;> simp [Certificate.rejectFor]
  | c :: rest => by
      have hne : (rest ++ [target]).isEmpty = false := by cases rest <;> rfl
      have ih : checkNames constraints (rest ++ [target]) = .ok ()
          ↔ NamesKept constraints rest target := checkNames_eq_ok
      simp only [List.cons_append, checkNames, hne, Bool.not_false, Bool.and_true]
      unfold NamesKept at ih ⊢
      rw [List.forall_mem_cons]
      cases c.isSelfIssued with
      | true => simpa using ih
      | false =>
          cases constraints.violation? c with
          | none => simpa using ih
          | some violation => simp [Certificate.rejectFor]

/-- The constraints of the authorities above a target are readable, and
the names below each of them keep them. -/
theorem checkAllNames_eq_ok {target : Certificate} : ∀ {above : List Certificate},
    checkAllNames (above ++ [target]) = .ok () ↔
      ∀ ca between, ca :: between <:+ above → ∃ constraints, ca.nameConstraints = .ok constraints
        ∧ ∀ nc ∈ constraints, NamesKept nc between target
  | [] => by simp [checkAllNames]
  | ca :: rest => by
      have hcons : checkAllNames (ca :: rest ++ [target]) = .ok () ↔
          (∃ constraints, ca.nameConstraints = .ok constraints
            ∧ ∀ nc ∈ constraints, NamesKept nc rest target)
          ∧ checkAllNames (rest ++ [target]) = .ok () := by
        obtain ⟨next, more, hmore⟩ : ∃ next more, rest ++ [target] = next :: more := by
          cases rest with
          | nil => exact ⟨target, [], rfl⟩
          | cons c cs => exact ⟨c, cs ++ [target], rfl⟩
        simp only [List.cons_append, hmore, checkAllNames]
        rw [← hmore]
        rcases ca.nameConstraints with fault | _ | nc
        · simp [Certificate.rejectFor, bind_eq_ok]
        · simp
        · rw [bind_eq_ok, exists_unit_ok, checkNames_eq_ok]
          simp
      rw [hcons, checkAllNames_eq_ok]
      constructor
      · rintro ⟨hca, hrest⟩ c between hsuf
        rcases List.suffix_cons_iff.mp hsuf with heq | hsuf
        · obtain ⟨rfl, rfl⟩ := List.cons.inj heq
          exact hca
        · exact hrest c between hsuf
      · intro h
        exact ⟨h ca rest (List.suffix_refl _),
          fun c between hsuf => h c between (hsuf.trans (List.suffix_cons ..))⟩

/-! ## Policies and revocation -/

theorem checkPolicies_eq_ok {path : List Certificate} {target : Certificate}
    {parameters : PolicyParameters} :
    checkPolicies path target parameters = .ok ()
      ↔ processPolicies (path.map PolicyStatement.ofCertificate) parameters = .ok () := by
  unfold checkPolicies
  cases processPolicies (path.map PolicyStatement.ofCertificate) parameters with
  | ok _ => simp
  | error fault => simp [Certificate.rejectFor]

theorem checkRevocation_eq_ok {holds : Signed → PublicKey → Bool} {crls : List Crl} {now : Int}
    {anchor : Certificate} : ∀ {path : List Certificate},
      (checkRevocation holds crls now anchor path).1 = .ok ()
        ↔ (path ++ [anchor]).IsChain (Revocation.Clear holds crls now)
  | [] => by simp [checkRevocation]
  | c :: rest => by
      have hhead : (rest ++ [anchor]).head? = some (rest.headD anchor) := by cases rest <;> rfl
      have ih : (checkRevocation holds crls now anchor rest).1 = .ok ()
          ↔ (rest ++ [anchor]).IsChain (Revocation.Clear holds crls now) := checkRevocation_eq_ok
      simp only [List.cons_append, List.isChain_cons, hhead, Option.mem_some_iff,
        forall_eq', ← Revocation.status_eq_good, ← ih, checkRevocation]
      rcases Revocation.status holds c (rest.headD anchor) crls now with ⟨status, lines⟩
      cases status with
      | good => simp
      | revoked => simp [Certificate.rejectFor]
      | undetermined => simp [Certificate.rejectFor]

/-! ## The candidate as a whole -/

/-- What makes a candidate acceptable, one field for each rule. The
issuers stand above the target, its own issuer first. -/
structure Acceptable (holds : Signed → PublicKey → Bool) (crls : List Crl)
    (parameters : PathParameters) (target : Certificate) (issuers : List Certificate)
    (anchor : Certificate) : Prop where
  inForce : ∀ c ∈ target :: issuers, c.InForce parameters.now
  understood : ∀ c ∈ target :: issuers, c.Understood
  authorities : ∀ c ∈ issuers, c.IsAuthority
  signers : ∀ c ∈ issuers, c.MaySign
  depth : 0 ≤ parameters.maxPathLength → (counted issuers : Int) ≤ parameters.maxPathLength
  limits : ∀ below c above limit, issuers = below ++ c :: above →
    c.basicConstraints = .ok (some (true, some limit)) → counted below ≤ limit
  names : ∀ below ca above, issuers = below ++ ca :: above →
    ∃ constraints, ca.nameConstraints = .ok constraints
      ∧ ∀ nc ∈ constraints, NamesKept nc below target
  policies : processPolicies ((target :: issuers).reverse.map PolicyStatement.ofCertificate)
    parameters.policy = .ok ()
  revocation : parameters.revocationEnabled = true →
    (target :: issuers ++ [anchor]).IsChain (Revocation.Clear holds crls parameters.now)

/-- A property of a certificate and what stands below it, for every
certificate of a list written from either end. -/
theorem forall_suffix_reverse {P : Certificate → List Certificate → Prop}
    (issuers : List Certificate) (hP : ∀ c below, P c below.reverse ↔ P c below) :
    (∀ c below, c :: below <:+ issuers.reverse → P c below)
      ↔ ∀ below c above, issuers = below ++ c :: above → P c below := by
  constructor
  · rintro h below c above rfl
    refine (hP c below).mp (h c below.reverse ⟨above.reverse, by simp⟩)
  · rintro h c below ⟨front, hfront⟩
    refine (hP c below).mp (h below.reverse c front.reverse ?_)
    rw [← List.reverse_reverse issuers, ← hfront]
    simp

/-- The checks of a candidate pass exactly when it is acceptable. -/
theorem check_eq_ok {holds : Signed → PublicKey → Bool} {crls : List Crl}
    {parameters : PathParameters} {above : List Certificate} {target anchor : Certificate} :
    (check holds crls parameters above target anchor).1 = .ok ()
      ↔ Acceptable holds crls parameters target above.reverse anchor := by
  have hpath : checkPath above target parameters = .ok () ↔
      (∀ c ∈ above ++ [target], c.InForce parameters.now ∧ c.Understood)
      ∧ checkAuthorities parameters.lengthLimit above = .ok ()
      ∧ checkAllNames (above ++ [target]) = .ok ()
      ∧ processPolicies ((above ++ [target]).map PolicyStatement.ofCertificate)
          parameters.policy = .ok () := by
    simp only [checkPath, bind_eq_ok, exists_unit_ok, forM_eq_ok, Certificate.checkAlone_eq_ok,
      checkPolicies_eq_ok]
  have hcheck : (check holds crls parameters above target anchor).1 = .ok () ↔
      checkPath above target parameters = .ok () ∧ (parameters.revocationEnabled = true →
        (checkRevocation holds crls parameters.now anchor (target :: above.reverse)).1
          = .ok ()) := by
    unfold check
    cases checkPath above target parameters with
    | error rejection => simp
    | ok _ => cases parameters.revocationEnabled <;> simp
  have hmem : ∀ {P : Certificate → Prop},
      (∀ c ∈ target :: above.reverse, P c) ↔ ∀ c ∈ above ++ [target], P c := by
    intro P
    refine forall_congr' fun c => imp_congr_left ?_
    rw [List.mem_cons, List.mem_reverse, List.mem_append, List.mem_singleton, or_comm]
  have hlimits := forall_suffix_reverse above.reverse
    (P := fun c below => ∀ limit, c.basicConstraints = .ok (some (true, some limit)) →
      counted below ≤ limit) (fun c below => by simp)
  have hnames := forall_suffix_reverse above.reverse
    (P := fun ca below => ∃ constraints, ca.nameConstraints = .ok constraints
      ∧ ∀ nc ∈ constraints, NamesKept nc below target) (fun c below => by simp [NamesKept])
  rw [List.reverse_reverse] at hlimits hnames
  rw [hcheck, hpath, checkAuthorities_eq_ok, checkAllNames_eq_ok, checkRevocation_eq_ok]
  constructor
  · rintro ⟨⟨halone, ⟨hauth, hdepth, hlimit⟩, hname, hpolicy⟩, hrevocation⟩
    refine ⟨hmem.mpr fun c hc => (halone c hc).1, hmem.mpr fun c hc => (halone c hc).2,
      fun c hc => (hauth c (List.mem_reverse.mp hc)).1,
      fun c hc => (hauth c (List.mem_reverse.mp hc)).2, within_lengthLimit.mp (by simpa using hdepth),
      ?_,
      hnames.mp hname, by simpa using hpolicy, hrevocation⟩
    intro below c up limit heq hbc
    exact hlimits.mp (fun c below hsuf m => hlimit c below m hsuf) below c up heq limit hbc
  · intro h
    refine ⟨⟨fun c hc => ⟨hmem.mp h.inForce c hc, hmem.mp h.understood c hc⟩,
      ⟨fun c hc => ⟨h.authorities c (List.mem_reverse.mpr hc),
        h.signers c (List.mem_reverse.mpr hc)⟩, by simpa using within_lengthLimit.mpr h.depth, ?_⟩,
      hnames.mpr h.names, by simpa using h.policies⟩, h.revocation⟩
    intro c below limit hsuf hbc
    exact hlimits.mpr (fun below c up heq m => h.limits below c up m heq) c below hsuf limit hbc

/-- A candidate stays acceptable when paths may be longer and nothing
else changes. -/
theorem Acceptable.of_deeper {holds : Signed → PublicKey → Bool} {crls : List Crl}
    {parameters deeper : PathParameters} {target : Certificate} {issuers : List Certificate}
    {anchor : Certificate} (h : Acceptable holds crls parameters target issuers anchor)
    (hdepth : NoDeeper parameters.maxPathLength deeper.maxPathLength)
    (hrevocation : deeper.revocationEnabled = parameters.revocationEnabled)
    (hpolicy : deeper.policy = parameters.policy) (hnow : deeper.now = parameters.now) :
    Acceptable holds crls deeper target issuers anchor where
  inForce := hnow ▸ h.inForce
  understood := h.understood
  authorities := h.authorities
  signers := h.signers
  depth := within_lengthLimit.mp ((within_lengthLimit.mpr h.depth).of_noDeeper hdepth)
  limits := h.limits
  names := h.names
  policies := hpolicy ▸ h.policies
  revocation := fun henabled => hnow ▸ h.revocation (hrevocation ▸ henabled)

end Candidate

end TrustPath
