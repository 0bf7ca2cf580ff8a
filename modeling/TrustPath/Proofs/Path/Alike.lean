import TrustPath.Proofs.Path.Acceptable

/-!
# Certificates that look alike

A candidate is judged by what its certificates show to the checks, and
the checks read different things of the target and of the certificates
above it. Of every certificate they read the names, the validity, the
critical extensions and what it says about policies
(`Certificate.AlikeBelow`); only of one that stands above another also
the key, the basic constraints, the key usage and the name constraints
(`Certificate.Alike`). Candidates that are alike entry by entry are
judged alike (`Candidate.check_alike`).

Extensions that say nothing to a check can be left out. Of what is left
out there are two kinds here, alternative names and values that do not
decode, and `Certificate.alikeBelow_filter` says what has to hold of
them for the certificate to look as before.
-/

namespace TrustPath

/-! ## Leaving extensions out -/

namespace Extension

variable {keep : Extension → Bool} {extensions : List Extension}

/-- A search does not miss what is left out if its answer comes from
what is kept. -/
theorem findSome?_filter {α : Type} {f : Extension → Option α}
    (h : ∀ ext ∈ extensions, keep ext = false →
      f ext = none ∨ f ext ≠ extensions.findSome? f) :
    (extensions.filter keep).findSome? f = extensions.findSome? f := by
  induction extensions with
  | nil => rfl
  | cons ext rest ih =>
      obtain ⟨hext, hrest⟩ := List.forall_mem_cons.mp h
      cases hf : f ext with
      | none =>
          have hcons : (ext :: rest).findSome? f = rest.findSome? f := by
            rw [List.findSome?_cons, hf]
          rw [hcons] at hrest ⊢
          rw [← ih hrest, List.filter_cons]
          cases keep ext with
          | false => rfl
          | true => rw [if_pos rfl, List.findSome?_cons, hf]
      | some a =>
          have hcons : (ext :: rest).findSome? f = some a := by rw [List.findSome?_cons, hf]
          have hkept : keep ext = true := by
            by_contra hnot
            rcases hext (Bool.eq_false_iff.mpr hnot) with hnone | hne
            · rw [hf] at hnone
              cases hnone
            · exact hne (hf.trans hcons.symm)
          rw [hcons, List.filter_cons, if_pos hkept, List.findSome?_cons, hf]

theorem uniqueExtension_filter {oid : Oid}
    (h : ∀ ext ∈ extensions, keep ext = false → ext.oid ≠ oid) :
    uniqueExtension (extensions.filter keep) oid = uniqueExtension extensions oid := by
  have hsame : (extensions.filter keep).filter (·.oid = oid) = extensions.filter (·.oid = oid) := by
    rw [List.filter_filter]
    refine List.filter_congr fun ext hext => ?_
    cases hkeep : keep ext with
    | false => simp [h ext hext hkeep]
    | true => simp
  rw [uniqueExtension, hsame, ← uniqueExtension]

end Extension

namespace PolicyStatement

variable {keep : Extension → Bool} {extensions : List Extension}

/-- What one extension says about the policies that are asserted. -/
def policiesIn? (ext : Extension) : Option (Except PolicyFault (Option (List String))) :=
  match ext.content with
  | .certificatePolicies policies => some (.ok (some (policies.map Oid.dotted)))
  | .undecodable =>
    if ext.oid = Extension.certificatePoliciesOid then some (.error .undecodable) else none
  | _ => none

/-- The first extension that says anything about policies decides. -/
theorem policiesOf_eq (extensions : List Extension) :
    policiesOf extensions = (extensions.findSome? policiesIn?).getD (.ok none) := by
  induction extensions with
  | nil => rfl
  | cons ext rest ih =>
      rw [policiesOf, ih, List.findSome?_cons, policiesIn?]
      cases ext.content with
      | certificatePolicies policies => rfl
      | undecodable => by_cases hoid : ext.oid = Extension.certificatePoliciesOid <;> simp [hoid]
      | _ => rfl

section LeftOut

/-! Without extensions that are alternative names or do not decode a
certificate says the same about policies, unless its policies are among
them. -/

variable (hcontent : ∀ ext ∈ extensions, keep ext = false →
  (∃ names, ext.content = .subjectAltName names) ∨ ext.content = .undecodable)
include hcontent

theorem policiesOf_filter
    (hpolicies : ∀ ext ∈ extensions, keep ext = false →
      ext.oid = Extension.certificatePoliciesOid → policiesOf extensions ≠ .error .undecodable) :
    policiesOf (extensions.filter keep) = policiesOf extensions := by
  rw [policiesOf_eq, policiesOf_eq, Extension.findSome?_filter]
  intro ext hext hkeep
  rcases hcontent ext hext hkeep with ⟨names, hnames⟩ | hnot
  · left
    rw [policiesIn?, hnames]
  · by_cases hoid : ext.oid = Extension.certificatePoliciesOid
    · right
      intro heq
      refine hpolicies ext hext hkeep hoid ?_
      rw [policiesOf_eq, ← heq, policiesIn?, hnot]
      simp only [hoid, if_true, Option.getD_some]
    · left
      rw [policiesIn?, hnot]
      exact if_neg hoid

theorem pairsOf_filter : pairsOf (extensions.filter keep) = pairsOf extensions := by
  induction extensions with
  | nil => rfl
  | cons ext rest ih =>
      obtain ⟨hext, hrest⟩ := List.forall_mem_cons.mp hcontent
      have ih := ih hrest
      simp only [pairsOf, List.flatMap_cons] at ih ⊢
      rw [← ih, List.filter_cons]
      cases hkeep : keep ext with
      | false =>
          rcases hext hkeep with ⟨names, hnames⟩ | hnot
          · rw [hnames]
            rfl
          · rw [hnot]
            rfl
      | true => rfl

theorem constraintsOf_filter : constraintsOf (extensions.filter keep) = constraintsOf extensions := by
  unfold constraintsOf
  rw [Extension.findSome?_filter]
  intro ext hext hkeep
  left
  rcases hcontent ext hext hkeep with ⟨names, hnames⟩ | hnot
  · rw [hnames]
  · rw [hnot]

theorem inhibitAnyPolicyOf_filter :
    inhibitAnyPolicyOf (extensions.filter keep) = inhibitAnyPolicyOf extensions := by
  unfold inhibitAnyPolicyOf
  rw [Extension.findSome?_filter]
  intro ext hext hkeep
  left
  rcases hcontent ext hext hkeep with ⟨names, hnames⟩ | hnot
  · rw [hnames]
  · rw [hnot]

end LeftOut

theorem ofCertificate_filter {c : Certificate}
    (hcontent : ∀ ext ∈ c.extensions, keep ext = false →
      (∃ names, ext.content = .subjectAltName names) ∨ ext.content = .undecodable)
    (hpolicies : ∀ ext ∈ c.extensions, keep ext = false →
      ext.oid = Extension.certificatePoliciesOid →
        policiesOf c.extensions ≠ .error .undecodable) :
    ofCertificate { c with extensions := c.extensions.filter keep } = ofCertificate c := by
  unfold ofCertificate mappingsOf
  dsimp only
  rw [policiesOf_filter hcontent hpolicies, pairsOf_filter hcontent, constraintsOf_filter hcontent,
    inhibitAnyPolicyOf_filter hcontent]
  rfl

end PolicyStatement

/-! ## Certificates that look alike -/

namespace Certificate

/-- No check tells two certificates apart that stand at the end of a
candidate. -/
structure AlikeBelow (c d : Certificate) : Prop where
  subject : c.subject = d.subject
  issuer : c.issuer = d.issuer
  serial : c.serial = d.serial
  notBefore : c.notBefore = d.notBefore
  notAfter : c.notAfter = d.notAfter
  unsupported : c.unsupported? = d.unsupported?
  violation : ∀ constraints : NameConstraints, constraints.violation? c = constraints.violation? d
  statement : PolicyStatement.ofCertificate c = PolicyStatement.ofCertificate d

/-- No check of a candidate tells two certificates apart. -/
structure Alike (c d : Certificate) : Prop extends AlikeBelow c d where
  publicKey : c.publicKey = d.publicKey
  basicConstraints : c.basicConstraints = d.basicConstraints
  keyUsage : c.keyUsage = d.keyUsage
  nameConstraints : c.nameConstraints = d.nameConstraints

namespace AlikeBelow

variable {c d : Certificate}

theorem isSelfIssued (h : c.AlikeBelow d) : c.isSelfIssued = d.isSelfIssued := by
  rw [Certificate.isSelfIssued, h.subject, h.issuer, ← Certificate.isSelfIssued]

theorem checkAlone (h : c.AlikeBelow d) (now : Int) : c.checkAlone now = d.checkAlone now := by
  unfold Certificate.checkAlone checkValidity checkCritical rejectFor
  rw [h.notBefore, h.notAfter, h.unsupported, h.subject]

theorem spend (h : c.AlikeBelow d) (remaining : Option Nat) :
    Candidate.spend remaining c = Candidate.spend remaining d := by
  unfold Candidate.spend
  rw [h.isSelfIssued, h.subject]

end AlikeBelow

namespace Alike

theorem refl (c : Certificate) : c.Alike c where
  subject := rfl
  issuer := rfl
  serial := rfl
  notBefore := rfl
  notAfter := rfl
  unsupported := rfl
  violation := fun _ => rfl
  statement := rfl
  publicKey := rfl
  basicConstraints := rfl
  keyUsage := rfl
  nameConstraints := rfl

variable {c d : Certificate}

theorem checkAuthority (h : c.Alike d) : c.checkAuthority = d.checkAuthority := by
  unfold Certificate.checkAuthority
  rw [h.basicConstraints, h.subject]

theorem checkMaySign (h : c.Alike d) : c.checkMaySign = d.checkMaySign := by
  unfold Certificate.checkMaySign rejectFor
  rw [h.keyUsage, h.subject]

end Alike

/-- Alike certificates have the same status under alike issuers. -/
theorem AlikeBelow.status {c d c' d' : Certificate} (h : c.AlikeBelow d) (h' : c'.Alike d')
    (holds : Signed → PublicKey → Bool) (crls : List Crl) (now : Int) :
    Revocation.status holds c c' crls now = Revocation.status holds d d' crls now := by
  have hfrom : ∀ (crls : List Crl) (status : RevocationStatus),
      Revocation.statusFrom holds c c' now status crls
        = Revocation.statusFrom holds d d' now status crls := by
    intro crls
    induction crls with
    | nil => exact fun _ => rfl
    | cons crl rest ih =>
        intro status
        simp only [Revocation.statusFrom, h.issuer, h.serial, h'.publicKey, ih]
  unfold Revocation.status Revocation.maySignCrls
  rw [h'.keyUsage, hfrom]

/-- A certificate looks as before from below when alternative names or
values that do not decode are left out, provided that they are of types
that may be critical, that its policies are not among them, and that the
names that constraints compare stay the same. -/
theorem alikeBelow_filter {c : Certificate} {keep : Extension → Bool}
    (hcontent : ∀ ext ∈ c.extensions, keep ext = false →
      (∃ names, ext.content = .subjectAltName names) ∨ ext.content = .undecodable)
    (hsupported : ∀ ext ∈ c.extensions, keep ext = false → ext.oid.dotted ∈ supportedCritical)
    (hpolicies : ∀ ext ∈ c.extensions, keep ext = false →
      ext.oid = Extension.certificatePoliciesOid →
        PolicyStatement.policiesOf c.extensions ≠ .error .undecodable)
    (hnames : ConstrainedNames.ofCertificate { c with extensions := c.extensions.filter keep }
      = ConstrainedNames.ofCertificate c) :
    AlikeBelow { c with extensions := c.extensions.filter keep } c where
  subject := rfl
  issuer := rfl
  serial := rfl
  notBefore := rfl
  notAfter := rfl
  unsupported := by
    unfold unsupported?
    rw [← List.head?_filter, ← List.head?_filter, List.filter_filter]
    refine congrArg List.head? (List.filter_congr fun ext hext => ?_)
    cases hkeep : keep ext with
    | false => simp [hsupported ext hext hkeep]
    | true => simp
  violation := fun constraints => by
    unfold NameConstraints.violation?
    rw [hnames]
  statement := PolicyStatement.ofCertificate_filter hcontent hpolicies

end Certificate

namespace Candidate

variable {cs ds : List Certificate}

theorem checkAuthorities_alike (h : cs.Forall₂ Certificate.Alike ds) :
    ∀ remaining, checkAuthorities remaining cs = checkAuthorities remaining ds := by
  induction h with
  | nil => exact fun _ => rfl
  | @cons c d _ _ hcd _ ih =>
      intro remaining
      simp only [checkAuthorities, hcd.checkAuthority, hcd.spend, hcd.checkMaySign, ih]

theorem isEmpty_alike {R : Certificate → Certificate → Prop} (h : cs.Forall₂ R ds) :
    cs.isEmpty = ds.isEmpty := by
  cases h with
  | nil => rfl
  | cons _ _ => rfl

theorem checkNames_alike (constraints : NameConstraints)
    (h : cs.Forall₂ Certificate.AlikeBelow ds) :
    checkNames constraints cs = checkNames constraints ds := by
  induction h with
  | nil => rfl
  | @cons c d _ _ hcd hrest ih =>
      unfold checkNames Certificate.rejectFor
      rw [hcd.isSelfIssued, isEmpty_alike hrest, hcd.violation, hcd.subject, ih]

theorem statements_alike (h : cs.Forall₂ Certificate.AlikeBelow ds) :
    cs.map PolicyStatement.ofCertificate = ds.map PolicyStatement.ofCertificate := by
  induction h with
  | nil => rfl
  | cons hcd _ ih => rw [List.map_cons, List.map_cons, hcd.statement, ih]

theorem forM_checkAlone_alike (now : Int) (h : cs.Forall₂ Certificate.AlikeBelow ds) :
    cs.forM (·.checkAlone now) = ds.forM (·.checkAlone now) := by
  induction h with
  | nil => rfl
  | @cons c d cs ds hcd _ ih =>
      show (c.checkAlone now >>= fun _ => cs.forM _) = d.checkAlone now >>= fun _ => ds.forM _
      rw [hcd.checkAlone, ih]

section Target

variable {target target' : Certificate}

/-- Candidates whose certificates look alike from below. -/
theorem forall₂_below (habove : cs.Forall₂ Certificate.Alike ds)
    (htarget : target.AlikeBelow target') :
    (cs ++ [target]).Forall₂ Certificate.AlikeBelow (ds ++ [target']) :=
  List.rel_append (habove.imp fun _ _ h => h.toAlikeBelow) (.cons htarget .nil)

/-- The name constraints of the target are not read. -/
theorem checkAllNames_alike (habove : cs.Forall₂ Certificate.Alike ds)
    (htarget : target.AlikeBelow target') :
    checkAllNames (cs ++ [target]) = checkAllNames (ds ++ [target']) := by
  induction habove with
  | nil => rfl
  | @cons c d cs ds hcd hrest ih =>
      have hbelow := forall₂_below hrest htarget
      cases hcs : cs ++ [target] with
      | nil => cases cs <;> cases hcs
      | cons next more =>
          cases hds : ds ++ [target'] with
          | nil => cases ds <;> cases hds
          | cons next' more' =>
              rw [hcs, hds] at ih hbelow
              rw [List.cons_append, List.cons_append, hcs, hds]
              unfold checkAllNames Certificate.rejectFor
              simp only [hcd.nameConstraints, hcd.subject, ih, checkNames_alike _ hbelow]

/-- The key of the target is not read. -/
theorem checkRevocation_alike (holds : Signed → PublicKey → Bool) (crls : List Crl) (now : Int)
    (anchor : Certificate) (habove : cs.Forall₂ Certificate.Alike ds)
    (htarget : target.AlikeBelow target') :
    checkRevocation holds crls now anchor (target :: cs)
      = checkRevocation holds crls now anchor (target' :: ds) := by
  induction habove generalizing target target' with
  | nil =>
      unfold checkRevocation Certificate.rejectFor
      rw [List.headD_nil, htarget.status (.refl anchor), htarget.subject]
  | @cons c d cs ds hcd hrest ih =>
      unfold checkRevocation Certificate.rejectFor
      rw [List.headD_cons, List.headD_cons, htarget.status hcd, htarget.subject,
        ih hcd.toAlikeBelow]

/-- Candidates that are alike entry by entry are judged alike, down to
the fault and what is logged. Of the targets it is enough that they look
alike from below. -/
theorem check_alikeBelow (holds : Signed → PublicKey → Bool) (crls : List Crl)
    (parameters : PathParameters) (anchor : Certificate) (habove : cs.Forall₂ Certificate.Alike ds)
    (htarget : target.AlikeBelow target') :
    check holds crls parameters cs target anchor
      = check holds crls parameters ds target' anchor := by
  have hpath := forall₂_below habove htarget
  have hchecks : checkPath cs target parameters = checkPath ds target' parameters := by
    unfold checkPath checkPolicies Certificate.rejectFor
    simp only [forM_checkAlone_alike parameters.now hpath, checkAuthorities_alike habove,
      checkAllNames_alike habove htarget, statements_alike hpath, htarget.subject]
  unfold check
  rw [hchecks, checkRevocation_alike holds crls parameters.now anchor (List.rel_reverse habove)
    htarget]

theorem check_alike (holds : Signed → PublicKey → Bool) (crls : List Crl)
    (parameters : PathParameters) (anchor : Certificate) (habove : cs.Forall₂ Certificate.Alike ds)
    (htarget : target.Alike target') :
    check holds crls parameters cs target anchor = check holds crls parameters ds target' anchor :=
  check_alikeBelow holds crls parameters anchor habove htarget.toAlikeBelow

end Target

end Candidate

end TrustPath
