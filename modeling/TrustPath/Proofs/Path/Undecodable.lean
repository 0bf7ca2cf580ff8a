import TrustPath.Proofs.Path.AlternativeNames
import TrustPath.Proofs.Policy.Exactness

/-!
# Values that do not decode

Path validation asks of a critical extension only that its type is one
that it understands. Whether the value decodes is noticed by the check
that reads it, if there is one, and what each check makes of it differs.

Some values that do not decode count against a candidate
(`Candidate.Obscured`): the policies of any certificate, unless policies
that do decode come before them, and of a certificate above the target
the basic constraints, the key usage and the name constraints. Every
other one is dropped, critical or not: the candidate is checked as if it
were not there (`Candidate.check_undecodable`). So a constraint that
does not decode may be lost although its issuer marked it critical
(`Candidate.sample_drops_critical`).
-/

namespace TrustPath

namespace Extension

/-- The value does not decode. -/
def isUndecodable (ext : Extension) : Bool :=
  match ext.content with
  | .undecodable => true
  | _ => false

theorem isUndecodable_iff {ext : Extension} :
    ext.isUndecodable = true ↔ ext.content = .undecodable := by
  unfold isUndecodable
  cases ext.content <;> simp

/-- The types that are read of every certificate above a target. -/
def ofAuthorities : List Oid := [basicConstraintsOid, keyUsageOid, nameConstraintsOid]

/-- Every type whose values are decoded may be critical. -/
theorem supported_of_contentReader {oid : Oid} (h : (contentReader? oid).isSome = true) :
    oid.dotted ∈ Certificate.supportedCritical := by
  unfold contentReader? at h
  split_ifs at h with hbasic husage halt hnames hpolicies hmappings hconstraints hinhibit
  · exact hbasic ▸ by decide
  · exact husage ▸ by decide
  · exact halt ▸ by decide
  · exact hnames ▸ by decide
  · exact hpolicies ▸ by decide
  · exact hmappings ▸ by decide
  · exact hconstraints ▸ by decide
  · exact hinhibit ▸ by decide
  · cases h

theorem supported_of_undecodable {ext : Extension} (h : ext.IsDecoded)
    (hnot : ext.content = .undecodable) : ext.oid.dotted ∈ Certificate.supportedCritical := by
  rcases h.content with hsays | ⟨-, hread⟩ | ⟨hother, -⟩
  · rw [hnot] at hsays
    cases hsays
  · exact supported_of_contentReader hread
  · rw [hnot] at hother
    cases hother

/-- An extension that is there is found, unless it is there twice. -/
theorem uniqueExtension_of_mem {extensions : List Extension} {ext : Extension}
    (h : ext ∈ extensions) :
    uniqueExtension extensions ext.oid = .ok (some ext)
      ∨ uniqueExtension extensions ext.oid = .error .duplicate := by
  have hmem : ext ∈ extensions.filter (·.oid = ext.oid) := by simp [h]
  unfold uniqueExtension
  generalize extensions.filter (·.oid = ext.oid) = found at hmem ⊢
  rcases found with _ | ⟨first, _ | ⟨second, more⟩⟩
  · exact absurd hmem List.not_mem_nil
  · left
    rw [List.mem_singleton.mp hmem]
  · exact Or.inr rfl

/-- What an accessor does not make of an extension, it does not make of
the certificate. -/
theorem bind_ne_ok {α : Type} {extensions : List Extension} {ext : Extension}
    (h : ext ∈ extensions) {read : Option Extension → Except ExtensionFault α} {a : α}
    (hread : read (some ext) ≠ .ok a) : (uniqueExtension extensions ext.oid >>= read) ≠ .ok a := by
  rcases uniqueExtension_of_mem h with hunique | hunique
  · rw [hunique]
    exact hread
  · rw [hunique]
    exact nofun

end Extension

namespace PolicyStatement

/-- Policies cannot be read exactly when the first extension that has
their type does not decode. -/
theorem policiesOf_eq_undecodable {extensions : List Extension}
    (h : ∀ ext ∈ extensions, ext.IsDecoded) :
    policiesOf extensions = .error .undecodable ↔
      (extensions.find? (·.oid = Extension.certificatePoliciesOid)).any (·.isUndecodable)
        = true := by
  induction extensions with
  | nil => simp [policiesOf]
  | cons ext rest ih =>
      obtain ⟨hext, hrest⟩ := List.forall_mem_cons.mp h
      have ih := ih hrest
      by_cases hoid : ext.oid = Extension.certificatePoliciesOid
      · rw [List.find?_cons_of_pos (by simpa using hoid), policiesOf, Option.any_some,
          Extension.isUndecodable]
        rcases hext.content with hsays | ⟨hnot, -⟩ | ⟨-, hunread⟩
        · rw [hoid] at hsays
          obtain ⟨policies, hpolicies⟩ := ExtensionContent.oid?_eq_certificatePolicies.mp hsays
          simp [hpolicies]
        · simp [hnot, hoid]
        · rw [hoid] at hunread
          cases hunread
      · rw [List.find?_cons_of_neg (by simpa using hoid), ← ih, policiesOf]
        cases hcontent : ext.content with
        | certificatePolicies policies =>
            rcases hext.content with hsays | ⟨hnot, -⟩ | ⟨hother, -⟩
            · rw [hcontent] at hsays
              exact absurd (Option.some.inj hsays).symm hoid
            · rw [hcontent] at hnot
              cases hnot
            · rw [hcontent] at hother
              cases hother
        | undecodable => simp [hoid]
        | _ => rfl

end PolicyStatement

namespace Certificate

/-- Something that an authority has to show does not decode. -/
def hidesAuthority (c : Certificate) : Bool :=
  c.extensions.any fun ext => ext.isUndecodable && decide (ext.oid ∈ Extension.ofAuthorities)

/-- The first extension with policies does not decode. -/
def hidesPolicies (c : Certificate) : Bool :=
  (c.extensions.find? (·.oid = Extension.certificatePoliciesOid)).any (·.isUndecodable)

/-- The certificate without the extensions that do not decode. -/
def decodedPart (c : Certificate) : Certificate :=
  { c with extensions := c.extensions.filter fun ext => !ext.isUndecodable }

variable {c : Certificate}

theorem hidesAuthority_iff :
    c.hidesAuthority = true ↔
      ∃ oid ∈ Extension.ofAuthorities, ∃ critical,
        ⟨oid, critical, .undecodable⟩ ∈ c.extensions := by
  simp only [hidesAuthority, List.any_eq_true, Bool.and_eq_true, decide_eq_true_eq,
    Extension.isUndecodable_iff]
  constructor
  · rintro ⟨⟨oid, critical, content⟩, hmem, rfl, hoid⟩
    exact ⟨oid, hoid, critical, hmem⟩
  · rintro ⟨oid, hoid, critical, hmem⟩
    exact ⟨_, hmem, rfl, hoid⟩

theorem hidesPolicies_iff (h : c.IsDecoded) :
    c.hidesPolicies = true ↔ PolicyStatement.policiesOf c.extensions = .error .undecodable :=
  (PolicyStatement.policiesOf_eq_undecodable h).symm

/-! ## What the accessors make of them -/

/-- Basic constraints that do not decode are taken for none. -/
theorem basicConstraints_ne_some {critical : Bool}
    (h : ⟨Extension.basicConstraintsOid, critical, .undecodable⟩ ∈ c.extensions)
    (found : Bool × Option Nat) : c.basicConstraints ≠ .ok (some found) :=
  Extension.bind_ne_ok h nofun

theorem keyUsage_ne_ok {critical : Bool}
    (h : ⟨Extension.keyUsageOid, critical, .undecodable⟩ ∈ c.extensions)
    (found : Option (Bool × Bool)) : c.keyUsage ≠ .ok found :=
  Extension.bind_ne_ok h nofun

theorem nameConstraints_ne_ok {critical : Bool}
    (h : ⟨Extension.nameConstraintsOid, critical, .undecodable⟩ ∈ c.extensions)
    (found : Option NameConstraints) : c.nameConstraints ≠ .ok found :=
  Extension.bind_ne_ok h nofun

theorem subjectAltName_ne_ok {critical : Bool}
    (h : ⟨Extension.subjectAltNameOid, critical, .undecodable⟩ ∈ c.extensions)
    (found : Option (List GeneralName)) : c.subjectAltName ≠ .ok found :=
  Extension.bind_ne_ok h nofun

/-! ## Certificates without them -/

/-- What the decoded part leaves out does not decode. -/
theorem left_out {ext : Extension} (h : (!ext.isUndecodable) = false) :
    ext = ⟨ext.oid, ext.critical, .undecodable⟩ := by
  rw [Bool.not_eq_false', Extension.isUndecodable_iff] at h
  rw [← h]

theorem alikeBelow_decodedPart (h : c.IsDecoded) (hpolicies : c.hidesPolicies = false)
    (hnames : c.hidesAltNames = false) : c.decodedPart.AlikeBelow c := by
  refine alikeBelow_filter (fun ext _ hext => ?_) (fun ext hmem hext => ?_)
    (fun ext _ _ _ hfault => ?_) ?_
  · right
    rw [left_out hext]
  · exact Extension.supported_of_undecodable (h ext hmem) (by rw [left_out hext])
  · rw [(hidesPolicies_iff h).mpr hfault] at hpolicies
    cases hpolicies
  · have hsame : Certificate.subjectAltName
        { c with extensions := c.extensions.filter fun ext => !ext.isUndecodable }
          = c.subjectAltName := by
      unfold subjectAltName
      rw [Extension.uniqueExtension_filter]
      intro ext hmem hext hoid
      rw [left_out hext, hoid] at hmem
      unfold hidesAltNames at hnames
      split at hnames
      · next names heq => exact subjectAltName_ne_ok hmem names heq
      · cases hnames
    unfold ConstrainedNames.ofCertificate
    rw [hsame]

theorem alike_decodedPart (h : c.IsDecoded) (hpolicies : c.hidesPolicies = false)
    (hnames : c.hidesAltNames = false) (hauthority : c.hidesAuthority = false) :
    c.decodedPart.Alike c := by
  have hunique : ∀ oid ∈ Extension.ofAuthorities,
      uniqueExtension c.decodedPart.extensions oid = uniqueExtension c.extensions oid := by
    intro oid hoid
    refine Extension.uniqueExtension_filter fun ext hmem hext heq => ?_
    rw [left_out hext, heq] at hmem
    rw [hidesAuthority_iff.mpr ⟨oid, hoid, ext.critical, hmem⟩] at hauthority
    cases hauthority
  refine { alikeBelow_decodedPart h hpolicies hnames with
    publicKey := rfl, basicConstraints := ?_, keyUsage := ?_, nameConstraints := ?_ }
  · unfold basicConstraints
    rw [hunique _ (by decide)]
  · unfold keyUsage
    rw [hunique _ (by decide)]
  · unfold nameConstraints
    rw [hunique _ (by decide)]

/-! ## Legible certificates hide nothing more -/

theorem mem_of_mem_legible {ext : Extension} (h : ext ∈ c.legible.extensions) :
    ext ∈ c.extensions := by
  unfold legible at h
  split at h
  · exact List.mem_of_mem_filter h
  · exact h

theorem hidesAltNames_legible (c : Certificate) : c.legible.hidesAltNames = false := by
  rw [hidesAltNames, subjectAltName_legible]
  unfold hidesAltNames
  cases c.subjectAltName with
  | ok names => rfl
  | error fault => rfl

theorem hidesPolicies_legible (h : c.IsDecoded) : c.legible.hidesPolicies = c.hidesPolicies := by
  have hlegible : c.legible.IsDecoded := fun ext hext => h ext (mem_of_mem_legible hext)
  have hsame : PolicyStatement.policiesOf c.legible.extensions
      = PolicyStatement.policiesOf c.extensions :=
    congrArg PolicyStatement.policies (alike_legible h).statement
  rw [Bool.eq_iff_iff, hidesPolicies_iff hlegible, hidesPolicies_iff h, hsame]

theorem hidesAuthority_legible (h : c.hidesAuthority = false) :
    c.legible.hidesAuthority = false := by
  by_contra hhides
  rw [Bool.not_eq_false, hidesAuthority_iff] at hhides
  obtain ⟨oid, hoid, critical, hmem⟩ := hhides
  rw [hidesAuthority_iff.mpr ⟨oid, hoid, critical, mem_of_mem_legible hmem⟩] at h
  cases h

end Certificate

namespace Candidate

/-! ## What is decided about values that do not decode -/

variable {holds : Signed → PublicKey → Bool} {crls : List Crl} {parameters : PathParameters}
  {above : List Certificate} {target anchor : Certificate}

/-- A value that does not decode stands where the checks of a candidate
read it. -/
def Obscured (above : List Certificate) (target : Certificate) : Prop :=
  (∃ c ∈ above, c.hidesAuthority = true) ∨ ∃ c ∈ target :: above, c.hidesPolicies = true

/-- Policies are processed only where all can be read. -/
theorem readable_of_processPolicies {path : List Certificate} {parameters : PolicyParameters}
    (h : processPolicies (path.map PolicyStatement.ofCertificate) parameters = .ok ()) :
    ∀ c ∈ path, ∃ policies, PolicyStatement.policiesOf c.extensions = .ok policies := by
  cases path with
  | nil => exact fun c hc => absurd hc List.not_mem_nil
  | cons first rest =>
      have hnamed : ∀ s ∈ (first :: rest).map PolicyStatement.ofCertificate, s.MapsNamed := by
        intro s hs
        obtain ⟨c, -, rfl⟩ := List.mem_map.mp hs
        exact PolicyStatement.mapsNamed_ofCertificate c
      have hsucceeds := (processPolicies_iff _ _ hnamed parameters).mp h
      intro c hc
      exact (Rfc5280.readable_of_succeeds hsucceeds).1 _ (List.mem_map_of_mem hc)

/-- Nothing that the checks read is hidden in an acceptable candidate. -/
theorem Acceptable.not_obscured (hdecoded : ∀ c ∈ target :: above, c.IsDecoded)
    (h : Acceptable holds crls parameters target above.reverse anchor) :
    ¬ Obscured above target := by
  rintro (⟨c, hc, hhides⟩ | ⟨c, hc, hhides⟩)
  · have hissuer : c ∈ above.reverse := List.mem_reverse.mpr hc
    obtain ⟨oid, hoid, critical, hmem⟩ := Certificate.hidesAuthority_iff.mp hhides
    simp only [Extension.ofAuthorities, List.mem_cons, List.not_mem_nil, or_false] at hoid
    rcases hoid with rfl | rfl | rfl
    · obtain ⟨limit, hlimit⟩ := h.authorities c hissuer
      exact Certificate.basicConstraints_ne_some hmem _ hlimit
    · rcases h.signers c hissuer with hnone | ⟨crlSign, hsome⟩
      · exact Certificate.keyUsage_ne_ok hmem _ hnone
      · exact Certificate.keyUsage_ne_ok hmem _ hsome
    · obtain ⟨below, up, hsplit⟩ := List.append_of_mem hissuer
      obtain ⟨constraints, hconstraints, -⟩ := h.names below c up hsplit
      exact Certificate.nameConstraints_ne_ok hmem _ hconstraints
  · have hpath : c ∈ (target :: above.reverse).reverse := by simpa [or_comm] using hc
    obtain ⟨policies, hpolicies⟩ := readable_of_processPolicies h.policies c hpath
    rw [(Certificate.hidesPolicies_iff (hdecoded c hc)).mp hhides] at hpolicies
    cases hpolicies

/-- A candidate of which the checks read nothing that does not decode is
checked as if everything that cannot be read were taken off. Hidden
alternative names go first, so that those that are left are all there
is. -/
theorem check_decodedPart (hread : ∀ c ∈ target :: above, c.IsDecoded)
    (hclear : ¬ Obscured above target) :
    check holds crls parameters (above.map fun c => c.legible.decodedPart)
        target.legible.decodedPart anchor
      = check holds crls parameters above target anchor := by
  have hauthority : ∀ c ∈ above, c.hidesAuthority = false := by
    intro c hc
    exact Bool.eq_false_iff.mpr fun hhides => hclear (Or.inl ⟨c, hc, hhides⟩)
  have hlegible : ∀ c ∈ target :: above, c.legible.IsDecoded ∧ c.legible.hidesPolicies = false := by
    intro c hc
    refine ⟨fun ext hext => hread c hc ext (Certificate.mem_of_mem_legible hext), ?_⟩
    rw [Certificate.hidesPolicies_legible (hread c hc)]
    exact Bool.eq_false_iff.mpr fun hhides => hclear (Or.inr ⟨c, hc, hhides⟩)
  obtain ⟨htarget, habove⟩ := List.forall_mem_cons.mp hlegible
  obtain ⟨hreadTarget, hreadAbove⟩ := List.forall_mem_cons.mp hread
  have hinner : (above.map fun c => c.legible.decodedPart).Forall₂ Certificate.Alike
      (above.map Certificate.legible) := by
    rw [List.forall₂_map_left_iff, List.forall₂_map_right_iff, List.forall₂_same]
    intro c hc
    exact Certificate.alike_decodedPart (habove c hc).1 (habove c hc).2
      (Certificate.hidesAltNames_legible c) (Certificate.hidesAuthority_legible (hauthority c hc))
  have houter : (above.map Certificate.legible).Forall₂ Certificate.Alike above := by
    rw [List.forall₂_map_left_iff, List.forall₂_same]
    exact fun c hc => Certificate.alike_legible (hreadAbove c hc)
  have hend : target.legible.decodedPart.AlikeBelow target.legible :=
    Certificate.alikeBelow_decodedPart htarget.1 htarget.2 (Certificate.hidesAltNames_legible target)
  calc check holds crls parameters (above.map fun c => c.legible.decodedPart)
        target.legible.decodedPart anchor
      = check holds crls parameters (above.map Certificate.legible) target.legible anchor :=
        check_alikeBelow holds crls parameters anchor hinner hend
    _ = check holds crls parameters above target anchor :=
        check_alike holds crls parameters anchor houter (Certificate.alike_legible hreadTarget)

/-- A value that does not decode rejects a candidate if the checks read
it there: the policies of any certificate, if no policies that decode
come before them, and the basic constraints, the key usage and the name
constraints of a certificate above the target. Otherwise it makes no
difference, critical or not: the candidate is checked as if everything
that cannot be read were taken off. -/
theorem check_undecodable
    (hdecoded : ∀ c ∈ target :: above, ∃ der, Certificate.decode der = .ok c) :
    (Obscured above target →
        ∃ rejection, (check holds crls parameters above target anchor).1 = .error rejection)
      ∧ (¬ Obscured above target →
          check holds crls parameters (above.map fun c => c.legible.decodedPart)
              target.legible.decodedPart anchor
            = check holds crls parameters above target anchor) := by
  have hread : ∀ c ∈ target :: above, c.IsDecoded := by
    intro c hc
    obtain ⟨der, hder⟩ := hdecoded c hc
    exact Certificate.isDecoded_of_decode hder
  refine ⟨fun hobscured => ?_, check_decodedPart hread⟩
  cases hcheck : (check holds crls parameters above target anchor).1 with
  | error rejection => exact ⟨rejection, rfl⟩
  | ok _ => exact absurd hobscured ((check_eq_ok.mp hcheck).not_obscured hread)

/-- An authority under the sample anchor. Its policy constraints are critical
and do not decode. -/
def sampleLimited : Octets :=
  Octets.ofNat 36 0x3081f33081a6a003020102020102300506032b6570300f310d300b06035504030c04526f
    ++ Octets.ofNat 36 0x6f74301e170d3030303130313030303030305a170d3430303130313030303030305a3015
    ++ Octets.ofNat 36 0x3113301106035504030c0a4c696d69746564204341302a300506032b6570032100526d62
    ++ Octets.ofNat 36 0x4d9f4e93c9178c2d076bd20c5ee831cc50791554cc5ac7affac4fe90e1a321301f300f06
    ++ Octets.ofNat 36 0x03551d130101ff040530030101ff300c0603551d240101ff04020500300506032b657003
    ++ Octets.ofNat 36 0x4100128a6107a3a4f030feac8e565eee3520f1663adcdb6ce00678c5125a642ad4a11caf
    ++ Octets.ofNat 30 0x5c755f09ea1bf483391918dd0629af01bfa6d30bc2b913a33c72a43bbe01

/-- A certificate under that authority. Its key usage is critical and
does not decode. -/
def sampleUnused : Octets :=
  Octets.ofNat 36 0x3081e2308195a003020102020103300506032b657030153113301106035504030c0a4c69
    ++ Octets.ofNat 36 0x6d69746564204341301e170d3030303130313030303030305a170d343030313031303030
    ++ Octets.ofNat 36 0x3030305a300f310d300b06035504030c046c656166302a300506032b6570032100f786ae
    ++ Octets.ofNat 36 0x99ce4a18ce43074053ec89fa62a809f026fd643b83692cc899d4b42f86a310300e300c06
    ++ Octets.ofNat 36 0x03551d0f0101ff04020500300506032b65700341007e41c2c319c8bb8d0d6d48c81136f3
    ++ Octets.ofNat 36 0x4ce711f989bdccb92eb9b2f4c89b4d65bb44e14344631ab06697cedb3a039b6d3aa3905a
    ++ Octets.ofNat 13 0xc15d1191aaf1302aecd2424405

theorem limited_verdict :
    succeeds (Certificate.decode sampleAnchor) (fun anchor =>
      succeeds (Certificate.decode sampleLimited) fun ca =>
        succeeds (Certificate.decode sampleUnused) fun target =>
          (ca.extensions.any fun ext => ext.critical && ext.isUndecodable)
            && !ca.hidesAuthority && !ca.hidesPolicies && !target.hidesPolicies
            && target.hidesAuthority
            && succeeds (check Signed.holdsUnder [] sampleParameters [ca] target anchor).1
                fun _ => true) = true := by
  decide +kernel

/-- Policy constraints that do not decode are lost, although they are
critical. -/
theorem sample_drops_critical :
    ∃ anchor ca target ext,
      Certificate.decode sampleAnchor = .ok anchor
        ∧ Certificate.decode sampleLimited = .ok ca
        ∧ Certificate.decode sampleUnused = .ok target
        ∧ ext ∈ ca.extensions ∧ ext.critical = true ∧ ext.content = .undecodable
        ∧ (check Signed.holdsUnder [] sampleParameters [ca] target anchor).1 = .ok () := by
  have h := limited_verdict
  simp only [succeeds_iff, Bool.and_eq_true, List.any_eq_true, Extension.isUndecodable_iff] at h
  obtain ⟨anchor, hanchor, ca, hca, target, htarget, ⟨⟨⟨⟨⟨ext, hmem, hcritical, hnot⟩, -⟩, -⟩, -⟩,
    -⟩, ⟨⟩, haccepted, -⟩ := h
  exact ⟨anchor, ca, target, ext, hanchor, hca, htarget, hmem, hcritical, hnot, haccepted⟩

/-- The samples are checked as if neither extension were there. Were the
second one an authority, its key usage would count. -/
theorem sample_checked_decoded :
    ∃ anchor ca target,
      Certificate.decode sampleLimited = .ok ca ∧ Certificate.decode sampleUnused = .ok target
        ∧ check Signed.holdsUnder [] sampleParameters [ca.legible.decodedPart]
              target.legible.decodedPart anchor
            = check Signed.holdsUnder [] sampleParameters [ca] target anchor
        ∧ ∃ rejection, (check Signed.holdsUnder [] sampleParameters [target] ca anchor).1
            = .error rejection := by
  have h := limited_verdict
  simp only [succeeds_iff, Bool.and_eq_true, Bool.not_eq_true'] at h
  obtain ⟨anchor, -, ca, hca, target, htarget, ⟨⟨⟨⟨-, hauthority⟩, hpolicies⟩, hpoliciesTarget⟩,
    hhides⟩, -⟩ := h
  have hdecoded : ∀ c ∈ [target, ca], ∃ der, Certificate.decode der = .ok c :=
    List.forall_mem_cons.mpr ⟨⟨_, htarget⟩, List.forall_mem_singleton.mpr ⟨_, hca⟩⟩
  have hswapped : ∀ c ∈ [ca, target], ∃ der, Certificate.decode der = .ok c :=
    List.forall_mem_cons.mpr ⟨⟨_, hca⟩, List.forall_mem_singleton.mpr ⟨_, htarget⟩⟩
  refine ⟨anchor, ca, target, hca, htarget,
    (@check_undecodable Signed.holdsUnder [] sampleParameters [ca] target anchor hdecoded).2 ?_,
    (@check_undecodable Signed.holdsUnder [] sampleParameters [target] ca anchor hswapped).1 ?_⟩
  · simp [Obscured, hauthority, hpolicies, hpoliciesTarget]
  · exact Or.inl ⟨target, List.mem_singleton_self target, hhides⟩

end Candidate

end TrustPath
