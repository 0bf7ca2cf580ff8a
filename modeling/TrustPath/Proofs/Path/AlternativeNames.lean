import TrustPath.Proofs.Decoding
import TrustPath.Proofs.Path.Alike
import TrustPath.Signature.Verify

/-!
# Alternative names that cannot be read

Name constraints speak of the alternative names of a certificate too. An
accessor that fails, because the extension occurs twice or its value does
not decode, gives no names, and here, unlike elsewhere on a path, that
counts as having none (`Candidate.sample_escapes`).

What is decided instead is exact: a candidate is checked as if such
extensions were taken off its certificates (`Certificate.legible`), and
of an accepted one the names that are left keep every constraint above
them (`Candidate.check_legible`). No check but that of names looks at
alternative names, so the certificate with and without them looks alike
to each check (`Certificate.alike_legible`).
-/

namespace TrustPath

/-! ## Extensions without the alternative names -/

namespace Extension

/-- What alternative names can say. -/
theorem content_of_altNames {ext : Extension} (h : ext.IsDecoded)
    (hoid : ext.oid = subjectAltNameOid) :
    (∃ names, ext.content = .subjectAltName names) ∨ ext.content = .undecodable := by
  rcases h.content with hsays | ⟨hnot, -⟩ | ⟨-, hunread⟩
  · rw [hoid] at hsays
    exact Or.inl (ExtensionContent.oid?_eq_subjectAltName.mp hsays)
  · exact Or.inr hnot
  · rw [hoid] at hunread
    cases hunread

/-- Extensions without the alternative names. -/
def withoutAltNames (extensions : List Extension) : List Extension :=
  extensions.filter fun ext => ext.oid ≠ subjectAltNameOid

end Extension

/-! ## Legible certificates -/

namespace Certificate

open Extension (withoutAltNames subjectAltNameOid)

/-- The alternative names cannot be read: they occur twice, or do not
decode. -/
def hidesAltNames (c : Certificate) : Bool :=
  match c.subjectAltName with
  | .ok _ => false
  | .error _ => true

/-- The certificate without alternative names that cannot be read. -/
def legible (c : Certificate) : Certificate :=
  if c.hidesAltNames then { c with extensions := withoutAltNames c.extensions } else c

theorem subjectAltName_withoutAltNames (c : Certificate) :
    Certificate.subjectAltName { c with extensions := withoutAltNames c.extensions } = .ok none := by
  have hnone : (withoutAltNames c.extensions).filter (·.oid = subjectAltNameOid) = [] := by
    rw [withoutAltNames, List.filter_filter, List.filter_eq_nil_iff]
    intro ext _
    simp
  rw [Certificate.subjectAltName, uniqueExtension, hnone]
  rfl

/-- The alternative names of a legible certificate can be read: they are
those of the certificate, or none. -/
theorem subjectAltName_legible (c : Certificate) :
    c.legible.subjectAltName = if c.hidesAltNames then .ok none else c.subjectAltName := by
  unfold legible
  split
  · exact subjectAltName_withoutAltNames c
  · rfl

/-- No check of a candidate misses the names that cannot be read. -/
theorem alike_legible {c : Certificate} (h : c.IsDecoded) : c.legible.Alike c := by
  unfold legible
  split
  · next hhides =>
    have hleft : ∀ ext : Extension, decide (ext.oid ≠ subjectAltNameOid) = false →
        ext.oid = subjectAltNameOid := by
      intro ext hext
      exact Decidable.not_not.mp (of_decide_eq_false hext)
    have hunique : ∀ oid, oid ≠ subjectAltNameOid →
        uniqueExtension (withoutAltNames c.extensions) oid = uniqueExtension c.extensions oid := by
      intro oid hoid
      exact Extension.uniqueExtension_filter fun ext _ hext => hleft ext hext ▸ hoid.symm
    have hbelow : AlikeBelow { c with extensions := withoutAltNames c.extensions } c := by
      refine alikeBelow_filter (fun ext hmem hext => ?_) (fun ext _ hext => ?_)
        (fun ext _ hext hpolicies => ?_) ?_
      · exact Extension.content_of_altNames (h ext hmem) (hleft ext hext)
      · rw [hleft ext hext]
        decide
      · rw [hleft ext hext] at hpolicies
        exact absurd hpolicies (by decide)
      · obtain ⟨fault, hfault⟩ : ∃ fault, c.subjectAltName = .error fault := by
          unfold hidesAltNames at hhides
          split at hhides
          · cases hhides
          · next fault heq => exact ⟨fault, heq⟩
        unfold ConstrainedNames.ofCertificate
        rw [← withoutAltNames, subjectAltName_withoutAltNames, hfault]
    refine { hbelow with publicKey := rfl, basicConstraints := ?_, keyUsage := ?_,
                         nameConstraints := ?_ }
    · unfold Certificate.basicConstraints
      rw [hunique _ (by decide)]
    · unfold Certificate.keyUsage
      rw [hunique _ (by decide)]
    · unfold Certificate.nameConstraints
      rw [hunique _ (by decide)]
  · exact .refl c

end Certificate

namespace Candidate

/-! ## What is decided about names that cannot be read -/

/-- A candidate is checked as if the alternative names that cannot be
read were taken off. If it is accepted, the names that are left of a
certificate below an authority with constraints, itself the target or
one that did not issue itself, keep the constraints. -/
theorem check_legible {holds : Signed → PublicKey → Bool} {crls : List Crl}
    {parameters : PathParameters} {above : List Certificate} {target anchor : Certificate}
    (hdecoded : ∀ c ∈ target :: above, ∃ der, Certificate.decode der = .ok c) :
    check holds crls parameters (above.map Certificate.legible) target.legible anchor
        = check holds crls parameters above target anchor
      ∧ ((check holds crls parameters above target anchor).1 = .ok () →
          ∀ nearer ca between constraints, above = nearer ++ ca :: between →
            ca.nameConstraints = .ok (some constraints) →
            ∀ c, c = target ∨ (c ∈ between ∧ c.isSelfIssued = false) →
              (∃ names, c.legible.subjectAltName = .ok names)
                ∧ constraints.violation? c.legible = none) := by
  have halike : ∀ c ∈ target :: above, c.legible.Alike c := by
    intro c hc
    obtain ⟨der, hder⟩ := hdecoded c hc
    exact Certificate.alike_legible (Certificate.isDecoded_of_decode hder)
  obtain ⟨htarget, habove⟩ := List.forall_mem_cons.mp halike
  have hmap : (above.map Certificate.legible).Forall₂ Certificate.Alike above := by
    rw [List.forall₂_map_left_iff, List.forall₂_same]
    exact habove
  refine ⟨check_alike holds crls parameters anchor hmap htarget, ?_⟩
  intro haccepted nearer ca between constraints hsplit hconstraints c hc
  have hacceptable := check_eq_ok.mp haccepted
  obtain ⟨found, hfound, hkept⟩ :=
    hacceptable.names between.reverse ca nearer.reverse (by simp [hsplit])
  obtain rfl : found = some constraints := Except.ok.inj (hfound.symm.trans hconstraints)
  obtain ⟨hkeptTarget, hkeptBetween⟩ := hkept constraints rfl
  have hmem : c ∈ target :: above := by
    rcases hc with rfl | ⟨hc, -⟩
    · exact List.mem_cons_self ..
    · rw [hsplit]
      simp [hc]
  refine ⟨?_, ?_⟩
  · rw [Certificate.subjectAltName_legible]
    unfold Certificate.hidesAltNames
    cases c.subjectAltName with
    | ok names => exact ⟨names, rfl⟩
    | error fault => exact ⟨none, rfl⟩
  · rw [(halike c hmem).violation]
    rcases hc with rfl | ⟨hc, hissued⟩
    · exact hkeptTarget
    · exact hkeptBetween c (List.mem_reverse.mpr hc) hissued

/-- A certification authority that issued itself. -/
def sampleAnchor : Octets :=
  Octets.ofNat 36 0x3081df308192a003020102020101300506032b6570300f310d300b06035504030c04526f
    ++ Octets.ofNat 36 0x6f74301e170d3030303130313030303030305a170d3430303130313030303030305a300f
    ++ Octets.ofNat 36 0x310d300b06035504030c04526f6f74302a300506032b657003210076b5a4a568be0a040f
    ++ Octets.ofNat 36 0x181de64d120e48b30a64bae844edd1b5a3ac246df8615aa3133011300f0603551d130101
    ++ Octets.ofNat 36 0xff040530030101ff300506032b6570034100eb2d774913a697568702f73ed4310bf09a9e
    ++ Octets.ofNat 36 0xd999dfc63db29df0217433df6f7c5a7a14bd04d023d717c43711a3c4454cb44f6db0c850
    ++ Octets.ofNat 10 0x6a8c2a90a7cc21049204

/-- An authority under it that permits the hosts of one domain. -/
def sampleAuthority : Octets :=
  Octets.ofNat 36 0x308201083081bba003020102020102300506032b6570300f310d300b06035504030c0452
    ++ Octets.ofNat 36 0x6f6f74301e170d3030303130313030303030305a170d3430303130313030303030305a30
    ++ Octets.ofNat 36 0x193117301506035504030c0e436f6e73747261696e6564204341302a300506032b657003
    ++ Octets.ofNat 36 0x2100526d624d9f4e93c9178c2d076bd20c5ee831cc50791554cc5ac7affac4fe90e1a332
    ++ Octets.ofNat 36 0x3030300f0603551d130101ff040530030101ff301d0603551d1e0101ff04133011a00f30
    ++ Octets.ofNat 36 0x0d820b6578616d706c652e6f7267300506032b6570034100985f7c9a311a91d534365318
    ++ Octets.ofNat 36 0x8c2bf9a0511755b9d5d26c74b6015bbec77e3c263364311613627d8b7dcab0632df11969
    ++ Octets.ofNat 16 0xefc781bbb017223d5430b85363553104

/-- A certificate under that authority whose alternative names, twice the same host of another
domain, cannot be read. -/
def sampleHidden : Octets :=
  Octets.ofNat 36 0x308201043081b7a003020102020103300506032b657030193117301506035504030c0e43
    ++ Octets.ofNat 36 0x6f6e73747261696e6564204341301e170d3030303130313030303030305a170d34303031
    ++ Octets.ofNat 36 0x30313030303030305a300f310d300b06035504030c046c656166302a300506032b657003
    ++ Octets.ofNat 36 0x2100f786ae99ce4a18ce43074053ec89fa62a809f026fd643b83692cc899d4b42f86a32e
    ++ Octets.ofNat 36 0x302c30140603551d11040d300b82096576696c2e7465737430140603551d11040d300b82
    ++ Octets.ofNat 36 0x096576696c2e74657374300506032b657003410042ec02d0f88cd4f795276e6ba65228f3
    ++ Octets.ofNat 36 0x1234c7c3d1464c5f28531836c2cd43e2206d25d5286fc433593ddb3cc7541070a32eb41b
    ++ Octets.ofNat 12 0xacb710a0e93408b1d4a57b01

/-- Parameters for the samples: the time lies in all three validities. -/
def sampleParameters : PathParameters := ⟨10, false, ⟨.empty, false, false, false⟩, 1000000000⟩

theorem sample_verdict :
    succeeds (Certificate.decode sampleAnchor) (fun anchor =>
      succeeds (Certificate.decode sampleAuthority) fun ca =>
        succeeds (Certificate.decode sampleHidden) fun target =>
          succeeds ca.nameConstraints (·.isSome) && target.hidesAltNames
            && succeeds (check Signed.holdsUnder [] sampleParameters [ca] target anchor).1
                fun _ => true) = true := by
  decide +kernel

/-- An authority with readable name constraints does not keep out a
target whose alternative names cannot be read. -/
theorem sample_escapes :
    ∃ anchor ca target constraints,
      Certificate.decode sampleAnchor = .ok anchor
        ∧ Certificate.decode sampleAuthority = .ok ca
        ∧ Certificate.decode sampleHidden = .ok target
        ∧ ca.nameConstraints = .ok (some constraints)
        ∧ target.hidesAltNames = true
        ∧ (check Signed.holdsUnder [] sampleParameters [ca] target anchor).1 = .ok () := by
  have h := sample_verdict
  simp only [succeeds_iff, Bool.and_eq_true] at h
  obtain ⟨anchor, hanchor, ca, hca, target, htarget, ⟨⟨found, hfound, hsome⟩, hhides⟩, ⟨⟩,
    haccepted, -⟩ := h
  obtain ⟨constraints, rfl⟩ := Option.isSome_iff_exists.mp hsome
  exact ⟨anchor, ca, target, constraints, hanchor, hca, htarget, hfound, hhides, haccepted⟩

/-- The hidden sample is accepted for the names that are left of it. -/
theorem sample_checked_legible :
    ∃ anchor ca target constraints,
      Certificate.decode sampleHidden = .ok target
        ∧ ca.nameConstraints = .ok (some constraints)
        ∧ check Signed.holdsUnder [] sampleParameters [ca.legible] target.legible anchor
            = check Signed.holdsUnder [] sampleParameters [ca] target anchor
        ∧ constraints.violation? target.legible = none := by
  have h := sample_verdict
  simp only [succeeds_iff, Bool.and_eq_true] at h
  obtain ⟨anchor, hanchor, ca, hca, target, htarget, ⟨⟨found, hfound, hsome⟩, -⟩, ⟨⟩, haccepted,
    -⟩ := h
  obtain ⟨constraints, rfl⟩ := Option.isSome_iff_exists.mp hsome
  have hdecoded : ∀ c ∈ [target, ca], ∃ der, Certificate.decode der = .ok c :=
    List.forall_mem_cons.mpr ⟨⟨_, htarget⟩, List.forall_mem_singleton.mpr ⟨_, hca⟩⟩
  obtain ⟨hsame, hnames⟩ :=
    @check_legible Signed.holdsUnder [] sampleParameters [ca] target anchor hdecoded
  exact ⟨anchor, ca, target, constraints, htarget, hfound, hsame,
    (hnames haccepted [] ca [] constraints rfl hfound target (Or.inl rfl)).2⟩

end Candidate

end TrustPath
