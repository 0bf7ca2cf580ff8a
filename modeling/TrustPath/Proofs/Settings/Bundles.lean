import TrustPath.Proofs.Path.Failure
import TrustPath.Proofs.Pem
import TrustPath.Proofs.Settings.Validity

/-!
# Bundles of settings

What settings hold as a text comes back as what was put into it: of the
blocks with the right label the contents, in their order, as long as they
decode (`Reads`). A text with other blocks only is refused, and a blank one
holds nothing. Whatever is read decodes.

Settings are read once when they are loaded and once more when they are
put to use, by the same functions. So for settings that were loaded there
is a resolver, and its material is sound: an evaluation fails only for
want of anchors (`Settings.bundles_exact`).
-/

namespace TrustPath

namespace Bundle

/-- The contents of the blocks with one of some labels, in their order. -/
def contentsOf (labels : List String) (blocks : List PemBlock) : List Octets :=
  (blocks.filter (·.label ∈ labels)).map (·.contents)

/-- What becomes of a bundle, the setting of a name, whose blocks have one
of some labels and hold what decodes. -/
structure Reads (name : String) (labels : List String) (Decodes : Octets → Prop)
    (bundle : Option String) (result : Except TrustError (List Octets)) : Prop where
  blank : (∀ text ∈ bundle, text.toList.all Text.isBlank = true) → result = .ok []
  written : ∀ text blocks ders, bundle = some text → Pem.Written blocks text →
    contentsOf labels blocks = ders → ders ≠ [] → (∀ der ∈ ders, Decodes der) → result = .ok ders
  others : ∀ text blocks, bundle = some text → Pem.Written blocks text → blocks ≠ [] →
    contentsOf labels blocks = [] →
      result = .error (.badParam (name ++ ": no usable PEM blocks found"))
  sound : ∀ ders, result = .ok ders → ∀ der ∈ ders, Decodes der

variable {labels : List String} {blocks : List PemBlock} {text : String}

theorem items_of_written (h : Pem.Written blocks text) (hne : blocks ≠ []) :
    items labels (Octets.ofText (String.ofList (unescapeLineEnds text.toList)))
      = .ok (contentsOf labels blocks) := by
  obtain ⟨block, more, rfl⟩ := List.exists_cons_of_ne_nil hne
  rw [items, if_pos h.looksLikePem, h.blocks]
  rfl

/-- Encodings are given out if there are any to be had and all decode. -/
theorem checked_eq_ok {α : Type} {decode : Octets → Except TrustError α}
    {fault : String → TrustError} {found : Except String (List Octets)} {ders : List Octets} :
    (match found with
      | .error detail => .error (fault detail)
      | .ok ders => (checkAll decode ders).map fun _ => ders : Except TrustError (List Octets))
        = .ok ders ↔
      found = .ok ders ∧ ∀ der ∈ ders, ∃ a, decode der = .ok a := by
  cases found with
  | error detail => exact iff_of_false nofun fun h => nomatch h.1
  | ok items =>
      dsimp only
      rw [Except.ok.injEq]
      cases hall : checkAll decode items with
      | error e =>
          refine iff_of_false nofun ?_
          rintro ⟨rfl, hdecodes⟩
          rw [checkAll_eq_ok.mpr hdecodes] at hall
          cases hall
      | ok _ =>
          constructor
          · rintro ⟨⟩
            exact ⟨rfl, checkAll_eq_ok.mp hall⟩
          · rintro ⟨rfl, -⟩
            rfl

theorem certificates_eq_ok {data : Octets} {ders : List Octets} :
    certificates data = .ok ders ↔ items certificateLabels data = .ok ders
      ∧ ∀ der ∈ ders, ∃ c, Certificate.decode der = .ok c :=
  checked_eq_ok

theorem crls_eq_ok {data : Octets} {ders : List Octets} :
    crls data = .ok ders ↔ items crlLabels data = .ok ders
      ∧ ∀ der ∈ ders, ∃ crl, Crl.decode der = .ok crl :=
  checked_eq_ok

variable {name : String} {decode : Octets → Except TrustError (List Octets)}

theorem decodeBundle_blank {bundle : Option String}
    (h : ∀ text ∈ bundle, text.toList.all Text.isBlank = true) :
    decodeBundle name decode bundle = .ok [] := by
  have hnone : bundle.filter (fun text => !text.toList.all Text.isBlank) = none := by
    refine Option.filter_eq_none_iff.mpr fun text htext => ?_
    rw [h text htext]
    exact Bool.false_ne_true
  rw [decodeBundle, hnone]

theorem decodeBundle_text (h : text.toList.all Text.isBlank = false) {ders : List Octets}
    (hders : decode (Octets.ofText (String.ofList (unescapeLineEnds text.toList))) = .ok ders) :
    decodeBundle name decode (some text) =
      if ders = [] then .error (.badParam (name ++ ": no usable PEM blocks found"))
      else .ok ders := by
  have hsome : (some text).filter (fun text => !text.toList.all Text.isBlank) = some text := by
    rw [Option.filter_some, h]
    rfl
  rw [decodeBundle, hsome]
  dsimp only
  rw [hders]
  cases ders with
  | nil => rfl
  | cons der more => rfl

/-- What a bundle gives was decoded. -/
theorem exists_decode_of_decodeBundle {bundle : Option String} {ders : List Octets}
    (h : decodeBundle name decode bundle = .ok ders) :
    ders = [] ∨ ∃ data, decode data = .ok ders := by
  unfold decodeBundle at h
  split at h
  · exact Or.inl (Except.ok.inj h).symm
  · split at h
    · cases h
    · cases h
    · next hders => exact Or.inr ⟨_, Except.ok.inj h ▸ hders⟩

theorem reads_decodeBundle {Decodes : Octets → Prop}
    (hdecode : ∀ data ders,
      decode data = .ok ders ↔ items labels data = .ok ders ∧ ∀ der ∈ ders, Decodes der)
    (bundle : Option String) :
    Reads name labels Decodes bundle (decodeBundle name decode bundle) where
  blank := decodeBundle_blank
  written := by
    rintro text blocks ders rfl hwritten rfl hne hdecodes
    have hblocks : blocks ≠ [] := by
      rintro rfl
      exact hne rfl
    rw [decodeBundle_text (hwritten.not_blank hblocks)
      ((hdecode _ _).mpr ⟨items_of_written hwritten hblocks, hdecodes⟩), if_neg hne]
  others := by
    rintro text blocks rfl hwritten hblocks hnone
    have hitems : items labels _ = .ok (contentsOf labels blocks) :=
      items_of_written hwritten hblocks
    rw [hnone] at hitems
    rw [decodeBundle_text (hwritten.not_blank hblocks) ((hdecode _ _).mpr ⟨hitems, nofun⟩),
      if_pos rfl]
  sound := by
    intro ders hders
    rcases exists_decode_of_decodeBundle hders with rfl | ⟨data, hdata⟩
    · exact nofun
    · exact ((hdecode _ _).mp hdata).2

end Bundle

namespace TrustSettings

/-- The anchors of settings are the certificates in their bundle. -/
theorem reads_anchorDers (trust : TrustSettings) :
    Bundle.Reads "trust_anchors" ["CERTIFICATE", "X509 CERTIFICATE"]
      (fun der => ∃ c, Certificate.decode der = .ok c) trust.trustAnchors trust.anchorDers :=
  Bundle.reads_decodeBundle (fun _ _ => Bundle.certificates_eq_ok) trust.trustAnchors

/-- The revocation lists of settings are those in their bundle. -/
theorem reads_crlDers (trust : TrustSettings) :
    Bundle.Reads "crls" ["X509 CRL"] (fun der => ∃ crl, Crl.decode der = .ok crl) trust.crls
      trust.crlDers :=
  Bundle.reads_decodeBundle (fun _ _ => Bundle.crls_eq_ok) trust.crls

theorem info_eq_ok {trust : TrustSettings} {info : ValidationInfo} : trust.info = .ok info ↔
    trust.anchorDers = .ok info.anchors ∧ trust.crlDers = .ok info.crls
      ∧ trust.verificationDepth = info.depth := by
  obtain ⟨anchors, crls, depth⟩ := info
  unfold TrustSettings.info
  simp only [bind_eq_ok, pure_eq_ok, ValidationInfo.mk.injEq]
  constructor
  · rintro ⟨_, hanchors, _, hcrls, rfl, rfl, rfl⟩
    exact ⟨hanchors, hcrls, rfl⟩
  · rintro ⟨hanchors, hcrls, hdepth⟩
    exact ⟨anchors, hanchors, crls, hcrls, rfl, rfl, hdepth⟩

end TrustSettings

namespace Settings

open PathEvaluator (AnchorsDecode CrlsDecode sampleCertificate sampleCredential)

/-- A bundle is read as what was put into it. Settings that were loaded
have a resolver whose material decodes, and an evaluation with it fails
only for want of anchors. -/
theorem bundles_exact :
    (∀ trust : TrustSettings,
        Bundle.Reads "trust_anchors" ["CERTIFICATE", "X509 CERTIFICATE"]
            (fun der => ∃ c, Certificate.decode der = .ok c) trust.trustAnchors trust.anchorDers
          ∧ Bundle.Reads "crls" ["X509 CRL"] (fun der => ∃ crl, Crl.decode der = .ok crl)
            trust.crls trust.crlDers)
      ∧ ∀ (text formatName : String) (settings : Settings),
        load text formatName = .ok settings →
          ∃ info, settings.resolver = .ok ⟨[info], settings.trust.trustedNames,
              settings.trust.supportDynamicTrustedNames⟩
            ∧ settings.trust.anchorDers = .ok info.anchors
            ∧ settings.trust.crlDers = .ok info.crls
            ∧ AnchorsDecode info ∧ CrlsDecode info
            ∧ ∀ (e : PathEvaluator) (now : Int) (credential : Credential) (max : LogLevel)
                (error : TrustError), credential.Presented →
                (e.buildPath now info credential).value max = .fatal error →
                  error = .noTrustAnchors ∧ info.anchors = [] := by
  refine ⟨fun trust => ⟨trust.reads_anchorDers, trust.reads_crlDers⟩,
    fun text formatName settings hload => ?_⟩
  obtain ⟨-, -, -, hvalid⟩ := load_eq_ok.mp hload
  obtain ⟨-, info, hinfo⟩ := validate_eq_ok.mp hvalid
  obtain ⟨hanchors, hcrls, -⟩ := TrustSettings.info_eq_ok.mp hinfo
  have hdecode : AnchorsDecode info := settings.trust.reads_anchorDers.sound _ hanchors
  have hcrlsDecode : CrlsDecode info := settings.trust.reads_crlDers.sound _ hcrls
  refine ⟨info, resolver_eq_ok hinfo, hanchors, hcrls, hdecode, hcrlsDecode, ?_⟩
  intro e now credential max error hcredential hfatal
  have hfails : PathEvaluator.FailsByInfo info ((e.buildPath now info credential).value max) :=
    PathEvaluator.failsByInfo_buildPath hcredential
  by_cases hne : info.anchors = []
  · exact ⟨PathResult.fatal.inj (hfatal.symm.trans (hfails.noAnchors hne)), hne⟩
  · rcases hfails.sound hne hdecode hcrlsDecode with hanswer | hanswer <;>
      exact absurd (hfatal.symm.trans hanswer) nofun

/-- The sample certificate as a bundle, with line ends of one kind. -/
def sampleBundle (ending : Pem.LineEnd) : String :=
  Pem.format ending [⟨"CERTIFICATE", sampleCertificate⟩]

/-- The sample certificate between blocks of other labels. -/
def sampleBlocks : List PemBlock :=
  [⟨"KEY", [1, 2, 3]⟩, ⟨"X509 CERTIFICATE", sampleCertificate⟩, ⟨"X509 CRL", []⟩]

def sampleMixed : TrustSettings where
  trustAnchors := Pem.format .returnEscaped sampleBlocks

/-- Settings with the sample certificate as the only anchor. -/
def sampleText : String :=
  "\x7b\"trust\": \x7b\"trust_anchors\": \"" ++ sampleBundle .escaped ++ "\"\x7d\x7d"

theorem sampleCertificate_decodes : ∃ c, Certificate.decode sampleCertificate = .ok c := by
  have hnew : Credential.new sampleCertificate = .ok sampleCredential := by decide +kernel
  exact (Credential.new_eq_ok hnew).2

theorem isLabel_certificate : Pem.IsLabel "CERTIFICATE" := ⟨by decide, by decide, by decide⟩

theorem load_sampleText :
    load sampleText "json" = .ok { trust := { trustAnchors := sampleBundle .feed } } := by
  have hread : read? .json sampleText
      = some { trust := { trustAnchors := sampleBundle .feed } } := by
    decide +kernel
  have hfeed : Pem.LineEnd.feed ≠ .missing := nofun
  have hwritten : Pem.Written [⟨"CERTIFICATE", sampleCertificate⟩] (sampleBundle .feed) :=
    Pem.written_format hfeed (List.forall_mem_singleton.mpr isLabel_certificate)
  have hanchors : TrustSettings.anchorDers { trustAnchors := sampleBundle .feed }
      = .ok [sampleCertificate] :=
    (TrustSettings.reads_anchorDers _).written _ _ _ rfl hwritten rfl (List.cons_ne_nil _ _)
      (List.forall_mem_singleton.mpr sampleCertificate_decodes)
  refine load_eq_ok.mpr ⟨.json, by decide, hread, validate_eq_ok.mpr ⟨nofun, ?_⟩⟩
  exact ⟨⟨[sampleCertificate], [], none⟩, TrustSettings.info_eq_ok.mpr ⟨hanchors, rfl, rfl⟩⟩

theorem bundles_exact_sample :
    sampleMixed.anchorDers = .ok [sampleCertificate]
      ∧ ∃ settings info, load sampleText "json" = .ok settings
        ∧ settings.resolver = .ok ⟨[info], .empty, false⟩
        ∧ settings.trust.anchorDers = .ok info.anchors
        ∧ ∀ error,
          (({} : PathEvaluator).buildPath 0 info sampleCredential).value .off = .fatal error →
            error = .noTrustAnchors ∧ info.anchors = [] := by
  obtain ⟨hreads, hloaded⟩ := bundles_exact
  have hending : Pem.LineEnd.returnEscaped ≠ .missing := nofun
  have hlabels : ∀ block ∈ sampleBlocks, Pem.IsLabel block.label := by
    intro block hblock
    simp only [sampleBlocks, List.mem_cons, List.not_mem_nil, or_false] at hblock
    rcases hblock with rfl | rfl | rfl <;> exact ⟨by decide, by decide, by decide⟩
  have hcredential : Credential.new sampleCertificate = .ok sampleCredential := by decide +kernel
  refine ⟨?_, ?_⟩
  · exact (hreads sampleMixed).1.written _ sampleBlocks _ rfl (Pem.written_format hending hlabels)
      (by decide) (List.cons_ne_nil _ _) (List.forall_mem_singleton.mpr sampleCertificate_decodes)
  · obtain ⟨info, hresolver, hanchors, -, -, -, hanswer⟩ := hloaded _ _ _ load_sampleText
    exact ⟨_, info, load_sampleText, hresolver, hanchors, fun error =>
      hanswer {} 0 sampleCredential .off error (.new hcredential)⟩

end Settings

end TrustPath
