import TrustPath.Proofs.Name.Recognition
import TrustPath.Proofs.NameEvaluation.Exactness
import TrustPath.Proofs.Path.Evaluation
import TrustPath.Resolver

/-!
# Blank trusted names

A trusted name that is empty, or nothing but white space, names nobody, but it
is compared like any other. It is read as the name without relative names
if it is made of blanks, and as no name otherwise
(`DistinguishedName.parse_of_whiteSpace`), so it stands for an empty
subject; and it is the text of an alternative name or a common name that is
as blank.

So blank trusted names are not harmless in themselves. What keeps a
credential from passing on them is that its certificate has no blank name
(`NameEvaluator.blank_names_exact`); the one blank name that the checks pass
over is an empty common name.
-/

namespace TrustPath

open NameParser (Blanks)

namespace NameParser

theorem blanks_iff_skipBlanks {cs : List Char} : Blanks cs ↔ (skipBlanks cs).isEmpty = true := by
  rw [skipBlanks, List.isEmpty_iff, List.dropWhile_eq_nil_iff]
  simp only [Blanks, decide_eq_true_eq]

/-- Relative names have an equals sign. -/
theorem ReadsRdns.mem_equals {read : List Attribute} {cs : List Char} {rdns : List Rdn}
    (h : ReadsRdns read cs rdns) : '=' ∈ cs := by
  have hequals : ∀ {cs rest : List Char} {attr : Attribute},
      readAttribute cs = .ok (attr, rest) → '=' ∈ cs := by
    intro cs rest attr hattr
    obtain ⟨text, rfl, ⟨-, -, -, -, -⟩⟩ := exists_attributeText_of_readAttribute hattr
    simp
  cases h with
  | last hattr => exact hequals hattr
  | joined hattr _ => exact hequals hattr
  | next hattr _ _ => exact hequals hattr

end NameParser

/-- White space is read as the empty name where it is made of blanks, and is no name otherwise. -/
theorem DistinguishedName.parse_of_whiteSpace {s : String} (h : WhiteSpace s.toList)
    {name : DistinguishedName} : parse s = .ok name ↔ Blanks s.toList ∧ name = ⟨[]⟩ := by
  rw [parse_eq_ok_iff, NameParser.readName, NameParser.blanks_iff_skipBlanks]
  split
  · next hblanks =>
    simp [hblanks, eq_comm]
  · next hblanks =>
    refine ⟨fun hread => ?_, fun hread => absurd hread.1 hblanks⟩
    split at hread
    · cases hread
    · next rdns hrdns =>
      have hequals := (NameParser.readRdns_eq_ok_iff.mp hrdns).mem_equals
      exact absurd (h _ hequals) (by decide)

namespace NameEvaluator

open Logging

/-- Some trusted name is read as a name that equals the subject. -/
def ReadsSubject (e : NameEvaluator) (c : Certificate) (trusted : TextSet) : Prop :=
  ∃ s ∈ trusted, ∃ name, e.handler.parse s = .ok name ∧ (name == c.subject) = true

/-- A blank name of the certificate that a check accepts: an alternative name of a kind that is
checked, the most specific common name unless it is empty, or what the handler reads a trusted
name as. -/
inductive BlankMatch (e : NameEvaluator) (c : Certificate) (trusted : TextSet) : Prop
  | altName {names : List GeneralName} {name : GeneralName} {s : String}
      (hactive : e.checkAltNames = true) (hnames : c.subjectAltName = .ok (some names))
      (hname : name ∈ names) (htype : name.type ∈ e.altNameTypes) (htext : name.text? = some s)
      (hblank : WhiteSpace s.toList) (htrusted : s ∈ trusted)
  | commonName {s : String} (hactive : e.checkCommonName = true)
      (hfirst : c.subject.GivesFirst commonNameOid s) (hne : s ≠ "")
      (hblank : WhiteSpace s.toList) (htrusted : s ∈ trusted)
  | subject (hactive : e.checkSubject = true) (hread : e.ReadsSubject c trusted)

variable {e : NameEvaluator} {c : Certificate} {trusted : TextSet}

theorem matches_iff_blankMatch (hblank : ∀ s ∈ trusted, WhiteSpace s.toList) :
    e.Matches c trusted ↔ e.BlankMatch c trusted := by
  constructor
  · intro h
    cases h with
    | altName hactive hnames hname htype htext htrusted =>
        exact .altName hactive hnames hname htype htext (hblank _ htrusted) htrusted
    | commonName hactive hfirst hne htrusted =>
        exact .commonName hactive hfirst hne (hblank _ htrusted) htrusted
    | subject hactive htrusted hparse hequal =>
        exact .subject hactive ⟨_, htrusted, _, hparse, hequal⟩
  · intro h
    cases h with
    | altName hactive hnames hname htype htext _ htrusted =>
        exact .altName hactive hnames hname htype htext htrusted
    | commonName hactive hfirst hne _ htrusted => exact .commonName hactive hfirst hne htrusted
    | subject hactive hread =>
        obtain ⟨s, htrusted, name, hparse, hequal⟩ := hread
        exact .subject hactive htrusted hparse hequal

/-- Only an empty subject equals a name without relative names. -/
theorem empty_beq_iff {name : DistinguishedName} :
    ((⟨[]⟩ : DistinguishedName) == name) = true ↔ name.rdns = [] := by
  constructor
  · intro h
    have hlength := (DistinguishedName.beq_iff.mp h).1
    simpa [DistinguishedName.rdnTexts] using hlength.symm
  · intro h
    refine DistinguishedName.beq_of_rdnTexts ?_
    rw [DistinguishedName.rdnTexts, DistinguishedName.rdnTexts, h]

theorem readsSubject_iff (hhandler : e.handler.parse = DistinguishedName.parse)
    (hblank : ∀ s ∈ trusted, WhiteSpace s.toList) :
    e.ReadsSubject c trusted ↔ c.subject.rdns = [] ∧ ∃ s ∈ trusted, Blanks s.toList := by
  rw [ReadsSubject, hhandler]
  constructor
  · rintro ⟨s, htrusted, name, hparse, hequal⟩
    obtain ⟨hblanks, rfl⟩ := (DistinguishedName.parse_of_whiteSpace (hblank s htrusted)).mp hparse
    exact ⟨empty_beq_iff.mp hequal, s, htrusted, hblanks⟩
  · rintro ⟨hempty, s, htrusted, hblanks⟩
    exact ⟨s, htrusted, ⟨[]⟩,
      (DistinguishedName.parse_of_whiteSpace (hblank s htrusted)).mpr ⟨hblanks, rfl⟩,
      empty_beq_iff.mpr hempty⟩

/-- **Blank trusted names accept blank names.** Where every trusted name is blank, a credential
passes exactly if its certificate has a blank name that a check accepts. With names read in the
standard forms, the subject is such a name exactly if it is empty. -/
theorem blank_names_exact (e : NameEvaluator) {credential : Credential}
    (hcredential : credential.Presented) (hactive : e.isActive = true) {trusted : TextSet}
    (hblank : ∀ s ∈ trusted, WhiteSpace s.toList) (max : LogLevel) :
    ∃ c, credential.certificate = .ok c ∧
      (outcome (e.evaluate credential (some trusted)) max = .ok true ↔
        e.Readable c ∧ e.BlankMatch c trusted) ∧
      (e.handler.parse = DistinguishedName.parse →
        (e.ReadsSubject c trusted ↔ c.subject.rdns = [] ∧ ∃ s ∈ trusted, Blanks s.toList)) := by
  obtain ⟨c, hc⟩ := hcredential.exists_certificate
  refine ⟨c, hc, ?_, fun hhandler => readsSubject_iff hhandler hblank⟩
  rw [outcome_evaluate_iff hc, ← matches_iff_blankMatch hblank]
  constructor
  · intro h
    cases h with
    | unchecked hinactive => rw [hactive] at hinactive; cases hinactive
    | accepted htrusted hreadable hmatch =>
        obtain rfl := Option.some.inj htrusted
        exact ⟨hreadable, hmatch⟩
  · rintro ⟨hreadable, hmatch⟩
    exact .accepted rfl hreadable hmatch

/-! ## Samples -/

/-- A certificate whose one alternative name is an empty host name. -/
def sampleEmptyHost : Octets :=
  Octets.ofNat 30 0x3057304b020101300506032b65703000301e170d37303031303130303030
    ++ Octets.ofNat 30 0x30305a170d3730303130313030303030305a3000300a300506032b657003
    ++ Octets.ofNat 29 0x0100a30f300d300b0603551d11040430028200300506032b6570030100

/-- A certificate whose common name is a blank. -/
def sampleBlankCommonName : Octets :=
  Octets.ofNat 28 0x30523046020101300506032b65703000301e170d3730303130313030
    ++ Octets.ofNat 28 0x303030305a170d3730303130313030303030305a300c310a30080603
    ++ Octets.ofNat 28 0x5504030c0120300a300506032b6570030100300506032b6570030100

/-- The only trusted name is the identifier of the entity, which is empty: the resolver adds it. -/
def sampleBlankNames : TextSet :=
  (⟨[], .empty, false⟩ : StaticResolver).trustedNamesFor ⟨some "", none⟩

/-- A credential of one certificate passes the active checks where every trusted name is blank. -/
def PassesOnBlanks (e : NameEvaluator) (der : Octets) (trusted : TextSet) : Prop :=
  Credential.new der = .ok ⟨der, [], [], none⟩ ∧ e.isActive = true ∧
    (trusted.toList.all fun s => s.toList.all Text.isBlank) = true ∧
    outcome (e.evaluate ⟨der, [], [], none⟩ (some trusted)) .off = .ok true

instance (e : NameEvaluator) (der : Octets) (trusted : TextSet) :
    Decidable (PassesOnBlanks e der trusted) :=
  inferInstanceAs (Decidable (_ ∧ _ ∧ _ ∧ _))

/-- The certificate without a name passes the check of its subject, which is empty. -/
theorem sample_blank_subject :
    PassesOnBlanks ⟨false, false, true, [], .builtin⟩ PathEvaluator.sampleCertificate
        sampleBlankNames ∧
      ∃ c, Certificate.decode PathEvaluator.sampleCertificate = .ok c ∧ c.subject.rdns = [] := by
  have hpasses : PassesOnBlanks ⟨false, false, true, [], .builtin⟩ PathEvaluator.sampleCertificate
      sampleBlankNames := by decide +kernel
  have ⟨hnew, hactive, hall, haccepted⟩ := hpasses
  have hblank : ∀ s ∈ sampleBlankNames, WhiteSpace s.toList := fun s hs =>
    List.all_eq_true.mp (List.all_eq_true.mp hall s hs)
  obtain ⟨c, hc, hexact, hsubject⟩ := blank_names_exact _ (.new hnew) hactive hblank .off
  refine ⟨hpasses, c, hc, ?_⟩
  cases (hexact.mp haccepted).2 with
  | altName hactive => cases hactive
  | commonName hactive => cases hactive
  | subject _ hread => exact ((hsubject rfl).mp hread).1

/-- Each check accepts a certificate on a blank trusted name: the check of the subject and that of
alternative names on an empty one, and the check of the common name on a blank. -/
theorem sample_blank_accepted :
    PassesOnBlanks ⟨false, false, true, [], .builtin⟩ PathEvaluator.sampleCertificate
        sampleBlankNames ∧
      PassesOnBlanks ⟨true, false, false, [.dns], .builtin⟩ sampleEmptyHost sampleBlankNames ∧
      PassesOnBlanks ⟨false, true, false, [], .builtin⟩ sampleBlankCommonName (.singleton " ") := by
  decide +kernel

end NameEvaluator

end TrustPath
