import TrustPath.Proofs.Outcome
import TrustPath.Settings.Load

/-!
# Valid settings

What the check of settings comes to (`Settings.validate_eq_ok`), and that
it is passed by all settings that are loaded (`Settings.load_eq_ok`).
-/

namespace TrustPath.Settings

theorem checkPolicies_eq_ok {policies : TextSet} :
    checkPolicies policies = .ok () ↔ ∀ policy ∈ policies, Oid.isDottedText policy = true := by
  unfold checkPolicies
  split
  · next policy hfind =>
    refine iff_of_false nofun fun hall => ?_
    have hbad := List.find?_some hfind
    rw [hall policy (List.mem_of_find?_eq_some hfind)] at hbad
    cases hbad
  · next hnone =>
    refine iff_of_true rfl fun policy hpolicy => ?_
    have hgood := List.find?_eq_none.mp hnone policy hpolicy
    rwa [Bool.not_eq_true', Bool.not_eq_false] at hgood

theorem validate_eq_ok {settings : Settings} : settings.validate = .ok () ↔
    (∀ policy ∈ settings.validation.initialPolicies, Oid.isDottedText policy = true)
      ∧ ∃ info, settings.trust.info = .ok info := by
  rw [← checkPolicies_eq_ok]
  unfold validate
  simp only [bind_eq_ok, pure_eq_ok]
  constructor
  · rintro ⟨⟨⟩, hpolicies, info, hinfo, -⟩
    exact ⟨hpolicies, info, hinfo⟩
  · rintro ⟨hpolicies, info, hinfo⟩
    exact ⟨(), hpolicies, info, hinfo, trivial⟩

/-- Settings are loaded if the text can be read and they are valid. -/
theorem load_eq_ok {text formatName : String} {settings : Settings} :
    load text formatName = .ok settings ↔
      ∃ format, SettingsFormat.ofName? formatName = some format
        ∧ read? format text = some settings ∧ settings.validate = .ok () := by
  unfold load
  constructor
  · intro h
    split at h
    · cases h
    · next format hformat =>
      split at h
      · cases h
      · next read hread =>
        cases hvalid : read.validate with
        | error e =>
            rw [hvalid] at h
            cases h
        | ok u =>
            rw [hvalid] at h
            obtain rfl := Except.ok.inj h
            exact ⟨format, hformat, hread, hvalid⟩
  · rintro ⟨format, hformat, hread, hvalid⟩
    simp only [hformat, hread, hvalid]
    rfl

theorem resolver_eq_ok {settings : Settings} {info : ValidationInfo}
    (h : settings.trust.info = .ok info) :
    settings.resolver = .ok ⟨[info], settings.trust.trustedNames,
      settings.trust.supportDynamicTrustedNames⟩ := by
  rw [resolver, h]
  rfl

end TrustPath.Settings
