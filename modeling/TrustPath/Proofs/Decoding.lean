import Mathlib.Tactic.SplitIfs
import TrustPath.Certificate.Basic
import TrustPath.Proofs.Outcome

/-!
# What readers yield

A property of everything that a DER reader can give (`Der.Yields`), and
its passage through the ways in which readers are put together: content
of an element, repetition, the demand that nothing be left over.

Three facts about decoded material rest on it. The content of an extension
is what its type and its octets determine (`Certificate.isDecoded_of_decode`),
it speaks of that type unless the value does not decode
(`Extension.IsDecoded.content`), and a relative name holds at least one
attribute, with a type that is a printed identifier
(`DistinguishedName.yields_read`).
-/

namespace TrustPath

namespace Der

/-- Everything that a reader gives has a property. -/
def Yields {α : Type} (P : α → Prop) (body : Reader α) : Prop :=
  ∀ input result, body input = .ok result → P result.1

namespace Yields

variable {α : Type} {P : α → Prop} {body : Reader α}

theorem within (tag : Nat) (h : Yields P body) : Yields P (within tag body) := by
  intro input
  refine ok_of_bind fun ⟨e, rest⟩ result hbody => ?_
  obtain ⟨⟨a, left⟩, hread, hpure⟩ := bind_eq_ok.mp hbody
  obtain rfl := pure_eq_ok.mp hpure
  exact h e.content (a, left) hread

theorem sequence (h : Yields P body) : Yields P (sequence body) := h.within 16

theorem set (h : Yields P body) : Yields P (set body) := h.within 17

theorem whole (h : Yields P body) : Yields P (whole body) := by
  intro input result hwhole
  obtain ⟨⟨a, rest⟩, hread, hempty⟩ := bind_eq_ok.mp hwhole
  dsimp only at hempty
  split at hempty
  · obtain rfl := pure_eq_ok.mp hempty
    exact h input (a, rest) hread
  · cases hempty

theorem mapOption {β : Type} {f : β → Option α} (body : Reader β)
    (h : ∀ b a, f b = some a → P a) : Yields P (mapOption f body) := by
  intro input
  refine ok_of_bind fun ⟨b, rest⟩ result hresult => ?_
  dsimp only at hresult
  split at hresult
  · next a hf =>
    obtain rfl := pure_eq_ok.mp hresult
    exact h b a hf
  · cases hresult

/-- Repetition goes on with what is left; the induction is on its length,
as the recursion is. -/
theorem many (h : Yields P body) : Yields (fun as => ∀ a ∈ as, P a) (many body) := by
  intro input
  induction input using Der.many.induct body with
  | case1 input a rest hread hshort more left hmore ih =>
      intro result hmany
      rw [Der.many, hread] at hmany
      dsimp only at hmany
      rw [if_pos hshort, hmore] at hmany
      obtain rfl := Except.ok.inj hmany
      exact List.forall_mem_cons.mpr ⟨h input (a, rest) hread, ih (more, left) hmore⟩
  | case2 input a rest hread hshort e hmore ih =>
      intro result hmany
      rw [Der.many, hread] at hmany
      dsimp only at hmany
      rw [if_pos hshort, hmore] at hmany
      cases hmany
  | case3 input a rest hread hlong =>
      intro result hmany
      rw [Der.many, hread] at hmany
      dsimp only at hmany
      rw [if_neg hlong] at hmany
      cases hmany
  | case4 input e hread =>
      intro result hmany
      rw [Der.many, hread] at hmany
      obtain rfl := Except.ok.inj hmany
      exact fun a ha => absurd ha List.not_mem_nil

theorem atLeastOne (h : Yields P body) :
    Yields (fun as => as ≠ [] ∧ ∀ a ∈ as, P a) (atLeastOne body) := by
  intro input result hread
  obtain ⟨⟨first, rest⟩, hfirst, hread⟩ := bind_eq_ok.mp hread
  obtain ⟨⟨more, left⟩, hmore, hpure⟩ := bind_eq_ok.mp hread
  obtain rfl := pure_eq_ok.mp hpure
  exact ⟨List.cons_ne_nil _ _,
    List.forall_mem_cons.mpr ⟨h input (first, rest) hfirst, h.many rest (more, left) hmore⟩⟩

end Yields

end Der

/-! ## Extensions -/

/-- The type of extensions that say such a thing. -/
def ExtensionContent.oid? : ExtensionContent → Option Oid
  | .basicConstraints .. => some Extension.basicConstraintsOid
  | .keyUsage .. => some Extension.keyUsageOid
  | .subjectAltName .. => some Extension.subjectAltNameOid
  | .nameConstraints .. => some Extension.nameConstraintsOid
  | .certificatePolicies .. => some Extension.certificatePoliciesOid
  | .policyMappings .. => some Extension.policyMappingsOid
  | .policyConstraints .. => some Extension.policyConstraintsOid
  | .inhibitAnyPolicy .. => some Extension.inhibitAnyPolicyOid
  | .undecodable | .other => none

namespace ExtensionContent

open Extension

theorem oid?_eq_subjectAltName {content : ExtensionContent} :
    content.oid? = some subjectAltNameOid ↔ ∃ names, content = .subjectAltName names := by
  cases content <;> simp [oid?, subjectAltNameOid, basicConstraintsOid, keyUsageOid,
    nameConstraintsOid, certificatePoliciesOid, policyMappingsOid, policyConstraintsOid,
    inhibitAnyPolicyOid, standard]

theorem oid?_eq_certificatePolicies {content : ExtensionContent} :
    content.oid? = some certificatePoliciesOid ↔
      ∃ policies, content = .certificatePolicies policies := by
  cases content <;> simp [oid?, subjectAltNameOid, basicConstraintsOid, keyUsageOid,
    nameConstraintsOid, certificatePoliciesOid, policyMappingsOid, policyConstraintsOid,
    inhibitAnyPolicyOid, standard]

end ExtensionContent

namespace Extension

theorem yields_readBasicConstraints :
    Der.Yields (·.oid? = some basicConstraintsOid) readBasicConstraints := by
  refine Der.Yields.sequence fun input => ok_of_bind fun ⟨parts, rest⟩ result hresult => ?_
  dsimp only at hresult
  -- the two parts may be there or not, and a single one may be either
  repeat' split at hresult
  all_goals cases hresult
  all_goals rfl

theorem yields_readKeyUsage : Der.Yields (·.oid? = some keyUsageOid) readKeyUsage := by
  refine Der.Yields.mapOption _ fun e content hcontent => ?_
  cases hoctets : e.content with
  | nil =>
      rw [hoctets] at hcontent
      cases hcontent
  | cons unused bits =>
      rw [hoctets, keyUsageOf?] at hcontent
      split_ifs at hcontent
      cases hcontent
      rfl

theorem yields_readSubjectAltName :
    Der.Yields (·.oid? = some subjectAltNameOid) readSubjectAltName := by
  refine Der.Yields.sequence fun input => ok_of_bind fun ⟨names, rest⟩ => ?_
  rintro _ ⟨⟩
  rfl

theorem yields_readNameConstraints :
    Der.Yields (·.oid? = some nameConstraintsOid) readNameConstraints := by
  refine Der.Yields.sequence fun input => ?_
  refine ok_of_bind fun ⟨permitted, _⟩ => ok_of_bind fun ⟨excluded, _⟩ => ?_
  rintro _ ⟨⟩
  rfl

theorem yields_readCertificatePolicies :
    Der.Yields (·.oid? = some certificatePoliciesOid) readCertificatePolicies := by
  refine Der.Yields.sequence fun input => ok_of_bind fun ⟨policies, rest⟩ => ?_
  rintro _ ⟨⟩
  rfl

theorem yields_readPolicyMappings :
    Der.Yields (·.oid? = some policyMappingsOid) readPolicyMappings := by
  refine Der.Yields.sequence fun input => ok_of_bind fun ⟨mappings, rest⟩ => ?_
  rintro _ ⟨⟩
  rfl

theorem yields_readPolicyConstraints :
    Der.Yields (·.oid? = some policyConstraintsOid) readPolicyConstraints := by
  refine Der.Yields.sequence fun input => ?_
  refine ok_of_bind fun ⟨requireExplicit, _⟩ => ok_of_bind fun ⟨inhibitMapping, _⟩ => ?_
  rintro _ ⟨⟩
  rfl

theorem yields_readInhibitAnyPolicy :
    Der.Yields (·.oid? = some inhibitAnyPolicyOid) readInhibitAnyPolicy := by
  intro input
  refine ok_of_bind fun ⟨skip, rest⟩ => ?_
  rintro _ ⟨⟩
  rfl

/-- The other readers end by wrapping what they have read. -/
theorem yields_contentReader {oid : Oid} {read : Der.Reader ExtensionContent}
    (h : contentReader? oid = some read) : Der.Yields (·.oid? = some oid) read := by
  unfold contentReader? at h
  split_ifs at h with hbasic husage halt hnames hpolicies hmappings hconstraints hinhibit
  all_goals obtain rfl := Option.some.inj h
  · exact hbasic ▸ yields_readBasicConstraints
  · exact husage ▸ yields_readKeyUsage
  · exact halt ▸ yields_readSubjectAltName
  · exact hnames ▸ yields_readNameConstraints
  · exact hpolicies ▸ yields_readCertificatePolicies
  · exact hmappings ▸ yields_readPolicyMappings
  · exact hconstraints ▸ yields_readPolicyConstraints
  · exact hinhibit ▸ yields_readInhibitAnyPolicy

/-- An extension says what its octets say under its type. -/
def IsDecoded (ext : Extension) : Prop := ∃ value, ext.content = decode ext.oid value

/-- An extension says what its type says, or nothing: its value does not
decode, or its type is none that is read. -/
theorem IsDecoded.content {ext : Extension} (h : ext.IsDecoded) :
    ext.content.oid? = some ext.oid
      ∨ (ext.content = .undecodable ∧ (contentReader? ext.oid).isSome = true)
      ∨ (ext.content = .other ∧ contentReader? ext.oid = none) := by
  obtain ⟨value, hvalue⟩ := h
  rw [hvalue, decode]
  cases hreader : contentReader? ext.oid with
  | none => exact Or.inr (Or.inr ⟨rfl, rfl⟩)
  | some read =>
      dsimp only
      cases hread : read value with
      | ok result => exact Or.inl (yields_contentReader hreader value result hread)
      | error fault => exact Or.inr (Or.inl ⟨rfl, rfl⟩)

theorem yields_read : Der.Yields IsDecoded read := by
  refine Der.Yields.sequence fun input => ?_
  refine ok_of_bind fun ⟨oid, _⟩ => ok_of_bind fun ⟨critical, _⟩ => ok_of_bind fun ⟨value, _⟩ => ?_
  rintro _ ⟨⟩
  exact ⟨value, rfl⟩

theorem yields_readTrailing (tag : Nat) :
    Der.Yields (fun exts => ∀ ext ∈ exts, ext.IsDecoded) (readTrailing tag) := by
  intro input result hread
  unfold readTrailing at hread
  split at hread
  · obtain rfl := Except.ok.inj hread
    exact fun ext hext => absurd hext List.not_mem_nil
  · obtain ⟨⟨header, rest⟩, -, hread⟩ := bind_eq_ok.mp hread
    dsimp only at hread
    split at hread
    · exact yields_read.many.whole.sequence.whole rest result hread
    · cases hread

end Extension

namespace Certificate

/-- Everything that a certificate's extensions say was decoded. -/
def IsDecoded (c : Certificate) : Prop := ∀ ext ∈ c.extensions, ext.IsDecoded

theorem isDecoded_of_readBody {der input : Octets} : ∀ read, readBody der input = .ok read →
    ∀ algorithm signature, (read.1 algorithm signature).IsDecoded := by
  unfold readBody
  iterate 10 refine ok_of_bind fun ⟨_, _⟩ => ?_
  intro read hread
  obtain ⟨⟨extensions, body⟩, hextensions, hpure⟩ := bind_eq_ok.mp hread
  obtain rfl := pure_eq_ok.mp hpure
  exact fun _ _ => Extension.yields_readTrailing 3 _ _ hextensions

theorem isDecoded_of_decode {der : Octets} {c : Certificate} (h : decode der = .ok c) :
    c.IsDecoded := by
  have hread : Der.Yields IsDecoded (Certificate.read der) := by
    refine Der.Yields.sequence fun input result hbody => ?_
    obtain ⟨⟨build, _⟩, hbuild, hrest⟩ := bind_eq_ok.mp hbody
    obtain ⟨⟨algorithm, _⟩, -, hrest⟩ := bind_eq_ok.mp hrest
    obtain ⟨⟨signature, _⟩, -, hpure⟩ := bind_eq_ok.mp hrest
    obtain rfl := pure_eq_ok.mp hpure
    exact isDecoded_of_readBody _ hbuild algorithm signature
  unfold decode at h
  split at h
  · next heq =>
    obtain rfl := Except.ok.inj h
    exact hread _ _ heq
  · cases h
  · cases h

end Certificate

/-! ## Names -/

/-- An attribute whose type is a printed identifier. -/
def Attribute.IsPrinted (attr : Attribute) : Prop := ∃ oid : Oid, attr.oid = oid.dotted

theorem Attribute.yields_read : Der.Yields IsPrinted read := by
  refine Der.Yields.sequence fun input => ?_
  refine ok_of_bind fun ⟨oid, _⟩ => ok_of_bind fun ⟨value, _⟩ => ?_
  rintro _ ⟨⟩
  exact ⟨oid, rfl⟩

theorem Rdn.yields_read :
    Der.Yields (fun rdn : Rdn => rdn.attributes ≠ [] ∧ ∀ attr ∈ rdn.attributes, attr.IsPrinted)
      read := by
  refine Der.Yields.set fun input result hread => ?_
  obtain ⟨⟨attributes, rest⟩, hattributes, hpure⟩ := bind_eq_ok.mp hread
  obtain rfl := pure_eq_ok.mp hpure
  exact Attribute.yields_read.atLeastOne input _ hattributes

theorem DistinguishedName.yields_read :
    Der.Yields (fun name : DistinguishedName => ∀ rdn ∈ name.rdns,
      rdn.attributes ≠ [] ∧ ∀ attr ∈ rdn.attributes, attr.IsPrinted) read := by
  refine Der.Yields.sequence fun input result hread => ?_
  obtain ⟨⟨rdns, rest⟩, hrdns, hpure⟩ := bind_eq_ok.mp hread
  obtain rfl := pure_eq_ok.mp hpure
  exact Rdn.yields_read.many input _ hrdns

end TrustPath
