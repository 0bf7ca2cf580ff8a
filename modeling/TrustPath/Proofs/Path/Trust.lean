import TrustPath.Proofs.Path.Evaluation
import TrustPath.Proofs.Path.Exactness

/-!
# What trust rests on

An evaluation that finds a path says that the entity's certificate is an
anchor itself, or that an anchor of the information certifies it:
`PathEvaluator.Certifies` is a chain of issuers from the credential, with
everything that path validation demands of it.

The search is not looked at again. It answers like the walk over the tree
of partial paths (`PathProblem.solve_eq_answer`); a partial path of the
tree is linked and has no certificate twice, and where the walk stops the
candidate is acceptable.
-/

namespace TrustPath

/-- One certificate issued another: it has the name of the issuer, and
the signature verifies under its key. -/
def Certificate.Issued (issuer child : Certificate) : Prop :=
  (issuer.subject == child.issuer) = true
    ∧ child.signed.holdsUnder issuer.publicKey = true

namespace PathEvaluator

/-- An anchor of the information certifies the credential's entity
through issuers of its chain, the entity's own issuer first, with
revocation lists that the options admit. -/
structure Certifies (e : PathEvaluator) (now : Int) (info : ValidationInfo)
    (credential : Credential) (anchor target : Certificate) (issuers : List Certificate)
    (store : PathStore) : Prop where
  anchored : ∃ der ∈ info.anchors, Certificate.decode der = .ok anchor
  entity : Certificate.decode credential.entity = .ok target
  chain : PathStore.decodeAll Certificate.decode credential.chain = .ok store.certificates
  crls : ∃ lists,
    PathStore.decodeAll Crl.decode (e.presentedCrls info credential) = .ok lists
      ∧ lists.filter (PathStore.admits e.options now) = store.crls
  presented : ∀ c ∈ issuers, c ∈ store.certificates
  short : issuers.length ≤ 31
  distinct : (target :: issuers).Pairwise (·.der ≠ ·.der)
  linked : (target :: issuers ++ [anchor]).IsChain fun child issuer => issuer.Issued child
  acceptable : Candidate.Acceptable Signed.holdsUnder store.crls (e.parameters info store now)
    target issuers anchor

/-- A candidate of the tree that completes is a certified entity. -/
theorem Poses.certifies {e : PathEvaluator} {now : Int} {info : ValidationInfo}
    {credential : Credential} {p : PathProblem} (hp : e.Poses now info credential p)
    {above : List Certificate} (hreached : p.Reached above) {built : BuiltPath}
    (hbuilt : p.accepted? above = some built) :
    e.Certifies now info credential built.anchor p.target above.reverse ⟨p.pool, p.crls⟩ := by
  obtain ⟨-, hanchor, hissues, hacceptable⟩ := PathProblem.accepted?_eq_some hbuilt
  have hissued : ∀ child issuer, p.issues issuer child = true → issuer.Issued child := by
    intro child issuer h
    rw [PathProblem.issues, Bool.and_eq_true, hp.holds] at h
    exact h
  have hlast : (p.target :: above.reverse).getLast? = some (p.lastOf above) := by
    cases above with
    | nil => rfl
    | cons c rest => rw [List.reverse_cons, ← List.cons_append, List.getLast?_concat]; rfl
  refine ⟨(PathStore.mem_decodeAll hp.anchors).mp hanchor, hp.target, hp.pool, hp.crls,
    fun c hc => hreached.mem_pool c (List.mem_reverse.mp hc), ?_, hreached.distinct, ?_, ?_⟩
  · rw [List.length_reverse]
    exact hreached.length_le
  · refine List.IsChain.append (hreached.linked.imp hissued) (List.isChain_singleton _) ?_
    intro child hchild issuer hissuer
    obtain rfl := Option.some.inj (hlast.symm.trans hchild)
    obtain rfl := Option.some.inj hissuer
    exact hissued _ _ hissues
  · rw [hp.parameters, ← hp.holds]
    exact hacceptable

/-- Whatever is found is trusted for a reason. -/
theorem trusted_of_found (e : PathEvaluator) (now : Int) (info : ValidationInfo)
    (credential : Credential) (max : LogLevel)
    (h : (e.buildPath now info credential).value max = .found) :
    credential.entity ∈ info.anchors ∨ ∃ anchor target issuers store,
      e.Certifies now info credential anchor target issuers store := by
  obtain ⟨p, hp, built, hsolve⟩ := value_buildPath_eq_found.mp h
  rw [PathProblem.solve_eq_answer] at hsolve
  cases hfind : p.anchors.find? (·.der == p.target.der) with
  | some anchor =>
      left
      obtain ⟨der, hder, hdecode⟩ :=
        (PathStore.mem_decodeAll hp.anchors).mp (List.mem_of_find?_eq_some hfind)
      have hsame : anchor.der = p.target.der := by simpa using List.find?_some hfind
      rw [Certificate.der_of_decode hdecode, Certificate.der_of_decode hp.target] at hsame
      exact hsame ▸ hder
  | none =>
      right
      rw [hfind] at hsolve
      obtain ⟨above, hreached, hbuilt⟩ := PathProblem.answer_eq_ok hsolve
      exact ⟨built.anchor, p.target, above.reverse, _, hp.certifies hreached hbuilt⟩

/-- Issuers that all have one encoding are one issuer, as no encoding is
there twice. -/
theorem map_der_of_forall {issuers : List Certificate} {der : Octets} (hne : issuers ≠ [])
    (hall : ∀ c ∈ issuers, c.der = der) (hdistinct : issuers.Pairwise (·.der ≠ ·.der)) :
    issuers.map (·.der) = [der] := by
  cases issuers with
  | nil => exact absurd rfl hne
  | cons c rest =>
      cases rest with
      | nil => rw [List.map_singleton, hall c (List.mem_singleton_self c)]
      | cons d rest =>
          refine absurd ?_ ((List.pairwise_cons.mp hdistinct).1 d (List.mem_cons_self ..))
          rw [hall c (by simp), hall d (by simp)]

/-- The sample is trusted for the authority in its chain: its certificate is not an anchor, and
no anchor issued it. -/
theorem sample_trusted :
    sampleChained.entity ∉ sampleInfo.anchors ∧ ∃ anchor target issuers store,
      issuers.map (·.der) = [Candidate.sampleAuthority]
        ∧ ({} : PathEvaluator).Certifies 1000000000 sampleInfo sampleChained anchor target issuers
          store := by
  have hother : sampleChained.entity ∉ sampleInfo.anchors := by decide +kernel
  have hapart : succeeds (Certificate.decode Candidate.sampleAnchor) (fun anchor =>
      succeeds (Certificate.decode Candidate.sampleHidden) fun target =>
        !(anchor.subject == target.issuer)) = true := by decide +kernel
  simp only [succeeds_iff, Bool.not_eq_true'] at hapart
  obtain ⟨_, hanchor, _, htarget, hapart⟩ := hapart
  obtain ⟨anchor, target, issuers, store, h⟩ := (trusted_of_found {} 1000000000 sampleInfo
    sampleChained .off sample_found).resolve_left hother
  obtain ⟨der, hder, hdecode⟩ := h.anchored
  obtain rfl := List.mem_singleton.mp hder
  obtain rfl := Except.ok.inj (hdecode.symm.trans hanchor)
  obtain rfl := Except.ok.inj (h.entity.symm.trans htarget)
  obtain ⟨hfresh, hdistinct⟩ := List.pairwise_cons.mp h.distinct
  have hauthority : ∀ c ∈ issuers, c.der = Candidate.sampleAuthority := by
    intro c hc
    obtain ⟨der, hder, hdecode⟩ := (PathStore.mem_decodeAll h.chain).mp (h.presented c hc)
    have hsame := Certificate.der_of_decode hdecode
    rcases List.mem_cons.mp hder with rfl | hder
    · exact absurd ((Certificate.der_of_decode h.entity).trans hsame.symm) (hfresh c hc)
    · exact hsame.trans (List.mem_singleton.mp hder)
  have hsome : issuers ≠ [] := by
    rintro rfl
    rw [(List.isChain_cons_cons.mp h.linked).1.1] at hapart
    cases hapart
  exact ⟨hother, anchor, target, issuers, store, map_der_of_forall hsome hauthority hdistinct, h⟩

end PathEvaluator

end TrustPath
