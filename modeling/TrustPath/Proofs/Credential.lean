import Mathlib.Data.List.Induction
import TrustPath.Proofs.NameEvaluation.Exactness
import TrustPath.Proofs.Path.Evaluation

/-!
# Credentials after any calls

What is true of a credential that was made for one certificate and then
changed by any calls, some of which may have failed
(`Credential.after_exact`). A call is described by what it does to the chain
as one list: it takes the first certificate out of the chain and puts it in
front of the new one, unless that begins with it (`Credential.Effect`).

The first certificate is thus handed on from chain to chain, so it is always
the one that the credential was made for. Everything else about the
credential is a matter of the last call of a kind that took effect
(`Credential.Kept`); both go by induction on the calls, the last one split
off.
-/

namespace TrustPath

/-! ## Checking that every encoding decodes -/

namespace Bundle

variable {α : Type} {decode : Octets → Except TrustError α} {ders : List Octets}

/-- A check is decoding with what was decoded left out. -/
theorem checkAll_eq_map :
    ∀ ders, checkAll decode ders = (PathStore.decodeAll decode ders).map fun _ => ()
  | [] => rfl
  | der :: rest => by
      rw [checkAll, PathStore.decodeAll, checkAll_eq_map rest]
      cases decode der with
      | error e => rfl
      | ok a =>
          cases PathStore.decodeAll decode rest with
          | error e => rfl
          | ok more => rfl

theorem all_isOk_iff :
    (ders.all fun der => (decode der).isOk) = true ↔ ∀ der ∈ ders, ∃ a, decode der = .ok a := by
  rw [List.all_eq_true]
  refine forall₂_congr fun der _ => ?_
  cases decode der with
  | error e => exact iff_of_false Bool.false_ne_true fun ⟨_, h⟩ => nomatch h
  | ok a => exact iff_of_true rfl ⟨a, rfl⟩

theorem not_decodes {der : Octets} {error : TrustError} (hder : der ∈ ders)
    (hbad : decode der = .error error) : ¬ ∀ der ∈ ders, ∃ a, decode der = .ok a := by
  intro hdecode
  obtain ⟨a, ha⟩ := hdecode der hder
  rw [hbad] at ha
  cases ha

theorem firstFault_of_checkAll {error : TrustError} (h : checkAll decode ders = .error error) :
    FirstFault decode ders error := by
  rw [checkAll_eq_map] at h
  cases hall : PathStore.decodeAll decode ders with
  | ok as => rw [hall] at h; cases h
  | error e =>
      rw [hall] at h
      exact Except.error.inj h ▸ PathStore.firstFault_of_decodeAll hall

end Bundle

namespace FirstFault

variable {α : Type} {decode : Octets → Except TrustError α} {ders : List Octets}
  {error : TrustError}

theorem exists_mem (h : FirstFault decode ders error) :
    ∃ der ∈ ders, decode der = .error error := by
  obtain ⟨before, der, after, rfl, -, hbad⟩ := h
  exact ⟨der, List.mem_append_right before (List.mem_cons_self ..), hbad⟩

theorem checkAll (h : FirstFault decode ders error) :
    Bundle.checkAll decode ders = .error error := by
  obtain ⟨before, der, after, rfl, hbefore, hbad⟩ := h
  induction before with
  | nil => rw [List.nil_append, Bundle.checkAll, hbad]
  | cons first before ih =>
      obtain ⟨⟨a, ha⟩, hrest⟩ := List.forall_mem_cons.mp hbefore
      rw [List.cons_append, Bundle.checkAll, ha]
      exact ih hrest

theorem not_decodes (h : FirstFault decode ders error) :
    ¬ ∀ der ∈ ders, ∃ a, decode der = .ok a :=
  let ⟨_, hder, hbad⟩ := h.exists_mem
  Bundle.not_decodes hder hbad

end FirstFault

namespace Credential

/-! ## Calls -/

/-- A call that changes a credential. -/
inductive Call
  | chain (ders : List Octets)
  | crls (ders : List Octets)
  | entityId (id : String)

/-- What a call answers. -/
def call (c : Credential) : Call → Except TrustError Credential
  | .chain ders => c.withChain ders
  | .crls ders => c.withCrls ders
  | .entityId id => .ok (c.withEntityId id)

/-- The credential in use after a call: that before it, if the call fails. -/
def next (c : Credential) (k : Call) : Credential :=
  match c.call k with
  | .ok c' => c'
  | .error _ => c

def after (c : Credential) (calls : List Call) : Credential := calls.foldl next c

/-- A chain with a certificate in front, unless it begins with it. -/
def ledBy (entity : Octets) (ders : List Octets) : List Octets :=
  if ders.head? = some entity then ders else entity :: ders

/-- What a call does, in terms of the chain, the revocation lists and the identifier: it sets one
of them and leaves the other two, or it fails with the fault of the first encoding that does not
decode. -/
inductive Effect (c : Credential) : Call → Except TrustError Credential → Prop
  | chain {ders : List Octets} {c' : Credential}
      (hdecode : ∀ der ∈ ders, ∃ cert, Certificate.decode der = .ok cert)
      (hchain : c'.chain = ledBy (c.chain.headD []) ders) (hcrls : c'.crls = c.crls)
      (hentityId : c'.entityId = c.entityId) : Effect c (.chain ders) (.ok c')
  | badChain {ders : List Octets} {detail : String}
      (hfault : FirstFault Certificate.decode ders (.invalidCertificate detail)) :
      Effect c (.chain ders) (.error (.invalidCertificate detail))
  | crls {ders : List Octets} {c' : Credential}
      (hdecode : ∀ der ∈ ders, ∃ crl, Crl.decode der = .ok crl)
      (hcrls : c'.crls = ders) (hchain : c'.chain = c.chain)
      (hentityId : c'.entityId = c.entityId) : Effect c (.crls ders) (.ok c')
  | badCrls {ders : List Octets} {detail : String}
      (hfault : FirstFault Crl.decode ders (.invalidCrl detail)) :
      Effect c (.crls ders) (.error (.invalidCrl detail))
  | entityId {id : String} {c' : Credential} (hentityId : c'.entityId = some id)
      (hchain : c'.chain = c.chain) (hcrls : c'.crls = c.crls) :
      Effect c (.entityId id) (.ok c')

/-! ## What a call does -/

variable {c c' : Credential} {k : Call} {calls : List Call}

theorem eq_of_fields (hchain : c.chain = c'.chain) (hcrls : c.crls = c'.crls)
    (hentityId : c.entityId = c'.entityId) : c = c' := by
  obtain ⟨entity, others, crls, entityId⟩ := c
  obtain ⟨hentity, hothers⟩ := List.cons.inj hchain
  subst hentity hothers hcrls hentityId
  rfl

theorem withChain_of_decodes {ders : List Octets}
    (h : ∀ der ∈ ders, ∃ cert, Certificate.decode der = .ok cert) :
    ∃ c', c.withChain ders = .ok c' ∧ c'.chain = ledBy c.entity ders ∧ c'.crls = c.crls
      ∧ c'.entityId = c.entityId := by
  rw [withChain, Bundle.checkAll_eq_ok.mpr h]
  refine ⟨_, rfl, ?_, rfl, rfl⟩
  rw [chain, ledBy]
  dsimp only
  split
  · next hhead => exact List.cons_head?_tail hhead
  · rfl

/-- Every call has its effect. -/
theorem effect_call (c : Credential) (k : Call) : c.Effect k (c.call k) := by
  cases k with
  | chain ders =>
      rw [call]
      cases hcheck : Bundle.checkAll Certificate.decode ders with
      | ok _ =>
          have hall := Bundle.checkAll_eq_ok.mp hcheck
          obtain ⟨c', hset, hchain, hcrls, hentityId⟩ := withChain_of_decodes (c := c) hall
          exact hset ▸ .chain hall hchain hcrls hentityId
      | error error =>
          have hfault := Bundle.firstFault_of_checkAll hcheck
          obtain ⟨-, der, -, -, -, hbad⟩ := id hfault
          obtain ⟨detail, rfl⟩ := Certificate.decode_eq_error hbad
          rw [withChain, hcheck]
          exact .badChain hfault
  | crls ders =>
      rw [call, withCrls]
      cases hcheck : Bundle.checkAll Crl.decode ders with
      | ok _ => exact .crls (Bundle.checkAll_eq_ok.mp hcheck) rfl rfl rfl
      | error error =>
          have hfault := Bundle.firstFault_of_checkAll hcheck
          obtain ⟨-, der, -, -, -, hbad⟩ := id hfault
          obtain ⟨detail, rfl⟩ := Crl.decode_eq_error hbad
          exact .badCrls hfault
  | entityId id => exact .entityId rfl rfl rfl

/-- An effect determines what the call answers. -/
theorem Effect.call_eq {answer : Except TrustError Credential} (h : c.Effect k answer) :
    c.call k = answer := by
  cases h with
  | chain hdecode hchain hcrls hentityId =>
      obtain ⟨c'', hset, hchain', hcrls', hentityId'⟩ := withChain_of_decodes (c := c) hdecode
      rw [call, hset, eq_of_fields (hchain'.trans hchain.symm) (hcrls'.trans hcrls.symm)
        (hentityId'.trans hentityId.symm)]
  | badChain hfault => rw [call, withChain, hfault.checkAll]
  | crls hdecode hcrls hchain hentityId =>
      rw [call, withCrls, Bundle.checkAll_eq_ok.mpr hdecode]
      exact congrArg Except.ok (eq_of_fields hchain.symm hcrls.symm hentityId.symm)
  | badCrls hfault => rw [call, withCrls, hfault.checkAll]
  | entityId hentityId hchain hcrls =>
      exact congrArg Except.ok (eq_of_fields hchain.symm hcrls.symm hentityId.symm)

/-! ## What a run of calls leaves -/

/-- The chain that a call sets: none if it is another call, or fails. -/
def Call.chain? : Call → Option (List Octets)
  | .chain ders => if ders.all fun der => (Certificate.decode der).isOk then some ders else none
  | _ => none

/-- The revocation lists that a call sets: none if it is another call, or fails. -/
def Call.crls? : Call → Option (List Octets)
  | .crls ders => if ders.all fun der => (Crl.decode der).isOk then some ders else none
  | _ => none

def Call.entityId? : Call → Option String
  | .entityId id => some id
  | _ => none

/-- The last of what some calls set. -/
def lastSet {α : Type} (set? : Call → Option α) (calls : List Call) : Option α :=
  (calls.filterMap set?).getLast?

/-- What a credential made for `e` is after some calls. -/
structure Kept (e : Octets) (calls : List Call) (c : Credential) : Prop where
  entity : c.entity = e
  leads : c.chain.head? = some e
  chain : c.chain = ((lastSet Call.chain? calls).map (ledBy e)).getD [e]
  chain_decodes : ∀ der ∈ c.chain, ∃ cert, Certificate.decode der = .ok cert
  crls : c.crls = (lastSet Call.crls? calls).getD []
  crls_decode : ∀ der ∈ c.crls, ∃ crl, Crl.decode der = .ok crl
  entityId : c.entityId = lastSet Call.entityId? calls

theorem lastSet_concat {α : Type} (set? : Call → Option α) :
    lastSet set? (calls ++ [k]) = (set? k).or (lastSet set? calls) := by
  rw [lastSet, List.filterMap_append, List.getLast?_append]
  cases h : set? k with
  | none => rw [List.filterMap_cons_none h]; rfl
  | some a => rw [List.filterMap_cons_some h]; rfl

theorem head?_ledBy {e : Octets} {ders : List Octets} : (ledBy e ders).head? = some e := by
  unfold ledBy
  split
  · assumption
  · rfl

theorem ledBy_of_head? {e : Octets} {ders : List Octets} (h : ders.head? = some e) :
    ledBy e ders = ders := if_pos h

/-- A call sets its own field, if it takes effect, and leaves the others. -/
theorem fields_next (c : Credential) (k : Call) :
    (c.next k).chain = (k.chain?.map (ledBy c.entity)).getD c.chain
      ∧ (c.next k).crls = k.crls?.getD c.crls
      ∧ (c.next k).entityId = k.entityId?.or c.entityId := by
  have heffect := effect_call c k
  unfold next
  generalize c.call k = answer at heffect
  cases heffect with
  | chain hdecode hchain hcrls hentityId =>
      rw [Call.chain?, if_pos (Bundle.all_isOk_iff.mpr hdecode)]
      exact ⟨hchain, hcrls, hentityId⟩
  | badChain hfault =>
      rw [Call.chain?, if_neg (mt Bundle.all_isOk_iff.mp hfault.not_decodes)]
      exact ⟨rfl, rfl, rfl⟩
  | crls hdecode hcrls hchain hentityId =>
      rw [Call.crls?, if_pos (Bundle.all_isOk_iff.mpr hdecode)]
      exact ⟨hchain, hcrls, hentityId⟩
  | badCrls hfault =>
      rw [Call.crls?, if_neg (mt Bundle.all_isOk_iff.mp hfault.not_decodes)]
      exact ⟨rfl, rfl, rfl⟩
  | entityId hentityId hchain hcrls => exact ⟨hchain, hcrls, hentityId⟩

theorem entity_of_leads {e : Octets} (h : c.chain.head? = some e) : c.entity = e :=
  Option.some.inj h

theorem Presented.next (h : c.Presented) (k : Call) : (c.next k).Presented := by
  unfold Credential.next
  cases hcall : c.call k with
  | error error => exact h
  | ok c' =>
      cases k with
      | chain ders => exact h.withChain hcall
      | crls ders => exact h.withCrls hcall
      | entityId id => exact Except.ok.inj hcall ▸ h.withEntityId

theorem after_concat : c.after (calls ++ [k]) = (c.after calls).next k :=
  List.foldl_concat ..

/-- A call keeps what the calls before it kept. -/
theorem Kept.next {e : Octets} (h : Kept e calls c) (hpresented : c.Presented) (k : Call) :
    Kept e (calls ++ [k]) (c.next k) := by
  obtain ⟨hchain, hcrls, hentityId⟩ := fields_next c k
  have hleads : (c.next k).chain.head? = some e := by
    rw [hchain, h.entity]
    cases k.chain? with
    | none => exact h.leads
    | some ders => exact head?_ledBy
  refine ⟨entity_of_leads hleads, hleads, ?_, (hpresented.next k).chain_decodes, ?_,
    (hpresented.next k).crls_decode, ?_⟩
  · rw [hchain, lastSet_concat, h.entity, h.chain]
    cases k.chain? with
    | none => rfl
    | some ders => rfl
  · rw [hcrls, lastSet_concat, h.crls]
    cases k.crls? with
    | none => rfl
    | some ders => rfl
  · rw [hentityId, lastSet_concat, h.entityId]

theorem kept_after {e : Octets} (hnew : Credential.new e = .ok c) (calls : List Call) :
    (c.after calls).Presented ∧ Kept e calls (c.after calls) := by
  -- The last call is split off: it is made in the state that the others leave.
  induction calls using List.reverseRecOn with
  | nil =>
      have hpresented := Presented.new hnew
      obtain ⟨rfl, -⟩ := new_eq_ok hnew
      exact ⟨hpresented, rfl, rfl, rfl, hpresented.chain_decodes, rfl, hpresented.crls_decode, rfl⟩
  | append_singleton calls k ih =>
      obtain ⟨hpresented, hkept⟩ := ih
      rw [after_concat]
      exact ⟨hpresented.next k, hkept.next hpresented k⟩

/-! ## Calls that fail -/

/-- A call has an encoding that does not decode. -/
inductive Call.Faulty : Call → Prop
  | chain {ders : List Octets} {der : Octets} {fault : TrustError} (hder : der ∈ ders)
      (hbad : Certificate.decode der = .error fault) : Faulty (.chain ders)
  | crls {ders : List Octets} {der : Octets} {fault : TrustError} (hder : der ∈ ders)
      (hbad : Crl.decode der = .error fault) : Faulty (.crls ders)

theorem fails_iff : (∃ error, c.call k = .error error) ↔ k.Faulty := by
  have heffect := effect_call c k
  constructor
  · rintro ⟨error, hcall⟩
    rw [hcall] at heffect
    cases heffect with
    | badChain hfault =>
        obtain ⟨der, hder, hbad⟩ := hfault.exists_mem
        exact .chain hder hbad
    | badCrls hfault =>
        obtain ⟨der, hder, hbad⟩ := hfault.exists_mem
        exact .crls hder hbad
  · intro hfaulty
    generalize c.call k = answer at heffect
    cases heffect with
    | chain hdecode =>
        obtain ⟨hder, hbad⟩ := hfaulty
        exact absurd hdecode (Bundle.not_decodes hder hbad)
    | badChain => exact ⟨_, rfl⟩
    | crls hdecode =>
        obtain ⟨⟩ | ⟨hder, hbad⟩ := hfaulty
        exact absurd hdecode (Bundle.not_decodes hder hbad)
    | badCrls => exact ⟨_, rfl⟩
    | entityId => cases hfaulty

/-! ## Calls that change nothing more -/

/-- The chain that a credential already has is not changed by setting it. -/
theorem Kept.withChain_self {e : Octets} (h : Kept e calls c) : c.withChain c.chain = .ok c :=
  Effect.call_eq (.chain h.chain_decodes (ledBy_of_head? rfl).symm rfl rfl)

theorem withChain_twice {ders : List Octets} {c' : Credential} (h : c.withChain ders = .ok c') :
    c'.withChain ders = .ok c' := by
  have heffect := effect_call c (.chain ders)
  rw [call, h] at heffect
  cases heffect with
  | chain hdecode hchain hcrls hentityId =>
      have hentity : c'.entity = c.entity := entity_of_leads (hchain ▸ head?_ledBy)
      refine Effect.call_eq (.chain hdecode (hchain.trans ?_) rfl rfl)
      exact congrArg (ledBy · ders) hentity.symm

/-- **A credential keeps its certificate through any calls.** Its chain begins with the certificate
that it was made for, everything in it decodes, and the rest of it is what the last calls that took
effect have set. A call has its effect in every such state: it fails exactly if something that it
is to set does not decode, and setting the chain again changes nothing more. -/
theorem after_exact {e : Octets} (hnew : Credential.new e = .ok c) (calls : List Call) :
    Kept e calls (c.after calls) ∧
      (∀ k answer, (c.after calls).call k = answer ↔ (c.after calls).Effect k answer) ∧
      (∀ k, (∃ error, (c.after calls).call k = .error error) ↔ k.Faulty) ∧
      (c.after calls).withChain (c.after calls).chain = .ok (c.after calls) ∧
      ∀ ders c', (c.after calls).withChain ders = .ok c' → c'.withChain ders = .ok c' := by
  obtain ⟨-, hkept⟩ := kept_after hnew calls
  refine ⟨hkept, fun k answer => ⟨?_, Effect.call_eq⟩, fun k => fails_iff, hkept.withChain_self,
    fun ders c' => withChain_twice⟩
  rintro rfl
  exact effect_call _ k

/-- The calls of the sample: the second chain and the revocation list do not decode. -/
def sampleCalls : List Call :=
  [.chain [PathEvaluator.sampleCertificate], .entityId "a", .chain [[]], .crls [[]]]

/-- The sample keeps its own certificate and the chain that was set before the failures. -/
theorem sample_after :
    Credential.new NameEvaluator.sampleNamed = .ok ⟨NameEvaluator.sampleNamed, [], [], none⟩ ∧
      ((⟨NameEvaluator.sampleNamed, [], [], none⟩ : Credential).after sampleCalls).chain
        = [NameEvaluator.sampleNamed, PathEvaluator.sampleCertificate] := by
  have hnew : Credential.new NameEvaluator.sampleNamed
      = .ok ⟨NameEvaluator.sampleNamed, [], [], none⟩ := by decide +kernel
  have hset : (lastSet Call.chain? sampleCalls).map (ledBy NameEvaluator.sampleNamed)
      = some [NameEvaluator.sampleNamed, PathEvaluator.sampleCertificate] := by decide +kernel
  obtain ⟨hkept, -⟩ := after_exact hnew sampleCalls
  refine ⟨hnew, ?_⟩
  rw [hkept.chain, hset]
  rfl

end Credential

end TrustPath
