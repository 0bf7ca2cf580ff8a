import TrustPath.Path.Store
import TrustPath.Proofs.Outcome

/-!
# Decoded material

What is true of certificates once they are decoded, and of credentials
whichever way they came about.

A decoded certificate keeps the encoding it was read from
(`Certificate.der_of_decode`), so a comparison of encodings is a
comparison of what was presented. A list decodes as a whole exactly when
every member decodes (`PathStore.exists_decodeAll`), and otherwise fails with
the fault of the first that does not (`PathStore.firstFault_of_decodeAll`).

`Credential.Presented` is the run of a credential: it is made of one
certificate and changed by the setters, of which a failing one changes
nothing. Its chain and its revocation lists always decode
(`Credential.Presented.chain_decodes`, `Credential.Presented.crls_decode`).
-/

namespace TrustPath

namespace Certificate

theorem der_of_readBody {der input : Octets} : ∀ read, readBody der input = .ok read →
    ∀ algorithm signature, (read.1 algorithm signature).der = der := by
  unfold readBody
  iterate 11 refine ok_of_bind fun ⟨_, _⟩ => ?_
  rintro _ ⟨⟩ algorithm signature
  rfl

/-- A certificate keeps the octets it was decoded from. -/
theorem der_of_decode {der : Octets} {c : Certificate} (h : decode der = .ok c) : c.der = der := by
  have hder : ∀ result, Certificate.read der der = .ok result → result.1.der = der := by
    refine ok_of_bind fun ⟨e, rest⟩ result hread => ?_
    obtain ⟨⟨c, _⟩, hbody, hpure⟩ := bind_eq_ok.mp hread
    obtain rfl := pure_eq_ok.mp hpure
    obtain ⟨⟨build, _⟩, hbuild, hrest⟩ := bind_eq_ok.mp hbody
    obtain ⟨⟨algorithm, _⟩, -, hrest⟩ := bind_eq_ok.mp hrest
    obtain ⟨⟨signature, _⟩, -, hpure⟩ := bind_eq_ok.mp hrest
    obtain ⟨rfl, -⟩ := Prod.mk.inj (pure_eq_ok.mp hpure)
    exact der_of_readBody _ hbuild algorithm signature
  unfold decode at h
  split at h
  · next heq =>
    obtain rfl := Except.ok.inj h
    exact hder _ heq
  · cases h
  · cases h

/-- What does not decode is an invalid certificate. -/
theorem decode_eq_error {der : Octets} {error : TrustError} (h : decode der = .error error) :
    ∃ detail, error = .invalidCertificate detail := by
  unfold decode at h
  split at h
  · cases h
  · exact ⟨_, (Except.error.inj h).symm⟩
  · exact ⟨_, (Except.error.inj h).symm⟩

end Certificate

namespace Crl

/-- What does not decode is an invalid revocation list. -/
theorem decode_eq_error {der : Octets} {error : TrustError} (h : decode der = .error error) :
    ∃ detail, error = .invalidCrl detail := by
  unfold decode at h
  split at h
  · cases h
  · exact ⟨_, (Except.error.inj h).symm⟩
  · exact ⟨_, (Except.error.inj h).symm⟩

end Crl

/-- The first of some encodings that does not decode has this fault. -/
def FirstFault {α : Type} (decode : Octets → Except TrustError α) (ders : List Octets)
    (error : TrustError) : Prop :=
  ∃ before der after, ders = before ++ der :: after
    ∧ (∀ d ∈ before, ∃ a, decode d = .ok a) ∧ decode der = .error error

theorem FirstFault.of_cons {α : Type} {decode : Octets → Except TrustError α} {der : Octets}
    {rest : List Octets} {error : TrustError} {a : α} (ha : decode der = .ok a)
    (h : FirstFault decode rest error) : FirstFault decode (der :: rest) error := by
  obtain ⟨before, bad, after, rfl, hbefore, hbad⟩ := h
  exact ⟨der :: before, bad, after, rfl, List.forall_mem_cons.mpr ⟨⟨a, ha⟩, hbefore⟩, hbad⟩

namespace PathStore

variable {α : Type} {decode : Octets → Except TrustError α}

theorem decodeAll_cons_eq_ok {der : Octets} {rest : List Octets} {as : List α} :
    decodeAll decode (der :: rest) = .ok as ↔
      ∃ a, decode der = .ok a ∧ ∃ more, decodeAll decode rest = .ok more ∧ a :: more = as := by
  simp only [decodeAll, bind_eq_ok, pure_eq_ok]

/-- A list decodes as a whole exactly when every member does. -/
theorem exists_decodeAll : ∀ {ders : List Octets},
    (∃ as, decodeAll decode ders = .ok as) ↔ ∀ der ∈ ders, ∃ a, decode der = .ok a
  | [] => by simp [decodeAll]
  | der :: rest => by
      rw [List.forall_mem_cons, ← exists_decodeAll]
      simp only [decodeAll_cons_eq_ok]
      constructor
      · rintro ⟨_, a, ha, more, hmore, -⟩
        exact ⟨⟨a, ha⟩, more, hmore⟩
      · rintro ⟨⟨a, ha⟩, more, hmore⟩
        exact ⟨a :: more, a, ha, more, hmore, rfl⟩

theorem mem_decodeAll {a : α} : ∀ {ders : List Octets} {as : List α},
    decodeAll decode ders = .ok as → (a ∈ as ↔ ∃ der ∈ ders, decode der = .ok a)
  | [], as, h => by
      obtain rfl := Except.ok.inj h
      simp
  | der :: rest, as, h => by
      obtain ⟨b, hb, more, hmore, rfl⟩ := decodeAll_cons_eq_ok.mp h
      rw [List.mem_cons, mem_decodeAll hmore]
      simp [hb, eq_comm]

theorem length_decodeAll : ∀ {ders : List Octets} {as : List α},
    decodeAll decode ders = .ok as → as.length = ders.length
  | [], as, h => by
      obtain rfl := Except.ok.inj h
      rfl
  | der :: rest, as, h => by
      obtain ⟨a, -, more, hmore, rfl⟩ := decodeAll_cons_eq_ok.mp h
      exact congrArg (· + 1) (length_decodeAll hmore)

theorem decodeAll_append (first more : List Octets) :
    decodeAll decode (first ++ more) = do
      return (← decodeAll decode first) ++ (← decodeAll decode more) := by
  induction first with
  | nil =>
      show _ = decodeAll decode more >>= fun as => pure as
      rw [bind_pure]
      rfl
  | cons der rest ih =>
      rw [List.cons_append, decodeAll, ih, decodeAll]
      simp only [bind_assoc, pure_bind, List.cons_append]

/-- Encodings fail to decode with the fault of the first that does not. -/
theorem firstFault_of_decodeAll {error : TrustError} : ∀ {ders : List Octets},
    decodeAll decode ders = .error error → FirstFault decode ders error
  | [], h => by cases h
  | der :: rest, h => by
      rw [decodeAll] at h
      cases hder : decode der with
      | error e =>
          rw [hder] at h
          obtain rfl := Except.error.inj h
          exact ⟨[], der, rest, rfl, by simp, hder⟩
      | ok a =>
          rw [hder] at h
          cases hrest : decodeAll decode rest with
          | error e =>
              rw [hrest] at h
              obtain rfl := Except.error.inj h
              exact (firstFault_of_decodeAll hrest).of_cons hder
          | ok more =>
              rw [hrest] at h
              cases h

end PathStore

namespace Bundle

theorem checkAll_eq_ok {α : Type} {decode : Octets → Except TrustError α} :
    ∀ {ders : List Octets},
      checkAll decode ders = .ok () ↔ ∀ der ∈ ders, ∃ a, decode der = .ok a
  | [] => by simp [checkAll]
  | der :: rest => by
      rw [checkAll, List.forall_mem_cons, ← checkAll_eq_ok]
      cases decode der with
      | error e => simp
      | ok a => simp

end Bundle

namespace Credential

/-- The credentials that come about: of one certificate, and by setting
the chain, the revocation lists or the identifier of another. A setter
that fails leaves the credential before it in use. -/
inductive Presented : Credential → Prop
  | new {entity : Octets} {c : Credential} (h : Credential.new entity = .ok c) : Presented c
  | withChain {c c' : Credential} {chain : List Octets} (h : Presented c)
      (hset : c.withChain chain = .ok c') : Presented c'
  | withCrls {c c' : Credential} {crls : List Octets} (h : Presented c)
      (hset : c.withCrls crls = .ok c') : Presented c'
  | withEntityId {c : Credential} {entityId : String} (h : Presented c) :
      Presented (c.withEntityId entityId)

theorem new_eq_ok {entity : Octets} {c : Credential} (h : Credential.new entity = .ok c) :
    c = ⟨entity, [], [], none⟩ ∧ ∃ cert, Certificate.decode entity = .ok cert := by
  unfold Credential.new at h
  split at h
  · next cert hcert => exact ⟨(Except.ok.inj h).symm, cert, hcert⟩
  · cases h

theorem withChain_eq_ok {c c' : Credential} {chain : List Octets}
    (h : c.withChain chain = .ok c') :
    c' = { c with others := if chain.head? = some c.entity then chain.tail else chain }
      ∧ ∀ der ∈ chain, ∃ cert, Certificate.decode der = .ok cert := by
  unfold withChain at h
  split at h
  · cases h
  · next hall => exact ⟨(Except.ok.inj h).symm, Bundle.checkAll_eq_ok.mp hall⟩

theorem withCrls_eq_ok {c c' : Credential} {crls : List Octets} (h : c.withCrls crls = .ok c') :
    c' = { c with crls } ∧ ∀ der ∈ crls, ∃ crl, Crl.decode der = .ok crl := by
  unfold withCrls at h
  split at h
  · cases h
  · next hall => exact ⟨(Except.ok.inj h).symm, Bundle.checkAll_eq_ok.mp hall⟩

/-- Every chain of certificates that decode is presented by a
credential. -/
theorem Presented.of_decodes {entity : Octets} {others : List Octets}
    (h : ∀ der ∈ entity :: others, ∃ cert, Certificate.decode der = .ok cert) :
    Presented ⟨entity, others, [], none⟩ := by
  obtain ⟨cert, hcert⟩ := h entity (List.mem_cons_self ..)
  have hnew : Credential.new entity = .ok ⟨entity, [], [], none⟩ := by rw [Credential.new, hcert]
  have hset : Credential.withChain ⟨entity, [], [], none⟩ (entity :: others)
      = .ok ⟨entity, others, [], none⟩ := by
    rw [Credential.withChain, Bundle.checkAll_eq_ok.mpr h]
    simp
  exact (Presented.new hnew).withChain hset

/-- Every certificate of a chain decodes. -/
theorem Presented.chain_decodes {c : Credential} (h : c.Presented) :
    ∀ der ∈ c.chain, ∃ cert, Certificate.decode der = .ok cert := by
  induction h with
  | new h =>
      obtain ⟨rfl, cert, hcert⟩ := new_eq_ok h
      exact List.forall_mem_cons.mpr ⟨⟨cert, hcert⟩, fun der hder => absurd hder List.not_mem_nil⟩
  | @withChain c c' chain _ hset ih =>
      obtain ⟨rfl, hall⟩ := withChain_eq_ok hset
      refine List.forall_mem_cons.mpr ⟨(List.forall_mem_cons.mp ih).1, fun der hder => ?_⟩
      dsimp only at hder
      split at hder
      · exact hall der (List.mem_of_mem_tail hder)
      · exact hall der hder
  | withCrls _ hset ih =>
      obtain ⟨rfl, -⟩ := withCrls_eq_ok hset
      exact ih
  | withEntityId _ ih => exact ih

theorem Presented.exists_certificate {c : Credential} (h : c.Presented) :
    ∃ certificate, c.certificate = .ok certificate :=
  h.chain_decodes c.entity (List.mem_cons_self ..)

/-- Every revocation list of a credential decodes. -/
theorem Presented.crls_decode {c : Credential} (h : c.Presented) :
    ∀ der ∈ c.crls, ∃ crl, Crl.decode der = .ok crl := by
  induction h with
  | new h =>
      obtain ⟨rfl, -⟩ := new_eq_ok h
      exact fun der hder => absurd hder List.not_mem_nil
  | withChain _ hset ih =>
      obtain ⟨rfl, -⟩ := withChain_eq_ok hset
      exact ih
  | withCrls _ hset _ =>
      obtain ⟨rfl, hall⟩ := withCrls_eq_ok hset
      exact hall
  | withEntityId _ ih => exact ih

end Credential

end TrustPath
