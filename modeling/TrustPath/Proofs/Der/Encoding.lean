import Mathlib.Data.Nat.Digits.Lemmas
import TrustPath.Der.Reader
import TrustPath.Proofs.Outcome

/-!
# Encoding in DER

An element as DER writes it: an identifier of one octet, the length of the
content in as few octets as it takes, and the content. The reader of
elements takes such an encoding from the front of its input and leaves what
comes after it (`Der.element_encode`), and from there the ways in which
readers are put together undo the ways in which encodings are
(`Der.within_encode`, `Der.many_flatten`).
-/

namespace TrustPath

namespace Octets

/-- The octets of a number in base 256, the most significant first and no zero in front. -/
def ofSize (n : Nat) : Octets := (Nat.digits 256 n).reverse.map UInt8.ofNat

theorem toNat_ofSize (n : Nat) : toNat (ofSize n) = n := by
  have hdigit : ∀ d ∈ Nat.digits 256 n, (UInt8.ofNat d).toNat = d := by
    intro d hd
    exact UInt8.toNat_ofNat_of_lt' (Nat.digits_lt_base (by decide) hd)
  have hsum : ∀ digits : List Nat, (∀ d ∈ digits, (UInt8.ofNat d).toNat = d) →
      toNat (digits.reverse.map UInt8.ofNat) = Nat.ofDigits 256 digits := by
    intro digits hdigits
    induction digits with
    | nil => rfl
    | cons d digits ih =>
        obtain ⟨hd, hmore⟩ := List.forall_mem_cons.mp hdigits
        have htail := ih hmore
        rw [toNat] at htail
        rw [toNat, List.reverse_cons, List.map_append, List.foldl_append, htail]
        simp [hd, Nat.ofDigits_cons]
        omega
  rw [ofSize, hsum _ hdigit, Nat.ofDigits_digits]

theorem length_ofSize_le_iff {n count : Nat} : (ofSize n).length ≤ count ↔ n < 256 ^ count := by
  rw [ofSize, List.length_map, List.length_reverse, Nat.digits_length_le_iff (by decide)]

theorem length_ofSize_pos {n : Nat} (h : 0 < n) : 1 ≤ (ofSize n).length := by
  rw [ofSize, List.length_map, List.length_reverse]
  exact List.length_pos_iff.mpr (Nat.digits_ne_nil_iff_ne_zero.mpr (by omega))

end Octets

namespace Der

/-- The octets of a definite length: the number itself below 128, or else its octets after their
count. -/
def lengthOctets (n : Nat) : Octets :=
  if n < 128 then [UInt8.ofNat n]
  else UInt8.ofNat (128 + (Octets.ofSize n).length) :: Octets.ofSize n

/-- An element with an identifier of one octet. -/
def encode (identifier : UInt8) (content : Octets) : Octets :=
  identifier :: (lengthOctets content.length ++ content)

/-! ## Lengths -/

theorem lengthOctets_short {n : Nat} (h : n < 128) :
    lengthOctets n = [UInt8.ofNat n] ∧ (UInt8.ofNat n).toNat = n :=
  ⟨if_pos h, UInt8.toNat_ofNat_of_lt' (by simp [UInt8.size]; omega)⟩

/-- A length of 128 or more is written in up to as many octets as it takes to count to it. -/
theorem lengthOctets_long {n count : Nat} (h : 128 ≤ n) (hn : n < 256 ^ count)
    (hcount : count < 127) :
    ∃ b : UInt8, lengthOctets n = b :: Octets.ofSize n ∧
      b.toNat = 128 + (Octets.ofSize n).length ∧ 1 ≤ (Octets.ofSize n).length ∧
      (Octets.ofSize n).length ≤ count := by
  have hfew := Octets.length_ofSize_le_iff.mpr hn
  refine ⟨_, if_neg (by omega), UInt8.toNat_ofNat_of_lt' ?_, Octets.length_ofSize_pos (by omega),
    hfew⟩
  simp [UInt8.size]
  omega

theorem lengthOf_lengthOctets {n : Nat} (h : n < Nat.pow 2 64) (rest : Octets) :
    lengthOf (lengthOctets n ++ rest) = .ok (n, (lengthOctets n).length) := by
  by_cases hsmall : n < 128
  · obtain ⟨hform, hvalue⟩ := lengthOctets_short hsmall
    rw [hform, List.singleton_append, lengthOf, hvalue, if_pos hsmall]
    rfl
  · obtain ⟨b, hform, hb, hsome, hfew⟩ :=
      lengthOctets_long (by omega : 128 ≤ n) (by simpa using h : n < 256 ^ 8) (by decide)
    have hdigits : b.toNat - 128 = (Octets.ofSize n).length := by omega
    rw [hform, List.cons_append, lengthOf, if_neg (by omega)]
    dsimp only
    rw [hdigits, if_neg (by omega), if_neg (by simp), List.take_left, Octets.toNat_ofSize,
      if_neg (by omega)]
    rfl

/-! ## Elements -/

theorem length_lt_encode (identifier : UInt8) (content : Octets) :
    content.length < (encode identifier content).length := by
  rw [encode, List.length_cons, List.length_append]
  omega

/-- The element that an encoding holds. -/
def encoded (identifier : UInt8) (content : Octets) : Element :=
  ⟨⟨classOf identifier, identifier.toNat / 32 % 2 = 1, identifier.toNat % 32, content.length,
    identifier :: lengthOctets content.length⟩, content⟩

theorem element_encode {identifier : UInt8} {content : Octets}
    (hshort : identifier.toNat % 32 ≠ 31) (hlength : content.length < Nat.pow 2 64)
    (rest : Octets) :
    element (encode identifier content ++ rest) = .ok (encoded identifier content, rest) := by
  have hheader : header (encode identifier content ++ rest) =
      .ok ((encoded identifier content).header, content ++ rest) := by
    rw [encode, List.cons_append, List.append_assoc, header, if_neg hshort]
    refine bind_eq_ok.mpr ⟨_, rfl, bind_eq_ok.mpr ⟨_, lengthOf_lengthOctets hlength _, ?_⟩⟩
    simp [pure_eq_ok, encoded]
  refine bind_eq_ok.mpr ⟨_, hheader, ?_⟩
  simp [pure_eq_ok, encoded]

theorem elementOf_encode {identifier : UInt8} {content : Octets}
    (hshort : identifier.toNat % 32 ≠ 31) (hlength : content.length < Nat.pow 2 64)
    (rest : Octets) :
    elementOf (identifier.toNat % 32) (encode identifier content ++ rest) =
      .ok (encoded identifier content, rest) := by
  refine bind_eq_ok.mpr ⟨_, element_encode hshort hlength rest, ?_⟩
  exact if_pos rfl

/-! ## Combined readers -/

/-- A reader takes the octets, whatever comes after them, and makes a value of them. -/
def Takes {α : Type} (body : Reader α) (octets : Octets) (a : α) : Prop :=
  octets ≠ [] ∧ ∀ rest, body (octets ++ rest) = .ok (a, rest)

section Combined

variable {α : Type} {body : Reader α}

theorem takes_within {identifier : UInt8} {content left : Octets} {a : α}
    (hshort : identifier.toNat % 32 ≠ 31) (hlength : content.length < Nat.pow 2 64)
    (hbody : body content = .ok (a, left)) :
    Takes (within (identifier.toNat % 32) body) (encode identifier content) a :=
  ⟨List.cons_ne_nil _ _, fun rest =>
    bind_eq_ok.mpr ⟨_, elementOf_encode hshort hlength rest, bind_eq_ok.mpr ⟨_, hbody, rfl⟩⟩⟩

theorem takes_sequence {content left : Octets} {a : α} (hlength : content.length < Nat.pow 2 64)
    (hbody : body content = .ok (a, left)) : Takes (sequence body) (encode 0x30 content) a := by
  have hshort : (0x30 : UInt8).toNat % 32 ≠ 31 := by decide
  exact takes_within hshort hlength hbody

theorem takes_set {content left : Octets} {a : α} (hlength : content.length < Nat.pow 2 64)
    (hbody : body content = .ok (a, left)) : Takes (set body) (encode 0x31 content) a := by
  have hshort : (0x31 : UInt8).toNat % 32 ≠ 31 := by decide
  exact takes_within hshort hlength hbody

/-- What is taken one after another until nothing is left. -/
theorem many_flatten {parts : List Octets} {as : List α} {fault : Fault}
    (hparts : List.Forall₂ (Takes body) parts as) (hend : body [] = .error fault) :
    many body parts.flatten = .ok (as, []) := by
  induction hparts with
  | nil => rw [List.flatten_nil, many, hend]
  | @cons part a parts as hpart _ ih =>
      obtain ⟨hne, hread⟩ := hpart
      have hshort : parts.flatten.length < (part ++ parts.flatten).length := by
        have hpos := List.length_pos_iff.mpr hne
        rw [List.length_append]
        omega
      rw [List.flatten_cons, many, hread]
      dsimp only
      rw [if_pos hshort, ih]

theorem atLeastOne_flatten {parts : List Octets} {as : List α} {fault : Fault} (hne : as ≠ [])
    (hparts : List.Forall₂ (Takes body) parts as) (hend : body [] = .error fault) :
    atLeastOne body parts.flatten = .ok (as, []) := by
  cases hparts with
  | nil => exact absurd rfl hne
  | cons hpart hmore =>
      exact bind_eq_ok.mpr ⟨_, hpart.2 _, bind_eq_ok.mpr ⟨_, many_flatten hmore hend, rfl⟩⟩

end Combined

end Der

end TrustPath
