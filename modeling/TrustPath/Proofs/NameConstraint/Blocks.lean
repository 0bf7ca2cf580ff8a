import TrustPath.Proofs.NameConstraint.Subtree

/-!
# Blocks of addresses

An address constraint whose mask has its first bits set, and no others,
stands for a block: the addresses that agree with the given one in these
bits (`ipMatches_block`). Of how many bits a block speaks need not be a
matter of whole octets.

The rule for addresses compares octet by octet under the mask. Seen as a
row of bits, the most significant of each octet first, a masked address
is the masked row (`bits_masked`), and a row under the mask of a block is
its start, filled up with zeros (`zipWith_and_leading`). Octets are
determined by their bits (`bits_inj`), so that addresses agree under the
mask exactly if the starts of their rows do.
-/

namespace TrustPath

namespace NameConstraint

/-! ## Rows of bits -/

/-- The bits of an octet, the most significant one first. -/
def octetBits (b : UInt8) : List Bool := (List.range 8).map b.toBitVec.getMsbD

/-- The bits of octets in a row. -/
def bits (octets : Octets) : List Bool := octets.flatMap octetBits

theorem length_octetBits (b : UInt8) : (octetBits b).length = 8 := by simp [octetBits]

theorem octetBits_inj {a b : UInt8} (h : octetBits a = octetBits b) : a = b := by
  refine UInt8.toBitVec_inj.mp (BitVec.eq_of_getMsbD_eq fun i hi => ?_)
  exact List.map_inj_left.mp h i (List.mem_range.mpr hi)

theorem octetBits_and (a b : UInt8) :
    octetBits (a &&& b) = List.zipWith and (octetBits a) (octetBits b) := by
  rw [octetBits, octetBits, octetBits, List.zipWith_map, List.zipWith_self]
  refine List.map_congr_left fun i _ => ?_
  rw [UInt8.toBitVec_and, BitVec.getMsbD_and]

theorem bits_cons (b : UInt8) (octets : Octets) : bits (b :: octets) = octetBits b ++ bits octets :=
  List.flatMap_cons

theorem length_bits (octets : Octets) : (bits octets).length = 8 * octets.length := by
  induction octets with
  | nil => rfl
  | cons b octets ih =>
      rw [bits_cons, List.length_append, length_octetBits, ih, List.length_cons]
      omega

theorem bits_inj {xs ys : Octets} (h : bits xs = bits ys) : xs = ys := by
  induction xs generalizing ys with
  | nil =>
      have hlength := congrArg List.length h
      rw [length_bits, length_bits, List.length_nil] at hlength
      exact (List.eq_nil_of_length_eq_zero (by omega)).symm
  | cons x xs ih =>
      cases ys with
      | nil =>
          have hlength := congrArg List.length h
          rw [length_bits, length_bits, List.length_cons, List.length_nil] at hlength
          omega
      | cons y ys =>
          rw [bits_cons, bits_cons] at h
          obtain ⟨hfirst, hrest⟩ :=
            List.append_inj h ((length_octetBits x).trans (length_octetBits y).symm)
          rw [octetBits_inj hfirst, ih hrest]

theorem bits_masked {octets mask : Octets} (h : octets.length = mask.length) :
    bits (masked octets mask) = List.zipWith and (bits octets) (bits mask) := by
  induction octets generalizing mask with
  | nil => rfl
  | cons b octets ih =>
      cases mask with
      | nil => cases h
      | cons m mask =>
          have hrest := ih (Nat.succ.inj h)
          rw [masked] at hrest ⊢
          rw [List.zipWith_cons_cons, bits_cons, bits_cons, bits_cons, octetBits_and, hrest,
            List.zipWith_append ((length_octetBits b).trans (length_octetBits m).symm)]

/-! ## The mask of a block -/

/-- The mask of so many octets whose first `n` bits are set. -/
def prefixMask : Nat → Nat → Octets
  | 0, _ => []
  | size + 1, n => UInt8.ofNat (255 <<< (8 - n)) :: prefixMask size (n - 8)

theorem length_prefixMask (size n : Nat) : (prefixMask size n).length = size := by
  induction size generalizing n with
  | zero => rfl
  | succ size ih => rw [prefixMask, List.length_cons, ih]

theorem octetBits_shiftLeft : ∀ n < 9, octetBits (UInt8.ofNat (255 <<< (8 - n)))
    = List.replicate n true ++ List.replicate (8 - n) false := by decide

/-- The first bits of the mask are set, and no others. -/
theorem bits_prefixMask {size n : Nat} (h : n ≤ 8 * size) :
    bits (prefixMask size n) = List.replicate n true ++ List.replicate (8 * size - n) false := by
  induction size generalizing n with
  | zero =>
      obtain rfl : n = 0 := by omega
      rfl
  | succ size ih =>
      rw [prefixMask, bits_cons, ih (by omega)]
      -- the bits that are set end with this octet at the latest, or go on behind it
      rcases Nat.lt_or_ge n 9 with hwithin | hbeyond
      · have hnone : n - 8 = 0 := by omega
        have hrest : 8 - n + (8 * size - 0) = 8 * (size + 1) - n := by omega
        rw [octetBits_shiftLeft n hwithin, hnone, List.replicate_zero, List.nil_append,
          List.append_assoc, List.replicate_append_replicate, hrest]
      · have hall : 8 - n = 8 - 8 := by omega
        have hfirst : 8 + (n - 8) = n := by omega
        have hrest : 8 * size - (n - 8) = 8 * (size + 1) - n := by omega
        rw [hall, octetBits_shiftLeft 8 (by omega), Nat.sub_self, List.replicate_zero,
          List.append_nil, ← List.append_assoc, List.replicate_append_replicate, hfirst, hrest]

/-- Under such a mask a row keeps its start. -/
theorem zipWith_and_leading {row : List Bool} {n rest : Nat} (h : row.length = n + rest) :
    List.zipWith and row (List.replicate n true ++ List.replicate rest false)
      = row.take n ++ List.replicate rest false := by
  induction row generalizing n rest with
  | nil =>
      obtain ⟨rfl, rfl⟩ : n = 0 ∧ rest = 0 := by rw [List.length_nil] at h; omega
      rfl
  | cons b row ih =>
      rw [List.length_cons] at h
      cases n with
      | zero =>
          obtain rfl : rest = row.length + 1 := by omega
          have hrow := ih (n := 0) (Nat.zero_add row.length).symm
          rw [List.replicate_zero, List.nil_append, List.take_zero, List.nil_append] at hrow ⊢
          rw [List.replicate_succ, List.zipWith_cons_cons, hrow, Bool.and_false]
      | succ n =>
          rw [List.replicate_succ, List.cons_append, List.zipWith_cons_cons, ih (by omega),
            Bool.and_true, List.take_succ_cons, List.cons_append]

theorem bits_masked_leading {octets : Octets} {n : Nat} (h : n ≤ 8 * octets.length) :
    bits (masked octets (prefixMask octets.length n))
      = (bits octets).take n ++ List.replicate (8 * octets.length - n) false := by
  rw [bits_masked (length_prefixMask _ _).symm, bits_prefixMask h]
  exact zipWith_and_leading (by rw [length_bits]; omega)

/-- Addresses of one length agree under the mask of a block exactly if
they begin with the same bits. -/
theorem masked_prefix_iff {ip address : Octets} {n : Nat} (hlength : ip.length = address.length)
    (h : n ≤ 8 * address.length) :
    masked ip (prefixMask address.length n) = masked address (prefixMask address.length n)
      ↔ (bits ip).take n = (bits address).take n := by
  have hip := bits_masked_leading (hlength.symm ▸ h : n ≤ 8 * ip.length)
  have haddress := bits_masked_leading h
  rw [hlength] at hip
  constructor
  · intro hagree
    rw [hagree, haddress, List.append_left_inj] at hip
    exact hip.symm
  · intro hagree
    exact bits_inj (by rw [hip, haddress, hagree])

/-! ## Matching an address -/

/-- Whatever the mask, only addresses of the length of the given one
match. -/
theorem ipMatches_append_iff {ip address mask : Octets}
    (hsize : address.length = 4 ∨ address.length = 16) (hmask : mask.length = address.length) :
    ipMatches ip (address ++ mask) = true
      ↔ ip.length = address.length ∧ masked ip mask = masked address mask := by
  rw [ipMatches_iff]
  constructor
  · rintro ⟨-, address', mask', hbase, haddress', hmask', hagree⟩
    have htotal := congrArg List.length hbase
    rw [List.length_append, List.length_append] at htotal
    have hlength : ip.length = address.length := by omega
    obtain ⟨rfl, rfl⟩ := List.append_inj hbase (hlength.symm.trans haddress'.symm)
    exact ⟨hlength, hagree⟩
  · rintro ⟨hlength, hagree⟩
    exact ⟨hlength ▸ hsize, address, mask, rfl, hlength.symm, hmask.trans hlength.symm, hagree⟩

theorem ipMatches_prefix_iff {ip address : Octets} {n : Nat}
    (hsize : address.length = 4 ∨ address.length = 16) (h : n ≤ 8 * address.length) :
    ipMatches ip (address ++ prefixMask address.length n) = true
      ↔ ip.length = address.length ∧ (bits ip).take n = (bits address).take n := by
  rw [ipMatches_append_iff hsize (length_prefixMask _ _)]
  exact and_congr_right fun hlength => masked_prefix_iff hlength h

/-- A constraint whose mask has exactly its first `n` bits set holds for
the addresses of its block. A shorter start makes a block with these
addresses in it, and a constraint for addresses of one length never holds
for one of the other. -/
theorem ipMatches_block (ip address : Octets) (n : Nat)
    (hsize : address.length = 4 ∨ address.length = 16) (hn : n ≤ 8 * address.length) :
    bits (prefixMask address.length n)
        = List.replicate n true ++ List.replicate (8 * address.length - n) false
    ∧ (ipMatches ip (address ++ prefixMask address.length n) = true
        ↔ ip.length = address.length ∧ (bits ip).take n = (bits address).take n)
    ∧ (∀ m ≤ n, ipMatches ip (address ++ prefixMask address.length n) = true →
        ipMatches ip (address ++ prefixMask address.length m) = true)
    ∧ (∀ mask, mask.length = address.length → ip.length ≠ address.length →
        ipMatches ip (address ++ mask) = false) := by
  refine ⟨bits_prefixMask hn, ipMatches_prefix_iff hsize hn, fun m hm hmatch => ?_,
    fun mask hmask hother => ?_⟩
  · obtain ⟨hlength, hagree⟩ := (ipMatches_prefix_iff hsize hn).mp hmatch
    refine (ipMatches_prefix_iff hsize (hm.trans hn)).mpr ⟨hlength, ?_⟩
    have hshorter := congrArg (List.take m) hagree
    rwa [List.take_take, List.take_take, Nat.min_eq_left hm] at hshorter
  · rw [Bool.eq_false_iff]
    exact fun hmatch => hother ((ipMatches_append_iff hsize hmask).mp hmatch).1

/-- The block of twenty-three bits from 192.168.0.0 ends inside the third
octet: it holds 192.168.1.20, as the one of twenty bits does. -/
theorem ipMatches_block_ragged :
    23 ≤ 8 * 4 ∧ ipMatches [192, 168, 1, 20] [192, 168, 0, 0, 255, 255, 254, 0] = true
      ∧ ipMatches [192, 168, 1, 20] [192, 168, 0, 0, 255, 255, 240, 0] = true := by
  have hn : 23 ≤ 8 * 4 := by decide
  obtain ⟨-, hblock, hshorter, -⟩ :=
    ipMatches_block [192, 168, 1, 20] [192, 168, 0, 0] 23 (.inl rfl) hn
  have hmatch := hblock.mpr ⟨rfl, by decide⟩
  exact ⟨hn, hmatch, hshorter 20 (by decide) hmatch⟩

end NameConstraint

end TrustPath
