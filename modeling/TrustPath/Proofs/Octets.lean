import TrustPath.Octets

/-!
# Octets in hexadecimal and in UTF-8

The written form of octets consists of hexadecimal digits
(`mem_toHexChars`) and is read back as these octets
(`ofHexChars?_toHexChars`), so octets with one written form are the same.

Reading takes digits of either case. Digits spell octets when in lowercase
they are the written form (`SpelledBy`), and that is what is read
(`ofHexChars?_eq_some_iff`).

Octets of a text are read as that text (`toText?_ofChars`), and those
below 128 are the characters that they stand for (`mem_ofChars`). The
octets of a text end in those of another exactly if the text ends in the
other (`ofChars_suffix_iff`).
-/

namespace TrustPath.Octets

theorem hexValue?_hexDigit : ∀ n < 16, hexValue? (hexDigit n) = some n := by decide

theorem mem_hexPair {b : UInt8} {c : Char} (h : c ∈ hexPair b) : ∃ n < 16, c = hexDigit n := by
  have hsize : b.toNat < 256 := b.toNat_lt
  have h : c = hexDigit (b.toNat / 16) ∨ c = hexDigit (b.toNat % 16) := by simpa [hexPair] using h
  rcases h with rfl | rfl
  · exact ⟨_, by omega, rfl⟩
  · exact ⟨_, by omega, rfl⟩

theorem mem_toHexChars {bs : Octets} {c : Char} (h : c ∈ toHexChars bs) :
    ∃ n < 16, c = hexDigit n := by
  obtain ⟨b, -, hc⟩ := List.mem_flatMap.mp h
  exact mem_hexPair hc

theorem ofHexChars?_toHexChars (bs : Octets) : ofHexChars? (toHexChars bs) = some bs := by
  induction bs with
  | nil => rfl
  | cons b bs ih =>
      have hsize : b.toNat < 256 := b.toNat_lt
      have hhigh := hexValue?_hexDigit (b.toNat / 16) (by omega)
      have hlow := hexValue?_hexDigit (b.toNat % 16) (by omega)
      have hchars : toHexChars (b :: bs) =
          hexDigit (b.toNat / 16) :: hexDigit (b.toNat % 16) :: toHexChars bs := rfl
      have hoctet : UInt8.ofNat (16 * (b.toNat / 16) + b.toNat % 16) = b := by
        rw [Nat.div_add_mod, UInt8.ofNat_toNat]
      rw [hchars, ofHexChars?, hhigh, hlow, ih]
      exact congrArg (fun octet => some (octet :: bs)) hoctet

theorem toHex_inj {bs cs : Octets} (h : toHex bs = toHex cs) : bs = cs := by
  have hchars : toHexChars bs = toHexChars cs := String.ofList_injective h
  have hread := congrArg ofHexChars? hchars
  rw [ofHexChars?_toHexChars, ofHexChars?_toHexChars] at hread
  exact Option.some.inj hread

/-! ## Digits of either case -/

/-- Hexadecimal digits of either case spell octets, two digits an octet. -/
def SpelledBy (octets : Octets) (digits : List Char) : Prop :=
  digits.map Char.toLower = toHexChars octets

theorem toNat_lt_of_hexValue? {c : Char} {n : Nat} (h : hexValue? c = some n) : c.toNat < 128 := by
  unfold hexValue? at h
  split at h
  · next hc => exact Nat.lt_of_le_of_lt (show c.toNat ≤ 57 from hc.2) (by decide)
  · split at h
    · next hc => exact Nat.lt_of_le_of_lt (show c.toNat ≤ 102 from hc.2) (by decide)
    · split at h
      · next hc => exact Nat.lt_of_le_of_lt (show c.toNat ≤ 70 from hc.2) (by decide)
      · cases h

theorem toNat_lt_of_toLower {c : Char} {n : Nat} (hn : n < 16) (h : c.toLower = hexDigit n) :
    c.toNat < 128 := by
  have hdigit : ∀ n < 16, (hexDigit n).toNat < 128 := by decide
  by_cases hupper : c.val ≥ 'A'.val ∧ c.val ≤ 'Z'.val
  · exact Nat.lt_of_le_of_lt (show c.toNat ≤ 90 from hupper.2) (by decide)
  · have hsame : c.toLower = c := dif_neg hupper
    rw [← hsame, h]
    exact hdigit n hn

/-- A hexadecimal digit has the value of the lowercase digit that it is in another case. -/
theorem hexValue?_eq_some_iff {c : Char} {n : Nat} :
    hexValue? c = some n ↔ n < 16 ∧ c.toLower = hexDigit n := by
  have hascii : ∀ k < 128, (∀ m ∈ hexValue? (Char.ofNat k), m < 16) ∧
      ∀ m < 16, hexValue? (Char.ofNat k) = some m ↔ (Char.ofNat k).toLower = hexDigit m := by
    decide +kernel
  constructor
  · intro h
    obtain ⟨hsmall, hvalue⟩ := hascii c.toNat (toNat_lt_of_hexValue? h)
    rw [Char.ofNat_toNat] at hsmall hvalue
    exact ⟨hsmall n h, (hvalue n (hsmall n h)).mp h⟩
  · rintro ⟨hn, h⟩
    obtain ⟨-, hvalue⟩ := hascii c.toNat (toNat_lt_of_toLower hn h)
    rw [Char.ofNat_toNat] at hvalue
    exact (hvalue n hn).mpr h

theorem SpelledBy.isHexDigit {octets : Octets} {digits : List Char} (h : octets.SpelledBy digits) :
    ∀ c ∈ digits, isHexDigit c = true := by
  intro c hc
  have hlower : c.toLower ∈ toHexChars octets := h ▸ List.mem_map_of_mem hc
  obtain ⟨n, hn, hdigit⟩ := mem_toHexChars hlower
  rw [Octets.isHexDigit, hexValue?_eq_some_iff.mpr ⟨hn, hdigit⟩]
  rfl

theorem spelledBy_pair {a b : Char} {octet : UInt8} :
    SpelledBy [octet] [a, b] ↔
      hexValue? a = some (octet.toNat / 16) ∧ hexValue? b = some (octet.toNat % 16) := by
  have hsize : octet.toNat < 256 := octet.toNat_lt
  have hhigh : octet.toNat / 16 < 16 := by omega
  have hlow : octet.toNat % 16 < 16 := Nat.mod_lt _ (by decide)
  simp [SpelledBy, toHexChars, hexPair, hexValue?_eq_some_iff, hhigh, hlow]

theorem spelledBy_of_values {a b : Char} {hi lo : Nat} (ha : hexValue? a = some hi)
    (hb : hexValue? b = some lo) : SpelledBy [UInt8.ofNat (16 * hi + lo)] [a, b] := by
  have hhi := (hexValue?_eq_some_iff.mp ha).1
  have hlo := (hexValue?_eq_some_iff.mp hb).1
  have hvalue : (UInt8.ofNat (16 * hi + lo)).toNat = 16 * hi + lo :=
    UInt8.toNat_ofNat_of_lt' (by simp [UInt8.size]; omega)
  rw [spelledBy_pair, hvalue, ha, hb]
  exact ⟨congrArg some (by omega), congrArg some (by omega)⟩

theorem spelledBy_cons {octet : UInt8} {octets : Octets} {a b : Char} {digits : List Char} :
    SpelledBy (octet :: octets) (a :: b :: digits) ↔
      SpelledBy [octet] [a, b] ∧ SpelledBy octets digits := by
  simp [SpelledBy, toHexChars, hexPair, and_assoc]

/-- What is read from hexadecimal digits is what they spell. -/
theorem ofHexChars?_eq_some_iff {digits : List Char} {octets : Octets} :
    ofHexChars? digits = some octets ↔ SpelledBy octets digits := by
  induction digits using ofHexChars?.induct generalizing octets with
  | case1 => cases octets <;> simp [ofHexChars?, SpelledBy, toHexChars, hexPair]
  | case2 a => cases octets <;> simp [ofHexChars?, SpelledBy, toHexChars, hexPair]
  | case3 a b rest ih =>
      constructor
      · intro h
        simp only [ofHexChars?, Option.bind_eq_bind, Option.bind_eq_some_iff] at h
        obtain ⟨hi, ha, lo, hb, more, hmore, hoctets⟩ := h
        obtain rfl := Option.some.inj hoctets
        exact spelledBy_cons.mpr ⟨spelledBy_of_values ha hb, ih.mp hmore⟩
      · intro h
        cases octets with
        | nil => simp [SpelledBy, toHexChars] at h
        | cons octet octets =>
            obtain ⟨hpair, hrest⟩ := spelledBy_cons.mp h
            obtain ⟨ha, hb⟩ := spelledBy_pair.mp hpair
            have hoctet : UInt8.ofNat (16 * (octet.toNat / 16) + octet.toNat % 16) = octet := by
              rw [Nat.div_add_mod, UInt8.ofNat_toNat]
            rw [ofHexChars?, ha, hb, ih.mpr hrest]
            exact congrArg (fun first => some (first :: octets)) hoctet

/-! ## Texts as octets -/

theorem ofText_ofList (cs : List Char) : ofText (String.ofList cs) = ofChars cs :=
  List.toList_data_toByteArray

theorem toText?_ofChars (cs : List Char) : toText? (ofChars cs) = some (String.ofList cs) := by
  have hbytes : (⟨(ofChars cs).toArray⟩ : ByteArray) = (String.ofList cs).toByteArray :=
    ByteArray.ext List.data_toByteArray.symm
  rw [toText?, hbytes, String.fromUTF8?, dif_pos (String.ofList cs).isValidUTF8]
  rfl

theorem ofChars_append (cs ds : List Char) : ofChars (cs ++ ds) = ofChars cs ++ ofChars ds :=
  List.flatMap_append

theorem le_toNat_or {x y : UInt8} : y.toNat ≤ (x ||| y).toNat := by
  rw [UInt8.toNat_or]
  exact Nat.right_le_or

/-- An octet below the first that is part of a longer encoding stands for
its own character. -/
theorem toNat_eq_of_mem_utf8EncodeChar {b : UInt8} {c : Char} (h : b ∈ String.utf8EncodeChar c)
    (hb : b.toNat < 128) : c.toNat = b.toNat := by
  have hlong : ∀ {x y : UInt8}, 128 ≤ y.toNat → b ≠ x ||| y := by
    rintro x y hy rfl
    exact absurd (Nat.le_trans hy le_toNat_or) (Nat.not_le.mpr hb)
  obtain hsize | hsize | hsize | hsize := Char.utf8Size_eq c
  · rw [String.utf8EncodeChar_eq_singleton hsize, List.mem_singleton] at h
    have hsmall := UInt32.le_iff_toNat_le.mp (Char.utf8Size_eq_one_iff.mp hsize)
    rw [h, UInt32.toNat_toUInt8]
    have : (127 : UInt32).toNat = 127 := rfl
    have : c.val.toNat = c.toNat := rfl
    omega
  · rw [String.utf8EncodeChar_eq_cons_cons hsize] at h
    simp [hlong] at h
  · rw [String.utf8EncodeChar_eq_cons_cons_cons hsize] at h
    simp [hlong] at h
  · rw [String.utf8EncodeChar_eq_cons_cons_cons_cons hsize] at h
    simp [hlong] at h

theorem mem_ofChars {b : UInt8} {cs : List Char} (h : b ∈ ofChars cs) (hb : b.toNat < 128) :
    Char.ofNat b.toNat ∈ cs := by
  obtain ⟨c, hc, hb'⟩ := List.mem_flatMap.mp h
  rw [← toNat_eq_of_mem_utf8EncodeChar hb' hb, Char.ofNat_toNat]
  exact hc

/-! ## Ends of encoded texts -/

theorem ofText_eq (s : String) : ofText s = ofChars s.toList := by
  rw [← ofText_ofList, String.ofList_toList]

theorem ofChars_cons (c : Char) (cs : List Char) :
    ofChars (c :: cs) = String.utf8EncodeChar c ++ ofChars cs :=
  List.flatMap_cons

theorem ofChars_inj {cs ds : List Char} : ofChars cs = ofChars ds ↔ cs = ds := by
  refine ⟨fun h => ?_, congrArg ofChars⟩
  have htexts := congrArg toText? h
  rw [toText?_ofChars, toText?_ofChars] at htexts
  exact String.ofList_injective (Option.some.inj htexts)

theorem ofChars_ne_nil {cs : List Char} (h : cs ≠ []) : ofChars cs ≠ [] :=
  fun hnil => h (ofChars_inj.mp hnil)

/-- What stands in front of the first octet of a character is encoded
text: that octet is never inside the encoding of another character. -/
theorem exists_split_ofChars {whole : List Char} {front back : Octets} {b : UInt8}
    (hb : b.IsUTF8FirstByte) (h : ofChars whole = front ++ b :: back) :
    ∃ before after, whole = before ++ after ∧ ofChars before = front := by
  induction whole generalizing front with
  | nil => exact absurd (List.append_eq_nil_iff.mp h.symm).2 (List.cons_ne_nil b back)
  | cons c whole ih =>
      rw [ofChars_cons] at h
      rcases List.append_eq_append_iff.mp h with ⟨more, rfl, hwhole⟩ | ⟨more, hc, hback⟩
      · obtain ⟨before, after, rfl, rfl⟩ := ih hwhole
        exact ⟨c :: before, after, rfl, ofChars_cons c before⟩
      · cases more with
        | nil =>
            rw [List.append_nil] at hc
            exact ⟨[c], whole, rfl, by rw [ofChars_cons, hc]; exact List.append_nil _⟩
        | cons d more =>
            obtain ⟨rfl, -⟩ := List.cons.inj hback
            have hlt : front.length < (String.utf8EncodeChar c).length := by simp [hc]
            have hget : (String.utf8EncodeChar c)[front.length] = b := by simp [hc]
            have hstart := UInt8.isUTF8FirstByte_getElem_utf8EncodeChar.mp (hget ▸ hb)
            obtain rfl := List.eq_nil_of_length_eq_zero hstart
            exact ⟨[], c :: whole, rfl, rfl⟩

/-- Encoded texts end alike exactly if the texts do. -/
theorem ofChars_suffix_iff {part whole : List Char} :
    ofChars part <:+ ofChars whole ↔ part <:+ whole := by
  constructor
  · rintro ⟨front, hfront⟩
    cases part with
    | nil => exact List.nil_suffix
    | cons c part =>
        have hlt : 0 < (String.utf8EncodeChar c).length := by
          rw [String.length_utf8EncodeChar]
          exact c.utf8Size_pos
        have hfirst : ofChars (c :: part)
            = (String.utf8EncodeChar c)[0] :: ((String.utf8EncodeChar c).tail ++ ofChars part) := by
          rw [ofChars_cons, ← List.cons_append, List.getElem_zero, List.cons_head_tail]
        obtain ⟨before, after, rfl, rfl⟩ := exists_split_ofChars
          UInt8.isUTF8FirstByte_getElem_zero_utf8EncodeChar (hfirst ▸ hfront.symm)
        rw [ofChars_append, List.append_cancel_left_eq, ofChars_inj] at hfront
        exact ⟨before, by rw [hfront]⟩
  · rintro ⟨before, rfl⟩
    exact ⟨ofChars before, (ofChars_append before part).symm⟩

end TrustPath.Octets
