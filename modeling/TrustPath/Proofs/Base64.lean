import TrustPath.Base64

/-!
# Base64 is read back

The spelling of octets consists of the sixty-four digits and of padding
(`IsDigit`), so it has neither white space nor a line end or a hyphen in
it, and these octets are read from it (`decodeChars_encodeChars`).
-/

namespace TrustPath.Base64

/-- One of the characters of spellings. -/
def IsDigit (c : Char) : Prop := c = '=' ∨ ∃ n < 64, c = digit n

theorem isDigit_digit {n : Nat} (h : n < 64) : IsDigit (digit n) := Or.inr ⟨n, h, rfl⟩

theorem IsDigit.of_all {c : Char} (h : IsDigit c) {p : Char → Prop} (hpad : p '=')
    (hdigits : ∀ n < 64, p (digit n)) : p c := by
  obtain rfl | ⟨n, hn, rfl⟩ := h
  · exact hpad
  · exact hdigits n hn

theorem isDigit_of_mem {bs : Octets} {c : Char} (h : c ∈ encodeChars bs) : IsDigit c := by
  induction bs using encodeChars.induct with
  | case1 => cases h
  | case2 a =>
      have ha := a.toNat_lt
      simp only [encodeChars, List.mem_cons, List.not_mem_nil, or_false] at h
      rcases h with rfl | rfl | rfl | rfl
      · exact isDigit_digit (by omega)
      · exact isDigit_digit (by omega)
      · exact Or.inl rfl
      · exact Or.inl rfl
  | case3 a b =>
      have ha := a.toNat_lt
      have hb := b.toNat_lt
      simp only [encodeChars, List.mem_cons, List.not_mem_nil, or_false] at h
      rcases h with rfl | rfl | rfl | rfl
      · exact isDigit_digit (by omega)
      · exact isDigit_digit (by omega)
      · exact isDigit_digit (by omega)
      · exact Or.inl rfl
  | case4 a b c rest ih =>
      have ha := a.toNat_lt
      have hb := b.toNat_lt
      have hc := c.toNat_lt
      simp only [encodeChars, List.mem_cons] at h
      rcases h with rfl | rfl | rfl | rfl | h
      · exact isDigit_digit (by omega)
      · exact isDigit_digit (by omega)
      · exact isDigit_digit (by omega)
      · exact isDigit_digit (by omega)
      · exact ih h

/-! ## Quanta -/

theorem value?_digit : ∀ n < 64, value? (digit n) = some n := by decide

theorem digit_ne_pad : ∀ n < 64, digit n ≠ '=' := by decide

theorem ofNat_eq {n : Nat} {b : UInt8} (h : n = b.toNat) : UInt8.ofNat n = b := by
  rw [h, UInt8.ofNat_toNat]

theorem quantum?_one (a : UInt8) :
    quantum? (digit (a.toNat / 4)) (digit (a.toNat % 4 * 16)) '=' '=' = some [a] := by
  have ha := a.toNat_lt
  have hfirst : UInt8.ofNat (a.toNat / 4 * 4 + a.toNat % 4 * 16 / 16) = a := ofNat_eq (by omega)
  unfold quantum?
  simp only [value?_digit (a.toNat / 4) (by omega), value?_digit (a.toNat % 4 * 16) (by omega),
    Option.bind_eq_bind, Option.bind_some, if_true, true_and, hfirst]
  exact if_pos (by omega)

theorem quantum?_two (a b : UInt8) :
    quantum? (digit (a.toNat / 4)) (digit (a.toNat % 4 * 16 + b.toNat / 16))
      (digit (b.toNat % 16 * 4)) '=' = some [a, b] := by
  have ha := a.toNat_lt
  have hb := b.toNat_lt
  have hfirst : UInt8.ofNat (a.toNat / 4 * 4 + (a.toNat % 4 * 16 + b.toNat / 16) / 16) = a :=
    ofNat_eq (by omega)
  have hsecond :
      UInt8.ofNat ((a.toNat % 4 * 16 + b.toNat / 16) % 16 * 16 + b.toNat % 16 * 4 / 4) = b :=
    ofNat_eq (by omega)
  unfold quantum?
  simp only [value?_digit (a.toNat / 4) (by omega),
    value?_digit (a.toNat % 4 * 16 + b.toNat / 16) (by omega),
    value?_digit (b.toNat % 16 * 4) (by omega), digit_ne_pad (b.toNat % 16 * 4) (by omega),
    Option.bind_eq_bind, Option.bind_some, if_true, if_false, hfirst, hsecond]
  exact if_pos (by omega)

theorem quantum?_three (a b c : UInt8) :
    quantum? (digit (a.toNat / 4)) (digit (a.toNat % 4 * 16 + b.toNat / 16))
      (digit (b.toNat % 16 * 4 + c.toNat / 64)) (digit (c.toNat % 64)) = some [a, b, c] := by
  have ha := a.toNat_lt
  have hb := b.toNat_lt
  have hc := c.toNat_lt
  have hfirst : UInt8.ofNat (a.toNat / 4 * 4 + (a.toNat % 4 * 16 + b.toNat / 16) / 16) = a :=
    ofNat_eq (by omega)
  have hsecond : UInt8.ofNat ((a.toNat % 4 * 16 + b.toNat / 16) % 16 * 16
      + (b.toNat % 16 * 4 + c.toNat / 64) / 4) = b :=
    ofNat_eq (by omega)
  have hthird : UInt8.ofNat ((b.toNat % 16 * 4 + c.toNat / 64) % 4 * 64 + c.toNat % 64) = c :=
    ofNat_eq (by omega)
  unfold quantum?
  simp only [value?_digit (a.toNat / 4) (by omega),
    value?_digit (a.toNat % 4 * 16 + b.toNat / 16) (by omega),
    value?_digit (b.toNat % 16 * 4 + c.toNat / 64) (by omega),
    value?_digit (c.toNat % 64) (by omega),
    digit_ne_pad (b.toNat % 16 * 4 + c.toNat / 64) (by omega),
    digit_ne_pad (c.toNat % 64) (by omega),
    Option.bind_eq_bind, Option.bind_some, if_false, hfirst, hsecond, hthird]
  rfl

/-- The spelling of octets is read as these octets. -/
theorem decodeChars_encodeChars (bs : Octets) : decodeChars (encodeChars bs) = some bs := by
  induction bs using encodeChars.induct with
  | case1 => rfl
  | case2 a => rw [encodeChars, decodeChars, quantum?_one]; rfl
  | case3 a b => rw [encodeChars, decodeChars, quantum?_two]; rfl
  | case4 a b c rest ih => rw [encodeChars, decodeChars, quantum?_three, ih]; rfl

end TrustPath.Base64
