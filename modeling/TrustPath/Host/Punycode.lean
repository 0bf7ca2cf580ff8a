/-!
# Punycode

Punycode writes any text in lowercase letters, digits and hyphens: first the ASCII characters as
they are and a hyphen, if there are any, then the others in increasing order. Each of these is
given by its distance from the one before, counted in pairs of a code point and a place, as a
number whose digits have thresholds that adapt to the numbers before.
-/

namespace TrustPath.Punycode

/-! ## Digits and thresholds -/

/-- The value of a digit: letters before decimal digits. -/
def digitValue? (c : Char) : Option Nat :=
  if c.isLower then some (c.toNat - 0x61)
  else if c.isDigit then some (c.toNat - 0x30 + 26)
  else none

def digit (d : Nat) : Char := if d < 26 then Char.ofNat (0x61 + d) else Char.ofNat (0x30 + d - 26)

/-- The threshold at the digit with this weight index, a multiple of 36: a digit below it is the
last of its number. -/
def threshold (k bias : Nat) : Nat := max 1 (min 26 (k - bias))

theorem threshold_pos (k bias : Nat) : 0 < threshold k bias := by
  unfold threshold; omega

/-- How often a distance is scaled down, in multiples of 36, and what is left of it. -/
def scaleDown (delta k : Nat) : Nat × Nat :=
  if 455 < delta then scaleDown (delta / 35) (k + 36) else (delta, k)
termination_by delta

/-- The bias after a number, where `count` characters have been placed with it. -/
def adapt (delta count : Nat) (first : Bool) : Nat :=
  let delta := if first then delta / 700 else delta / 2
  let (delta, k) := scaleDown (delta + delta / count) 0
  k + 36 * delta / (delta + 38)

/-! ## Decoding -/

/-- A number from the front of the digits, with the digits after it. -/
def readNumber (bias k weight value : Nat) : List Char → Option (Nat × List Char)
  | [] => none
  | c :: rest =>
    match digitValue? c with
    | none => none
    | some d =>
      let value := value + d * weight
      if d < threshold k bias then some (value, rest)
      else readNumber bias (k + 36) (weight * (36 - threshold k bias)) value rest

theorem length_lt_of_readNumber {bias k weight value : Nat} {cs : List Char}
    {r : Nat × List Char} (h : readNumber bias k weight value cs = some r) :
    r.2.length < cs.length := by
  induction cs generalizing k weight value with
  | nil => simp [readNumber] at h
  | cons c rest ih =>
    unfold readNumber at h
    split at h
    · simp at h
    · simp only at h
      split at h
      · cases h; simp
      · have := ih h; simp only [List.length_cons]; omega

/-- Place the characters that the digits give among those that have been placed, from this code
point and place on. -/
def decodeFrom (n i bias : Nat) (first : Bool) (placed cs : List Char) : Option (List Char) :=
  match cs with
  | [] => some placed
  | c :: rest =>
    match h : readNumber bias 36 1 0 (c :: rest) with
    | none => none
    | some (delta, after) =>
      let count := placed.length + 1
      let code := n + (i + delta) / count
      let place := (i + delta) % count
      if Nat.isValidChar code then
        decodeFrom code (place + 1) (adapt delta count first) false
          (placed.insertIdx place (Char.ofNat code)) after
      else none
termination_by cs.length
decreasing_by exact length_lt_of_readNumber h

def decode? (cs : List Char) : Option (List Char) :=
  let digits := (cs.reverse.takeWhile (· ≠ '-')).reverse
  let basic := (cs.take (cs.length - digits.length)).dropLast
  if basic.isEmpty then decodeFrom 128 0 72 true [] cs
  else decodeFrom 128 0 72 true basic digits

/-! ## Encoding -/

def writeNumber (bias k value : Nat) : List Char :=
  let t := threshold k bias
  if value < t then [digit value]
  else
    digit (t + (value - t) % (36 - t)) :: writeNumber bias (k + 36) ((value - t) / (36 - t))
termination_by value
decreasing_by
  have := threshold_pos k bias
  exact Nat.lt_of_le_of_lt (Nat.div_le_self _ _) (by omega)

/-- What has been written: the digits in pieces, the last first, the distance since the last
character that was placed, the bias, and how many characters have been placed. -/
structure Writing where
  pieces : List (List Char)
  delta : Nat
  bias : Nat
  count : Nat

/-- Go over one character of the text while those with code point `n` are placed. -/
def Writing.pass (basic n : Nat) (w : Writing) (c : Char) : Writing :=
  if c.toNat < n then { w with delta := w.delta + 1 }
  else if c.toNat = n then
    { pieces := writeNumber w.bias 36 w.delta :: w.pieces
      delta := 0
      bias := adapt w.delta (w.count + 1) (w.count == basic)
      count := w.count + 1 }
  else w

/-- Place the characters with these code points, in increasing order from `n` on. -/
def encodeFrom (text : List Char) (basic n : Nat) : List Nat → Writing → Writing
  | [], w => w
  | code :: rest, w =>
    let w := text.foldl (Writing.pass basic code)
      { w with delta := w.delta + (code - n) * (w.count + 1) }
    encodeFrom text basic (code + 1) rest { w with delta := w.delta + 1 }

def encode (cs : List Char) : List Char :=
  let basic := cs.filter (·.toNat < 128)
  let others := ((cs.filter (128 ≤ ·.toNat)).map Char.toNat).mergeSort.eraseDups
  let w := encodeFrom cs basic.length 128 others ⟨[], 0, 72, basic.length⟩
  basic ++ (if basic.isEmpty then [] else ['-']) ++ w.pieces.reverse.flatten

end TrustPath.Punycode
