import TrustPath.Text.CompositionTable

/-!
# Composed characters

One text can be spelled in several ways, with a letter and its accents as one character or as
several. The composed form is the same for all spellings: every character is taken apart as far as
possible, accents are put into order, and then letters and accents are put together again.
-/

namespace TrustPath.Text

/-- The number by which accents on one letter are ordered, or zero. -/
def combiningClass (c : Char) : Nat :=
  if c.toNat < 0x300 then 0
  else
    ((combiningClasses.find? fun (first, last, _) =>
      decide (first ≤ c.toNat) && decide (c.toNat ≤ last)).map (·.2.2)).getD 0

/-! ## Taking apart -/

/-- A syllable of Hangul as its two or three letters. -/
def decomposeHangul (c : Char) : List Char :=
  let index := c.toNat - 0xac00
  let first := Char.ofNat (0x1100 + index / 588)
  let second := Char.ofNat (0x1161 + index % 588 / 28)
  if index % 28 = 0 then [first, second] else [first, second, Char.ofNat (0x11a7 + index % 28)]

/-- What a character is made of, in one step. -/
def decomposeOnce (c : Char) : List Char :=
  if c.toNat < 0xc0 then [c]
  else if 0xac00 ≤ c.toNat ∧ c.toNat ≤ 0xd7a3 then decomposeHangul c
  else match canonicalPairs.get? c, canonicalSingles.get? c with
    | some (a, b), _ => [Char.ofNat a, Char.ofNat b]
    | none, some a => [Char.ofNat a]
    | none, none => [c]

def decompose : Nat → Char → List Char
  | 0, c => [c]
  | steps + 1, c => (decomposeOnce c).flatMap (decompose steps)

/-- Put an accent in front of accents that are in order. -/
def insertAccent (c : Char) : List Char → List Char
  | [] => [c]
  | d :: rest =>
    if 0 < combiningClass d ∧ combiningClass d < combiningClass c then d :: insertAccent c rest
    else c :: d :: rest

/-- Put the accents of each letter into order, where accents of one class keep theirs. -/
def orderAccents (cs : List Char) : List Char := cs.foldr insertAccent []

/-! ## Putting together -/

def pair? (a b : Char) : Option Char :=
  let i := a.toNat - 0x1100
  let j := b.toNat - 0x1161
  let k := b.toNat - 0x11a7
  if 0x1100 ≤ a.toNat ∧ i < 19 ∧ 0x1161 ≤ b.toNat ∧ j < 21 then
    some (Char.ofNat (0xac00 + (i * 21 + j) * 28))
  else if 0xac00 ≤ a.toNat ∧ a.toNat ≤ 0xd7a3 ∧ (a.toNat - 0xac00) % 28 = 0
      ∧ 0x11a7 < b.toNat ∧ k < 28 then
    some (Char.ofNat (a.toNat + k))
  else
    ((canonicalPairs.codePointOf? (a.toNat, b.toNat)).map Char.ofNat).filter fun c =>
      !compositionExclusions.has c

/-- Put together what follows a letter: `accents` holds, in reverse, the accents after it with
which it does not combine. An accent is out of the letter's reach behind one of no lower class. -/
def composeAfter (letter : Char) (accents : List Char) : List Char → List Char
  | [] => letter :: accents.reverse
  | c :: rest =>
    let reached := match accents with
      | [] => true
      | d :: _ => decide (combiningClass d < combiningClass c)
    match if reached then pair? letter c else none with
    | some combined => composeAfter combined accents rest
    | none =>
      if combiningClass c = 0 then letter :: accents.reverse ++ composeAfter c [] rest
      else composeAfter letter (c :: accents) rest

/-- Put letters and accents together, after the accents that precede all letters. -/
def compose : List Char → List Char
  | [] => []
  | c :: rest =>
    if combiningClass c = 0 then composeAfter c [] rest else c :: compose rest

/-- The composed form of a text. No character is taken apart in more than four steps. -/
def composed (cs : List Char) : List Char :=
  if cs.all (·.toNat < 0xc0) then cs else compose (orderAccents (cs.flatMap (decompose 4)))

end TrustPath.Text
