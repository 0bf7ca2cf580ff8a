import TrustPath.Host.Domain.ContextTable
import TrustPath.Host.Domain.MappingTable
import TrustPath.Host.Punycode
import TrustPath.Text.Composition
import TrustPath.Text.Lowercase
import TrustPath.Text.Split

/-!
# Names of domains

The name of a domain is brought into the ASCII form that is looked up. Variants of characters
become the usual ones, the text is composed, and its labels between the dots are checked; a label
that is not ASCII is written in Punycode behind `xn--`, and one that is so written has to stand
for such a label. The labels have any length, and may be empty.
-/

namespace TrustPath.Domain

open Text

/-! ## Characters -/

/-- What a character becomes, if it may occur. -/
def map? (c : Char) : Option (List Char) :=
  if c.toNat < 0x80 then some [c.toLower]
  else if !allowed.has c then none
  else if ignored.has c then some []
  else match spelled.get? c, CodePointRun.move? moved c with
    | some s, _ => some s.toList
    | none, some d => some [d]
    | none, none => some [if keptCapitals.has c then c else lowerChar c]

/-- Whether a character is one that others become. -/
def isSettled (c : Char) : Bool := decide (map? c = some [c])

/-- The ASCII characters that no domain contains: controls, the blank, and those with a meaning in
a URI. -/
def isDenied (c : Char) : Bool :=
  decide (c ≤ ' ') || c == '\x7f'
  || c ∈ ['%', '#', '/', ':', '<', '>', '?', '@', '[', '\\', ']', '^', '|']

/-! ## Joiners -/

/-- The two invisible characters that keep letters apart and join them. -/
def isJoiner (c : Char) : Bool := c == '\u200c' || c == '\u200d'

/-- Whether a joiner may stand between two texts, the first of which is in reverse: after a sign
that removes a vowel, or to keep two letters apart that would join. -/
def joinerFits (joiner : Char) (before after : List Char) : Bool :=
  let joins (sides : List CodePoints) (cs : List Char) : Bool :=
    match cs.dropWhile transparent.has with
    | c :: _ => sides.any (·.has c)
    | [] => false
  before.head?.any (combiningClass · == 9)
  || (joiner == '\u200c' && joins [leftJoining, dualJoining] before
    && joins [rightJoining, dualJoining] after)

/-- Whether every joiner fits, where `before` is in reverse what precedes. -/
def joinersFit (before : List Char) : List Char → Bool
  | [] => true
  | c :: rest => (!isJoiner c || joinerFits c before rest) && joinersFit (c :: before) rest

/-! ## Directions -/

/-- The directions in which characters are written. -/
inductive Direction
  | left
  | right
  | european
  | arabic
  | neutral
  | mark
deriving Repr, DecidableEq

def direction (c : Char) : Direction :=
  if rightToLeft.has c then .right
  else if europeanDigits.has c then .european
  else if arabicDigits.has c then .arabic
  else if neutrals.has c then .neutral
  else if spacelessMarks.has c then .mark
  else .left

/-- Whether a label makes its domain one with texts from right to left. -/
def turns (cs : List Char) : Bool := cs.any fun c => direction c ∈ [.right, .arabic]

/-- Whether the directions in a label go together. It starts with a letter, and everything in it
agrees with that up to the last character, marks aside. -/
def directionsFit (cs : List Char) : Bool :=
  let directions := cs.map direction
  let last := (directions.reverse.dropWhile (· = .mark)).head?
  match directions with
  | [] => true
  | .left :: _ =>
    directions.all (· ∈ [.left, .european, .neutral, .mark])
      && last.any (· ∈ [.left, .european])
  | .right :: _ =>
    directions.all (· ≠ .left) && last.any (· ∈ [.right, .european, .arabic])
      && !(directions.contains .european && directions.contains .arabic)
  | _ => false

/-! ## Labels -/

/-- The start of a label that is written in Punycode. -/
def punycodeMark : List Char := ['x', 'n', '-', '-']

def isAscii (cs : List Char) : Bool := cs.all (·.toNat < 0x80)

/-- The text of a label that is written in Punycode. It must be one that has to be, and the one
that its variants become. -/
def decodeLabel? (cs : List Char) : Option (List Char) :=
  (Punycode.decode? cs).filter fun label =>
    !isAscii label && label.all isSettled && composed label == label
    && !punycodeMark.isPrefixOf label

/-- The text of a label, if it is valid on its own. -/
def readLabel? (cs : List Char) : Option (List Char) :=
  (match stripStart? punycodeMark cs with
    | some rest => decodeLabel? rest
    | none => some cs).filter fun label =>
      !label.any isDenied && !label.head?.any marks.has && joinersFit [] label

def writeLabel (label : List Char) : List Char :=
  if isAscii label then label else punycodeMark ++ Punycode.encode label

def toAscii? (cs : List Char) : Option (List Char) := do
  let settled := composed (← cs.mapM map?).flatten
  let labels ← (fields '.' settled).mapM readLabel?
  if labels.any turns && !labels.all directionsFit then none
  else return ['.'].intercalate (labels.map writeLabel)

end TrustPath.Domain
