import TrustPath.Config.Value
import TrustPath.Octets
import TrustPath.Text.Parser

/-!
# Configurations in JSON

The reader of JSON texts (RFC 8259). Numbers without fraction and exponent are whole numbers as
far as 64 bits go, and floating-point numbers beyond. The digits of a floating-point number are
gathered into 64 bits, digits that no longer fit being dropped, and then scaled by a power of ten.
At most 127 lists and objects may stand inside each other.
-/

namespace TrustPath.Json

open TextParser

/-! ## Numbers -/

/-- The greatest whole number of 64 bits without a sign. -/
def maxWord : Nat := Nat.pow 2 64 - 1

/-- Gather digits into 64 bits. The result has the number, how many digits were taken and how many
were dropped since the first that did not fit. -/
def gather (start : Nat) (digits : List Char) : Nat × Nat × Nat :=
  digits.foldl
    (fun (n, taken, dropped) c =>
      let next := 10 * n + (c.toNat - 48)
      if dropped = 0 ∧ next ≤ maxWord then (next, taken + 1, 0) else (n, taken, dropped + 1))
    (start, 0, 0)

def power (n : Nat) : Binary64 := .ofRatio false (Nat.pow 10 n) 1

/-- Scale a number by a power of ten; a number that is too great has no value. -/
def scale (x : Binary64) (exponent : Int) : Option Binary64 :=
  if x.isZero then some x
  else if 308 < exponent then none
  else if 0 ≤ exponent then
    match x.mul (power exponent.toNat) with
    | .infinite _ => none
    | y => some y
  else if -308 ≤ exponent then some (x.div (power exponent.natAbs))
  else scale (x.div (power 308)) (exponent + 308)
termination_by exponent.natAbs
decreasing_by omega

/-- The exponent after its letter: the number that its digits spell with their sign. -/
def exponentPart : TextParser Int := do
  let _ ← satisfy fun c => c == 'e' || c == 'E'
  let sign ← optional (satisfy fun c => c == '+' || c == '-')
  let digits ← takeWhile1 Char.isDigit
  match ConfigValue.wholeNumber? (String.ofList digits) with
  | some n => if sign = some '-' then return -n else return n
  | none => failure

/-- A floating-point number from the digits before and after the point, and the exponent. -/
def floatOf (whole fraction : List Char) (exponent : Int) : Option Binary64 :=
  let (n, _, dropped) := gather 0 whole
  let (n, taken, _) := gather n fraction
  scale (.ofRatio false n 1) ((dropped : Int) - (taken : Int) + exponent)

def number : TextParser ConfigValue := do
  let negative := (← optional (char '-')).isSome
  let digits ← takeWhile1 Char.isDigit
  if digits.head? = some '0' ∧ digits ≠ ['0'] then failure
  let fraction ← optional (char '.' *> takeWhile1 Char.isDigit)
  let exponent ← optional exponentPart
  let (n, _, dropped) := gather 0 digits
  let asFloat : TextParser ConfigValue :=
    match floatOf digits (fraction.getD []) (exponent.getD 0) with
    | some x => return .float (if negative then x.neg else x)
    | none => failure
  if fraction.isSome || exponent.isSome || dropped ≠ 0 then asFloat
  else if negative then
    if n = 0 then return .float (.finite true 0 0)
    else if isInt64 (-n) then return .int (-n) else asFloat
  else if isInt64 n then return .int n else asFloat

/-! ## Texts -/

def unit : TextParser Nat := do
  let digits ← takeExactly Octets.isHexDigit 4
  return digits.foldl (fun n c => 16 * n + (Octets.hexValue? c).getD 0) 0

/-- The character of an escape that starts with `u`: one unit, or a pair of units that stand for a
character together. -/
def unicodeEscape : TextParser Char := do
  let first ← unit
  if 0xdc00 ≤ first ∧ first < 0xe000 then failure
  else if 0xd800 ≤ first ∧ first < 0xdc00 then
    word "\\u"
    let second ← unit
    if 0xdc00 ≤ second ∧ second < 0xe000 then
      return Char.ofNat (0x10000 + (first - 0xd800) * 0x400 + (second - 0xdc00))
    else failure
  else return Char.ofNat first

/-- The character of an escape, after the backslash. -/
def escape : TextParser Char := do
  match ← any with
  | '"' => return '"'
  | '\\' => return '\\'
  | '/' => return '/'
  | 'b' => return '\x08'
  | 'f' => return '\x0c'
  | 'n' => return '\n'
  | 'r' => return '\r'
  | 't' => return '\t'
  | 'u' => unicodeEscape
  | _ => failure

/-- A piece of a text: an escape, or the characters up to the next one. -/
def textPiece : TextParser (List Char) :=
  (List.singleton <$> (char '\\' *> escape)) <|>
    takeWhile1 fun c => c != '"' && c != '\\' && ' ' ≤ c

def text : TextParser String := do
  char '"'
  let pieces ← many textPiece
  char '"'
  return String.ofList pieces.flatten

/-! ## Values -/

def blanks : TextParser Unit := do
  let _ ← takeWhile fun c => c ∈ [' ', '\t', '\n', '\r']

def mark (c : Char) : TextParser Unit := blanks *> char c *> blanks

def scalar : TextParser ConfigValue :=
  (word "null" *> pure .nil) <|> (word "true" *> pure (.bool true))
  <|> (word "false" *> pure (.bool false)) <|> (ConfigValue.string <$> text) <|> number

def array (value : TextParser ConfigValue) : TextParser ConfigValue := do
  char '[' *> blanks
  let values ← sepBy value (mark ',')
  blanks *> char ']'
  return .array values

def object (value : TextParser ConfigValue) : TextParser ConfigValue := do
  char '\x7b' *> blanks
  let entry : TextParser (String × ConfigValue) := do
    let key ← text
    mark ':'
    return (key, ← value)
  let entries ← sepBy entry (mark ',')
  blanks *> char '\x7d'
  return .table (ConfigTable.ofList entries)

/-- A value in which so many lists and objects may stand inside each other. -/
def value : Nat → TextParser ConfigValue
  | 0 => scalar
  | depth + 1 => array (value depth) <|> object (value depth) <|> scalar

def parse? (s : String) : Option ConfigValue := parseAll? (blanks *> value 127 <* blanks) s

end TrustPath.Json
