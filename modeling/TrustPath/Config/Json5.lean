import TrustPath.Config.Json
import TrustPath.Text.IdentifierTable

/-!
# Configurations in JSON5

JSON5 is JSON with comments, trailing commas, keys without quotes, texts in single quotes that may
go over several lines, and more ways to write a number. Blanks of all scripts separate tokens. A
whole number has to fit 64 bits, and a hexadecimal one, which has no sign, 32 bits; any other
number is a finite floating-point number, `Infinity` or `NaN`.
-/

namespace TrustPath.Json5

open TextParser

/-! ## Blanks and comments -/

def isLineEnd (c : Char) : Bool := c ∈ ['\n', '\r', '\u2028', '\u2029']

def isBlank (c : Char) : Bool :=
  isLineEnd c || c ∈ ['\t', '\x0b', '\x0c', ' ', '\u00a0', '\ufeff', '\u1680', '\u202f', '\u205f',
    '\u3000'] || (decide ('\u2000' ≤ c) && decide (c ≤ '\u200a'))

/-- What stands between the start and the end of a comment. -/
def afterComment? : List Char → Option (List Char)
  | '*' :: '/' :: rest => some rest
  | _ :: rest => afterComment? rest
  | [] => none

def comment : TextParser Unit := do
  (do
    word "/*"
    match afterComment? (← rest) with
    | some cs => set cs
    | none => failure) <|>
  (do
    word "//"
    let _ ← takeWhile fun c => !isLineEnd c)

def blanks : TextParser Unit := do
  let _ ← many ((do let _ ← takeWhile1 isBlank) <|> comment)

def mark (c : Char) : TextParser Unit := blanks *> char c *> blanks

/-! ## Numbers -/

/-- The digits of a decimal number before its point. -/
def wholeDigits : TextParser (List Char) := do
  match ← peek? with
  | some '0' => takeExactly (· == '0') 1
  | _ => takeWhile1 Char.isDigit

/-- The finite number that digits and an exponent spell. -/
def finite (negative : Bool) (whole fraction : List Char) (exponent : Int) :
    TextParser ConfigValue :=
  match ConfigValue.wholeNumber? (String.ofList (whole ++ fraction)) with
  | none => failure
  | some n =>
    match Binary64.ofDecimal negative n.toNat (exponent - fraction.length) with
    | .infinite _ => failure
    | x => return .float x

def decimal (negative : Bool) : TextParser ConfigValue :=
  (do
    char '.'
    let fraction ← takeWhile1 Char.isDigit
    finite negative [] fraction ((← optional Json.exponentPart).getD 0)) <|>
  (do
    let whole ← wholeDigits
    let fraction ← optional (char '.' *> takeWhile Char.isDigit)
    let exponent ← optional Json.exponentPart
    if fraction.isSome || exponent.isSome then
      finite negative whole (fraction.getD []) (exponent.getD 0)
    else
      match (ConfigValue.wholeNumber? (String.ofList whole)).map fun n =>
        if negative then -n else n with
      | some n => if isInt64 n then return .int n else failure
      | none => failure)

def hexadecimal : TextParser ConfigValue := do
  char '0'
  let _ ← satisfy fun c => c == 'x' || c == 'X'
  let digits ← takeWhile1 Octets.isHexDigit
  let n : Nat := digits.foldl (fun n c => 16 * n + (Octets.hexValue? c).getD 0) 0
  if n < Nat.pow 2 32 then return .int n else failure

def number : TextParser ConfigValue := do
  match ← optional (satisfy fun c => c == '+' || c == '-') with
  | none =>
    hexadecimal <|> decimal false <|> (word "Infinity" *> pure (.float (.infinite false)))
    <|> (word "NaN" *> pure (.float .nan))
  | some '-' =>
    decimal true <|> (word "Infinity" *> pure (.float (.infinite true)))
    <|> (word "NaN" *> pure (.float .nan))
  | some _ => decimal false

/-! ## Texts and keys -/

/-- The character of an escape after the backslash; none is stood for by the end of a line. -/
def escape : TextParser (Option Char) := do
  match ← any with
  | 'b' => return some '\x08'
  | 'f' => return some '\x0c'
  | 'n' => return some '\n'
  | 'r' => return some '\r'
  | 't' => return some '\t'
  | 'v' => return some '\x0b'
  | '0' => return some '\x00'
  | 'x' =>
    let digits ← takeExactly Octets.isHexDigit 2
    return some (Char.ofNat (digits.foldl (fun n c => 16 * n + (Octets.hexValue? c).getD 0) 0))
  | 'u' => return some (← Json.unicodeEscape)
  | '\r' =>
    let _ ← optional (char '\n')
    return none
  | c => if isLineEnd c then return none else if c.isDigit then failure else return some c

/-- A piece of a text between such quotes: an escape, or the characters up to the next one. -/
def textPiece (quote : Char) : TextParser (List Char) :=
  (Option.toList <$> (char '\\' *> escape)) <|>
  takeWhile1 fun c => c != quote && c != '\\' && !isLineEnd c

def textIn (quote : Char) : TextParser String := do
  char quote
  let pieces ← many (textPiece quote)
  char quote
  return String.ofList pieces.flatten

def text : TextParser String := textIn '"' <|> textIn '\''

def nameStart : TextParser Char :=
  (satisfy fun c => c == '$' || c == '_' || Text.letters.has c) <|>
  (word "\\u" *> Json.unicodeEscape)

def namePart : TextParser Char :=
  nameStart <|> satisfy fun c => c == '\u200c' || c == '\u200d' || Text.nameMarks.has c

def key : TextParser String :=
  (do return String.ofList ((← nameStart) :: (← many namePart))) <|> text

/-! ## Values -/

def scalar : TextParser ConfigValue :=
  (word "null" *> pure .nil) <|> (word "true" *> pure (.bool true))
  <|> (word "false" *> pure (.bool false)) <|> (ConfigValue.string <$> text) <|> number

/-- Items between two characters, with commas between them and possibly one at the end. -/
def items {α : Type} (first last : Char) (item : TextParser α) : TextParser (List α) := do
  char first *> blanks
  let found ← sepBy item (mark ',')
  if !found.isEmpty then
    let _ ← optional (mark ',')
  blanks *> char last
  return found

def entry (value : TextParser ConfigValue) : TextParser (String × ConfigValue) := do
  let k ← key
  mark ':'
  return (k, ← value)

/-- A value in which so many lists and objects may stand inside each other. -/
def value : Nat → TextParser ConfigValue
  | 0 => scalar
  | depth + 1 =>
    (ConfigValue.array <$> items '[' ']' (value depth))
    <|> ((ConfigValue.table ∘ ConfigTable.ofList) <$> items '\x7b' '\x7d' (entry (value depth)))
    <|> scalar

/-- The value of a whole text, which nests no deeper than it is long. -/
def parse? (s : String) : Option ConfigValue :=
  parseAll? (blanks *> value s.length <* blanks) s

end TrustPath.Json5
