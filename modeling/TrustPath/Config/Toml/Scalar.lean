import TrustPath.Config.Json

/-!
# Simple values in TOML

Texts, numbers, truth values, dates and times of TOML 1.0. Dates and times are kept as texts, in
their normal form: a `T` between date and time, no zeros at the end of a fraction, of which nine
digits count.
-/

namespace TrustPath.Toml

open TextParser

/-! ## Blanks and comments -/

def isBlank (c : Char) : Bool := c == ' ' || c == '\t'

def blanks : TextParser Unit := do
  let _ ← takeWhile isBlank

def lineEnd : TextParser Unit := word "\n" <|> word "\r\n"

/-- A character that may stand in a text or a comment: no control but the tab. -/
def isPlain (c : Char) : Bool := c == '\t' || (decide (' ' ≤ c) && c != '\x7f')

def comment : TextParser Unit := do
  char '#'
  let _ ← takeWhile isPlain

def gap : TextParser Unit := do
  let _ ← many ((do let _ ← takeWhile1 isBlank) <|> lineEnd <|> comment)

/-! ## Texts -/

def hexNumber (digits : List Char) : Nat :=
  digits.foldl (fun n c => 16 * n + (Octets.hexValue? c).getD 0) 0

def codePoint (digits : Nat) : TextParser Char := do
  let n := hexNumber (← takeExactly Octets.isHexDigit digits)
  if n.isValidChar then return Char.ofNat n else failure

/-- The character of an escape, after the backslash. -/
def escape : TextParser Char := do
  match ← any with
  | 'b' => return '\x08'
  | 't' => return '\t'
  | 'n' => return '\n'
  | 'f' => return '\x0c'
  | 'r' => return '\r'
  | '"' => return '"'
  | '\\' => return '\\'
  | 'u' => codePoint 4
  | 'U' => codePoint 8
  | _ => failure

def basicText : TextParser String := do
  char '"'
  let pieces ← many
    ((List.singleton <$> (char '\\' *> escape))
      <|> takeWhile1 fun c => isPlain c && c != '"' && c != '\\')
  char '"'
  return String.ofList pieces.flatten

def literalText : TextParser String := do
  char '\''
  let cs ← takeWhile fun c => isPlain c && c != '\''
  char '\''
  return String.ofList cs

/-- Fewer than three quotes, which do not end a text of several lines. -/
def innerQuotes (quote : Char) : TextParser (List Char) := do
  let quotes ← takeWhile1 (· == quote)
  if quotes.length < 3 then return quotes else failure

/-- The three quotes at the end of a text of several lines, and up to two before them that belong
to it. -/
def lastQuotes (quote : Char) : TextParser (List Char) := do
  let quotes ← takeWhile1 (· == quote)
  if quotes.length < 3 then failure
  else
    set (List.replicate (quotes.length - 5) quote ++ (← rest))
    return List.replicate (min quotes.length 5 - 3) quote

/-- A piece of a text of several lines: a line end, an escape, quotes or other characters. After a
backslash at its end, a line goes on with the next one that is not blank. -/
def piece (quote : Char) (escapes : Bool) : TextParser (List Char) :=
  (lineEnd *> pure ['\n'])
  <|> innerQuotes quote
  <|> (do
    if !escapes then failure
    char '\\'
    ((blanks *> lineEnd *> (do let _ ← many (lineEnd <|> (do let _ ← takeWhile1 isBlank)))) *>
      pure []) <|> (List.singleton <$> escape))
  <|> takeWhile1 fun c => isPlain c && c != quote && !(escapes && c == '\\')

/-- A text of several lines between three quotes at each end. A line end right after the first
quotes does not count. -/
def longText (quote : Char) (escapes : Bool) : TextParser String := do
  char quote *> char quote *> char quote
  let _ ← optional lineEnd
  let pieces ← many (piece quote escapes)
  return String.ofList (pieces.flatten ++ (← lastQuotes quote))

def text : TextParser String :=
  longText '"' true <|> longText '\'' false <|> basicText <|> literalText

/-! ## Numbers -/

def grouped (isDigit : Char → Bool) : TextParser (List Char) := do
  return (← satisfy isDigit) :: (← many (satisfy isDigit <|> (char '_' *> satisfy isDigit)))

/-- The digits of a decimal number, which starts with zero only if it is zero. -/
def wholeDigits : TextParser (List Char) := do
  match ← peek? with
  | some '0' => takeExactly (· == '0') 1
  | _ => grouped Char.isDigit

def sign : TextParser Bool := do
  return (← optional (satisfy fun c => c == '+' || c == '-')) = some '-'

def exponent : TextParser Int := do
  let _ ← satisfy fun c => c == 'e' || c == 'E'
  let negative ← sign
  let digits ← grouped Char.isDigit
  match ConfigValue.wholeNumber? (String.ofList digits) with
  | some n => return if negative then -n else n
  | none => failure

/-- A floating-point number. One that is too great has no value, unless it is negative. -/
def float : TextParser ConfigValue := do
  let negative ← sign
  (word "inf" *> pure (.float (.infinite negative))) <|> (word "nan" *> pure (.float .nan)) <|> (do
    let whole ← wholeDigits
    let fraction ← optional (char '.' *> grouped Char.isDigit)
    let exponent ← optional exponent
    if fraction.isNone && exponent.isNone then failure
    let fraction := fraction.getD []
    match ConfigValue.wholeNumber? (String.ofList (whole ++ fraction)) with
    | none => failure
    | some n =>
      match Binary64.ofDecimal negative n.toNat (exponent.getD 0 - fraction.length) with
      | .infinite false => failure
      | x => return .float x)

def bounded (n : Int) : TextParser ConfigValue := if isInt64 n then return .int n else failure

def based (mark : String) (base : Nat) : TextParser ConfigValue := do
  word mark
  let isDigit (c : Char) : Bool := ((Octets.hexValue? c).filter (· < base)).isSome
  let digits ← grouped isDigit
  bounded (digits.foldl (fun (n : Nat) c => base * n + (Octets.hexValue? c).getD 0) 0 : Nat)

def whole : TextParser ConfigValue :=
  based "0x" 16 <|> based "0o" 8 <|> based "0b" 2 <|> (do
    let negative ← sign
    match ConfigValue.wholeNumber? (String.ofList (← wholeDigits)) with
    | some n => bounded (if negative then -n else n)
    | none => failure)

/-! ## Dates and times -/

/-- A number in so many digits within bounds, as its digits. -/
def field (digits least greatest : Nat) : TextParser (List Char) := do
  let cs ← takeExactly Char.isDigit digits
  let n : Nat := cs.foldl (fun n c => 10 * n + (c.toNat - 48)) 0
  if least ≤ n ∧ n ≤ greatest then return cs else failure

/-- The number of days in a month, given as digits. -/
def daysIn (year month : List Char) : Nat :=
  let number (cs : List Char) : Nat := cs.foldl (fun n c => 10 * n + (c.toNat - 48)) 0
  let leap : Bool := let y := number year; y % 4 == 0 && (y % 100 != 0 || y % 400 == 0)
  match number month with
  | 2 => if leap then 29 else 28
  | 4 | 6 | 9 | 11 => 30
  | _ => 31

def date : TextParser (List Char) := do
  let year ← field 4 0 9999
  char '-'
  let month ← field 2 1 12
  char '-'
  let day ← field 2 1 (daysIn year month)
  return year ++ '-' :: month ++ '-' :: day

/-- A fraction of a second with its point; nothing is left of one that is zero. -/
def fraction : TextParser (List Char) := do
  char '.'
  let digits ← takeWhile1 Char.isDigit
  let kept := ((digits.take 9).reverse.dropWhile (· == '0')).reverse
  return if kept.isEmpty then [] else '.' :: kept

def time : TextParser (List Char) := do
  let hour ← field 2 0 23
  char ':'
  let minute ← field 2 0 59
  char ':'
  let second ← field 2 0 60
  return hour ++ ':' :: minute ++ ':' :: second ++ (← optional fraction).getD []

/-- The distance from universal time; no distance has the sign plus. -/
def offset : TextParser (List Char) :=
  (satisfy (fun c => c == 'Z' || c == 'z') *> pure ['Z']) <|> (do
    let sign ← satisfy fun c => c == '+' || c == '-'
    let hour ← field 2 0 23
    char ':'
    let minute ← field 2 0 59
    let none := hour == ['0', '0'] && minute == ['0', '0']
    return (if none then '+' else sign) :: hour ++ ':' :: minute)

/-- A date, a time, or both with an optional offset. -/
def dateTime : TextParser ConfigValue :=
  (do
    let date ← date
    let time ← optional (do
      let _ ← satisfy fun c => c == 'T' || c == 't' || c == ' '
      let time ← time
      return 'T' :: time ++ (← optional offset).getD [])
    return .string (String.ofList (date ++ time.getD []))) <|>
  (do return .string (String.ofList (← time)))

def scalar : TextParser ConfigValue :=
  (ConfigValue.string <$> text) <|> (word "true" *> pure (.bool true))
  <|> (word "false" *> pure (.bool false)) <|> dateTime <|> float <|> whole

end TrustPath.Toml
