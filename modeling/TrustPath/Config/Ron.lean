import TrustPath.Config.Json5

/-!
# Configurations in RON

In RON a table is a struct with named fields, with or without a name in front, or a map with
texts as keys; a list is written in brackets or as a tuple. `None`, the unit and a name by itself
stand for nothing, and `Some` for what it holds. A text may start with directives that enable
extensions of the format. Whole numbers have an optional sign, may be grouped by underscores and
written in other bases; what is no whole number of 64 bits is read as a floating-point number.
-/

namespace TrustPath.Ron

open TextParser

/-! ## Blanks and comments -/

def isBlank (c : Char) : Bool := c ∈ [' ', '\t', '\n', '\r']

/-- What follows a comment that ends `level` levels up; comments stand inside each other. -/
def afterComment? (level : Nat) : List Char → Option (List Char)
  | '/' :: '*' :: rest => afterComment? (level + 1) rest
  | '*' :: '/' :: rest =>
    match level with
    | 0 => some rest
    | level + 1 => afterComment? level rest
  | _ :: rest => afterComment? level rest
  | [] => none

def comment : TextParser Unit := do
  (do
    word "/*"
    match afterComment? 0 (← rest) with
    | some cs => set cs
    | none => failure) <|>
  (do
    word "//"
    let _ ← takeWhile (· != '\n'))

def blanks : TextParser Unit := do
  let _ ← many ((do let _ ← takeWhile1 isBlank) <|> comment)

def mark (c : Char) : TextParser Unit := blanks *> char c *> blanks

/-! ## Names -/

def isNameStart (c : Char) : Bool := c.isAlpha || c == '_'

def isNamePart (c : Char) : Bool := c.isAlphanum || c == '_'

def isRawPart (c : Char) : Bool := isNamePart c || c == '.' || c == '+' || c == '-'

/-- A name. One that is marked by `r#` may have more characters; a name that goes on with such a
character without the mark is none, nor is the start of a text that is marked as raw. -/
def name : TextParser String := do
  match ← rest with
  | 'r' :: '"' :: _ | ['r'] => failure
  | 'r' :: '#' :: _ =>
    word "r#"
    return String.ofList (← takeWhile1 isRawPart)
  | c :: _ =>
    if isNameStart c then
      let cs ← takeWhile isNamePart
      if ← looksAt (satisfy isRawPart) then failure else return String.ofList cs
    else failure
  | [] => failure

/-- A particular name that is not the start of a longer one. -/
def nameOf (s : String) : TextParser Unit := do
  word s
  if ← looksAt (satisfy isNamePart) then failure

/-! ## Numbers -/

def isFloatChar (c : Char) : Bool := c.isDigit || c ∈ ['e', 'E', '.', '+', '-', '_']

def isIntChar (c : Char) : Bool := Octets.isHexDigit c || c == '_'

/-- The decimal number that a text spells: sign, digits with an optional point, exponent. -/
def decimal : TextParser Binary64 := do
  let sign ← optional (satisfy fun c => c == '+' || c == '-')
  let whole ← takeWhile Char.isDigit
  let fraction := (← optional (char '.' *> takeWhile Char.isDigit)).getD []
  let exponent := (← optional Json.exponentPart).getD 0
  match ConfigValue.wholeNumber? (String.ofList (whole ++ fraction)) with
  | some n => return .ofDecimal (sign = some '-') n.toNat (exponent - fraction.length)
  | none => failure

/-- A floating-point number: all characters that could belong to it have to. -/
def float : TextParser ConfigValue := do
  let cs ← takeWhile1 isFloatChar
  match parseAll? decimal (String.ofList cs) with
  | some x => return .float x
  | none => failure

/-- The base of a number, from the mark at its start. -/
def base : TextParser Nat :=
  (word "0x" *> pure 16) <|> (word "0o" *> pure 8) <|> (word "0b" *> pure 2) <|> pure 10

/-- The number that digits in a base spell, underscores left out. -/
def inBase? (base : Nat) (cs : List Char) : Option Nat :=
  (cs.filter (· != '_')).foldl
    (fun n c => do
      let digit ← (Octets.hexValue? c).filter (· < base)
      return (← n) * base + digit) (some 0)

/-- A whole number: of 64 bits, with a sign only if one is written. A greater one without a sign
counts as a floating-point number. -/
def whole : TextParser ConfigValue := do
  let sign ← optional (satisfy fun c => c == '+' || c == '-')
  let base ← base
  let cs ← takeWhile1 isIntChar
  if cs.head? = some '_' then failure
  match inBase? base cs, sign with
  | some n, some '-' => if isInt64 (-n) then return .int (-n) else failure
  | some n, some _ => if isInt64 n then return .int n else failure
  | some n, none =>
    if isInt64 n then return .int n
    else if n < Nat.pow 2 64 then return .float (.ofRatio false n 1)
    else failure
  | none, _ => failure

/-- A number. It is a floating-point number if it goes on further as one than as a whole number,
or is none of those. -/
def number : TextParser ConfigValue := do
  let cs ← rest
  let digits := match cs with
    | '+' :: cs | '-' :: cs => cs
    | cs => cs
  if (digits.takeWhile isIntChar).length < (digits.takeWhile isFloatChar).length then float
  else whole <|> float

/-! ## Texts -/

/-- The character of an escape, after the backslash. -/
def escape : TextParser Char := do
  let hexadecimal (digits : List Char) : Nat :=
    digits.foldl (fun n c => 16 * n + (Octets.hexValue? c).getD 0) 0
  match ← any with
  | '\'' => return '\''
  | '"' => return '"'
  | '\\' => return '\\'
  | 'n' => return '\n'
  | 'r' => return '\r'
  | 't' => return '\t'
  | '0' => return '\x00'
  | 'x' => return Char.ofNat (hexadecimal (← takeExactly Octets.isHexDigit 2))
  | 'u' =>
    char '\x7b'
    let digits ← takeWhile1 Octets.isHexDigit
    char '\x7d'
    let n := hexadecimal digits
    if digits.length ≤ 6 ∧ n.isValidChar then return Char.ofNat n else failure
  | _ => failure

def quotedText : TextParser String := do
  char '"'
  let pieces ← many
    ((List.singleton <$> (char '\\' *> escape)) <|> takeWhile1 fun c => c != '"' && c != '\\')
  char '"'
  return String.ofList pieces.flatten

/-- What stands before the first occurrence of an ending, and what follows it. -/
def cutAt? (ending : List Char) : List Char → Option (List Char × List Char)
  | [] => if ending.isEmpty then some ([], []) else none
  | c :: rest =>
    if ending.isPrefixOf (c :: rest) then some ([], (c :: rest).drop ending.length)
    else (cutAt? ending rest).map fun (before, after) => (c :: before, after)

/-- A text that is marked as raw, up to a quote with as many hash signs as at its start. -/
def rawText : TextParser String := do
  char 'r'
  let hashes ← takeWhile (· == '#')
  char '"'
  match cutAt? ('"' :: hashes) (← rest) with
  | some (before, after) =>
    set after
    return String.ofList before
  | none => failure

def text : TextParser String := quotedText <|> rawText

def character : TextParser String := do
  char '\''
  let c ← (char '\\' *> escape) <|> satisfy fun c => c != '\'' && c != '\\'
  char '\''
  return String.singleton c

/-! ## Values -/

def constant : TextParser ConfigValue :=
  (nameOf "true" *> pure (.bool true)) <|> (nameOf "false" *> pure (.bool false))
  <|> (nameOf "None" *> pure .nil) <|> (word "()" *> pure .nil)
  <|> (nameOf "inf" *> pure (.float (.infinite false)))
  <|> (nameOf "-inf" *> pure (.float (.infinite true)))
  <|> (nameOf "NaN" *> pure (.float .nan))

/-- Items between two characters, with commas between them and possibly one at the end. -/
def items {α : Type} (first last : Char) (item : TextParser α) : TextParser (List α) := do
  char first *> blanks
  let found ← sepBy item (mark ',')
  if !found.isEmpty then
    let _ ← optional (mark ',')
  blanks *> char last
  return found

def entry (key : TextParser String) (value : TextParser ConfigValue) :
    TextParser (String × ConfigValue) := do
  let k ← key
  mark ':'
  return (k, ← value)

def tableOf (entries : List (String × ConfigValue)) : ConfigValue :=
  .table (ConfigTable.ofList entries)

/-- Whether a struct with named fields starts here. -/
def namesField : TextParser Unit := do
  char '(' *> blanks
  let _ ← name
  mark ':'

/-- A struct or a tuple in parentheses; nothing if there are none. -/
def grouped (value : TextParser ConfigValue) : TextParser ConfigValue := do
  if ← looksAt (char '(') then
    if ← looksAt namesField then tableOf <$> items '(' ')' (entry name value)
    else ConfigValue.array <$> items '(' ')' value
  else return .nil

/-- What `Some` holds. -/
def held (value : TextParser ConfigValue) : TextParser ConfigValue := do
  nameOf "Some" *> mark '('
  let v ← value
  let _ ← optional (mark ',')
  blanks *> char ')'
  return v

/-- A value in which so many lists and tables may stand inside each other. -/
def value : Nat → TextParser ConfigValue
  | 0 => constant <|> ConfigValue.string <$> (text <|> character) <|> number
  | depth + 1 => do
    if ← looksAt constant then constant
    else if ← looksAt (nameOf "Some") then held (value depth)
    else if ← looksAt name then name *> blanks *> grouped (value depth)
    else match ← peek? with
    | some '(' => grouped (value depth)
    | some '[' => ConfigValue.array <$> items '[' ']' (value depth)
    | some '\x7b' => tableOf <$> items '\x7b' '\x7d' (entry (text <|> character) (value depth))
    | some '"' | some 'r' => ConfigValue.string <$> text
    | some '\'' => ConfigValue.string <$> character
    | _ => number

def extensions : List String := ["unwrap_newtypes", "implicit_some", "unwrap_variant_newtypes"]

def directive : TextParser Unit := do
  char '#' *> blanks *> char '!' *> blanks *> char '[' *> blanks *> word "enable" *> mark '('
  let names ← sepBy1 name (mark ',')
  let _ ← optional (mark ',')
  mark ')'
  mark ']'
  if names.all extensions.contains then return () else failure

def parse? (s : String) : Option ConfigValue :=
  parseAll? (blanks *> many directive *> value 64 <* blanks) s

end TrustPath.Ron
