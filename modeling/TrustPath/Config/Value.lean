import TrustPath.Decimal.Shortest
import TrustPath.Text.Lowercase

/-!
# Configuration values

What the text of a configuration says, whatever its format: nothing, truth values, numbers,
texts, lists and tables. A value is read as the type that is asked for even where it was written
as another: numbers and words stand for truth values, words and truth values for numbers, numbers
and truth values for texts.
-/

namespace TrustPath

/-- A value of a configuration. -/
inductive ConfigValue
  | nil
  | bool (b : Bool)
  | int (n : Int)
  | float (x : Binary64)
  | string (s : String)
  | array (values : List ConfigValue)
  | table (entries : List (String × ConfigValue))
deriving Repr, Inhabited

abbrev ConfigTable := List (String × ConfigValue)

def minInt64 : Int := -0x8000000000000000

/-- The greatest whole number of 64 bits with a sign. -/
def maxInt64 : Int := 0x7fffffffffffffff

def isInt64 (n : Int) : Bool := decide (minInt64 ≤ n) && decide (n ≤ maxInt64)

def isInt32 (n : Int) : Bool := decide (-0x80000000 ≤ n) && decide (n < 0x80000000)

namespace ConfigTable

def get? (entries : ConfigTable) (key : String) : Option ConfigValue := entries.lookup key

/-- Put a value at a key, in place of the one that is there. -/
def put (entries : ConfigTable) (key : String) (value : ConfigValue) : ConfigTable :=
  match entries with
  | [] => [(key, value)]
  | (k, v) :: rest => if k = key then (k, value) :: rest else (k, v) :: put rest key value

/-- The table of entries, of which the last with a key counts. -/
def ofList (entries : List (String × ConfigValue)) : ConfigTable :=
  entries.foldl (fun table (key, value) => table.put key value) []

end ConfigTable

namespace ConfigValue

/-- The digits of a whole number with an optional sign, read as the number. -/
def wholeNumber? (s : String) : Option Int :=
  let (negative, digits) := match s.toList with
    | '-' :: cs => (true, cs)
    | '+' :: cs => (false, cs)
    | cs => (false, cs)
  if digits.isEmpty || !digits.all Char.isDigit then none
  else
    let n : Nat := digits.foldl (fun n c => 10 * n + (c.toNat - 48)) 0
    some (if negative then -n else n)

def toBool? : ConfigValue → Option Bool
  | .bool b => some b
  | .int n => some (n != 0)
  | .float x => some (!x.isZero)
  | .string s =>
    let word := Text.lowercase s
    if ["1", "true", "on", "yes"].contains word then some true
    else if ["0", "false", "off", "no"].contains word then some false
    else none
  | _ => none

/-- A floating-point number as a whole number of 64 bits: the nearest, or the one at the end of the
range; what is no number counts as zero. -/
def wholeOf : Binary64 → Int
  | .nan => 0
  | .infinite negative => if negative then minInt64 else maxInt64
  | x => max minInt64 (min maxInt64 (x.round?.getD 0))

def toInt? : ConfigValue → Option Int
  | .int n => some n
  | .bool b => some (if b then 1 else 0)
  | .float x => some (wholeOf x)
  | .string s =>
    let word := Text.lowercase s
    if ["true", "on", "yes"].contains word then some 1
    else if ["false", "off", "no"].contains word then some 0
    else (wholeNumber? s).filter isInt64
  | _ => none

def toInt32? (value : ConfigValue) : Option Int := value.toInt?.filter isInt32

def toText? : ConfigValue → Option String
  | .string s => some s
  | .bool b => some (toString b)
  | .int n => some (toString n)
  | .float x => some x.text
  | _ => none

def toOption? {α : Type} (read : ConfigValue → Option α) : ConfigValue → Option (Option α)
  | .nil => some none
  | value => (read value).map some

def toList? {α : Type} (read : ConfigValue → Option α) : ConfigValue → Option (List α)
  | .array values => values.mapM read
  | _ => none

/-- The word that chooses one of several alternatives: a text, or the one key of a table. -/
def choice? : ConfigValue → Option String
  | .string s => some s
  | .table [(key, _)] => some key
  | _ => none

/-- The entries of a table; any other value counts as an empty table. -/
def entries : ConfigValue → ConfigTable
  | .table entries => entries
  | _ => []

/-- The members of a list; any other value counts as an empty list. -/
def members : ConfigValue → List ConfigValue
  | .array values => values
  | _ => []

end ConfigValue

end TrustPath
