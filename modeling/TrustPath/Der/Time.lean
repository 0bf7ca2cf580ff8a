import TrustPath.Der.Reader

/-!
# Time values

The two ASN.1 time types, `UTCTime` with two digits for the year and `GeneralizedTime` with four.
A time is kept as it was written, on the calendar and clock of its own offset from UTC, and has a
count of seconds since 1970.
-/

namespace TrustPath

/-- A moment on the calendar, with its offset from UTC in seconds. -/
structure Time where
  year : Nat
  month : Nat
  day : Nat
  hour : Nat
  minute : Nat
  second : Nat
  millisecond : Nat
  offset : Int
deriving Repr, DecidableEq

namespace Time

/-- A year with a twenty-ninth of February. -/
def isLeap (year : Nat) : Bool := year % 4 == 0 && (year % 100 != 0 || year % 400 == 0)

def daysIn (year month : Nat) : Nat :=
  if month = 2 then (if isLeap year then 29 else 28)
  else if month ∈ [4, 6, 9, 11] then 30
  else 31

/-- Days from the first day of the year 0 to the first day of a year. -/
def daysBeforeYear (year : Nat) : Nat :=
  365 * year + (year + 3) / 4 - (year + 99) / 100 + (year + 399) / 400

/-- Days from the first day of a year to the first day of a month. -/
def daysBeforeMonth (year month : Nat) : Nat :=
  (List.range (month - 1)).foldl (fun days m => days + daysIn year (m + 1)) 0

def epochDay (t : Time) : Int :=
  ((daysBeforeYear t.year + daysBeforeMonth t.year t.month + t.day - 1 : Nat) : Int)
    - (daysBeforeYear 1970 : Nat)

/-- Seconds since the start of 1970 in UTC, without the fraction. -/
def timestamp (t : Time) : Int :=
  t.epochDay * 86400 + (t.hour * 3600 + t.minute * 60 + t.second : Nat) - t.offset

/-! ## Printing -/

/-- A number in decimal with zeros in front up to a width. -/
def padded (width n : Nat) : String :=
  let digits := Nat.toDigits 10 n
  String.ofList (List.replicate (width - digits.length) '0' ++ digits)

/-- The fraction of a second without zeros at the end, at least one digit. -/
def fraction (millisecond : Nat) : String :=
  let digits := (padded 3 millisecond).toList.reverse.dropWhile (· = '0')
  if digits.isEmpty then "0" else String.ofList digits.reverse

def offsetText (offset : Int) : String :=
  let n := offset.natAbs
  (if offset < 0 then "-" else "+") ++ padded 2 (n / 3600) ++ ":" ++ padded 2 (n / 60 % 60)
    ++ ":" ++ padded 2 (n % 60)

/-- The moment in full: the hour is the only part without a leading zero. -/
def text (t : Time) : String :=
  padded 4 t.year ++ "-" ++ padded 2 t.month ++ "-" ++ padded 2 t.day ++ " "
    ++ toString t.hour ++ ":" ++ padded 2 t.minute ++ ":" ++ padded 2 t.second ++ "."
    ++ fraction t.millisecond ++ " " ++ offsetText t.offset

instance : ToString Time := ⟨text⟩

/-! ## Reading -/

def digit? (b : UInt8) : Option Nat :=
  if 48 ≤ b.toNat ∧ b.toNat ≤ 57 then some (b.toNat - 48) else none

/-- The number of two decimal digits at the start, and the rest. -/
def two? : Octets → Option (Nat × Octets)
  | a :: b :: rest => do return (10 * (← digit? a) + (← digit? b), rest)
  | _ => none

/-- The offset that ends a time: `Z`, or a sign with hours and minutes. The sign belongs to the
hours and is lost where there are none. -/
def zone? : Octets → Option Int
  | [90] => some 0
  | sign :: rest =>
    if sign = 43 ∨ sign = 45 then do
      let (hours, rest) ← two? rest
      let (minutes, rest) ← two? rest
      if rest.isEmpty ∧ hours ≤ 25 ∧ minutes ≤ 59 then
        let seconds : Int := (hours * 3600 + minutes * 60 : Nat)
        return if sign = 45 ∧ hours ≠ 0 then -seconds else seconds
      else none
    else none
  | [] => none

/-- The time with the given parts, if the calendar and the clock have it. -/
def make? (year month day hour minute second millisecond : Nat) (offset : Int) : Option Time :=
  if 1 ≤ month ∧ month ≤ 12 ∧ 1 ≤ day ∧ day ≤ daysIn year month ∧ hour ≤ 23 ∧ minute ≤ 59
      ∧ second ≤ 59 then
    some ⟨year, month, day, hour, minute, second, millisecond, offset⟩
  else none

/-- The century that a year of two digits belongs to: 1950 to 2049. -/
def fullYear (year : Nat) : Nat := if 50 ≤ year then 1900 + year else 2000 + year

/-- The seconds of a time, which may be left out; two characters that are not digits are
passed over. -/
def optionalSeconds : Octets → Nat × Octets
  | a :: b :: rest =>
    match two? [a, b] with
    | some (n, _) => (n, rest)
    | none => (0, rest)
  | rest => (0, rest)

def ofUtc? (content : Octets) : Option Time := do
  if content.any fun b => decide (b.toNat < 0x20) || decide (0x7f < b.toNat) then none
  let (year, rest) ← two? content
  let (month, rest) ← two? rest
  let (day, rest) ← two? rest
  let (hour, rest) ← two? rest
  let (minute, rest) ← two? rest
  let (second, rest) := optionalSeconds rest
  make? (fullYear year) month day hour minute second 0 (← zone? rest)

/-- The milliseconds of at most three decimal digits, and what follows them. -/
def fraction? (input : Octets) : Option (Nat × Octets) :=
  let digits := input.takeWhile fun b => (digit? b).isSome
  let value := digits.foldl (fun n b => n * 10 + (b.toNat - 48)) 0
  match digits.length with
  | 0 => some (0, input)
  | 1 => some (value * 100, input.drop 1)
  | 2 => some (value * 10, input.drop 2)
  | 3 => some (value, input.drop 3)
  | _ => none

/-- The content of a `GeneralizedTime`, which ends in `Z` and writes a fraction with a point. The
seconds are only left out where nothing but the `Z` follows. -/
def ofGeneralized? (content : Octets) : Option Time := do
  if content.getLast? != some 90 || content.contains 44 then none
  let (century, rest) ← two? content
  let (year, rest) ← two? rest
  let (month, rest) ← two? rest
  let (day, rest) ← two? rest
  let (hour, rest) ← two? rest
  let (minute, rest) ← two? rest
  let (second, rest) ← if rest.length < 2 then some (0, rest) else two? rest
  let (millisecond, rest) ← match rest with
    | 46 :: rest => fraction? rest
    | rest => some (0, rest)
  make? (century * 100 + year) month day hour minute second millisecond (← zone? rest)

def read : Der.Reader Time := fun input => do
  let (e, rest) ← Der.element input
  let time? := match e.tag with
    | 23 => ofUtc? e.content
    | 24 => ofGeneralized? e.content
    | _ => none
  match time? with
  | some t => return (t, rest)
  | none => throw .malformed

end Time

end TrustPath
