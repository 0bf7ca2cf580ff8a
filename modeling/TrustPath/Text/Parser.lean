/-!
# Parsers of texts

A parser takes what it reads off the front of a text, or fails. Parsers are put together in
sequence and by alternatives; repetition stops at the first failure, and also where nothing is
taken any more, so that every parser ends.
-/

namespace TrustPath

/-- A parser: from the characters that are left, a value and the characters after it. -/
abbrev TextParser := StateT (List Char) Option

namespace TextParser

variable {α β : Type}

/-- The next character, if there is one; nothing is taken. -/
def peek? : TextParser (Option Char) := fun cs => some (cs.head?, cs)

def rest : TextParser (List Char) := fun cs => some (cs, cs)

def satisfy (p : Char → Bool) : TextParser Char
  | [] => none
  | c :: cs => if p c then some (c, cs) else none

def any : TextParser Char := satisfy fun _ => true

def char (c : Char) : TextParser Unit := do
  let _ ← satisfy (· == c)

def word (s : String) : TextParser Unit := fun cs =>
  if s.toList.isPrefixOf cs then some ((), cs.drop s.length) else none

/-- Take the characters up to the first without a property. -/
def takeWhile (p : Char → Bool) : TextParser (List Char) := fun cs =>
  some (cs.takeWhile p, cs.dropWhile p)

/-- Take the characters up to the first without a property, at least one. -/
def takeWhile1 (p : Char → Bool) : TextParser (List Char) := do
  let taken ← takeWhile p
  if taken.isEmpty then failure else return taken

/-- Take exactly so many characters with a property. -/
def takeExactly (p : Char → Bool) : Nat → TextParser (List Char)
  | 0 => return []
  | n + 1 => do return (← satisfy p) :: (← takeExactly p n)

def atEnd : TextParser Unit := fun cs => if cs.isEmpty then some ((), []) else none

/-- Whether a parser would succeed here; nothing is taken. -/
def looksAt (p : TextParser α) : TextParser Bool := fun cs => some ((p cs).isSome, cs)

/-- What a parser reads one time after another, with the characters after that. -/
def manyFrom (p : TextParser α) (cs : List Char) : List α × List Char :=
  match p cs with
  | none => ([], cs)
  | some (a, rest) =>
    if rest.length < cs.length then
      let (as, rest) := manyFrom p rest
      (a :: as, rest)
    else ([], cs)
termination_by cs.length

def many (p : TextParser α) : TextParser (List α) := fun cs => some (manyFrom p cs)

/-- Read at least one item, with separators between items. -/
def sepBy1 (p : TextParser α) (separator : TextParser β) : TextParser (List α) := do
  return (← p) :: (← many (separator *> p))

/-- Read items with separators between them, possibly none. -/
def sepBy (p : TextParser α) (separator : TextParser β) : TextParser (List α) :=
  sepBy1 p separator <|> pure []

def parseAll? (p : TextParser α) (s : String) : Option α :=
  ((p <* atEnd) s.toList).map (·.1)

end TextParser

end TrustPath
