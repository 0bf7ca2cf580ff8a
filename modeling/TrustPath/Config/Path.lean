import TrustPath.Config.Value
import TrustPath.Text.Parser

/-!
# Paths into a configuration

A key of a configuration may be a path: names with dots between them and positions in brackets.
Setting a value at a path makes tables and lists on the way where there are none. A table that is
set merges with the table that is there, key by key; anything else takes the place of what is
there. Keys are lowercased.
-/

namespace TrustPath

/-- A step of a path: to a key of a table, or to a position of a list, counted from the end if it
is negative. -/
inductive ConfigStep
  | key (name : String)
  | index (i : Int)
deriving Repr, DecidableEq

namespace ConfigStep

def isNameChar (c : Char) : Bool := c.isAlphanum || c == ' ' || c == '_' || c == '-'

def name : TextParser ConfigStep := do
  return .key (String.ofList (← TextParser.takeWhile1 isNameChar))

/-- A position in brackets, with blanks around the number. -/
def position : TextParser ConfigStep := do
  TextParser.char '['
  let blank (c : Char) : Bool := c == ' ' || c == '\t'
  let _ ← TextParser.takeWhile blank
  let sign ← optional (TextParser.char '-')
  let digits ← TextParser.takeWhile1 Char.isDigit
  let _ ← TextParser.takeWhile blank
  TextParser.char ']'
  match (ConfigValue.wholeNumber? (String.ofList digits)).filter isInt64 with
  | some n => if sign.isSome then return .index (-n) else return .index n
  | none => failure

def path : TextParser (List ConfigStep) := do
  return (← name) :: (← TextParser.many ((TextParser.char '.' *> name) <|> position))

/-- The path that a key spells; a key that is no path is one step by itself. -/
def ofKey (key : String) : List ConfigStep := (TextParser.parseAll? path key).getD [.key key]

end ConfigStep

namespace ConfigValue

mutual

/-- Set a value at a key of a table, merging tables. -/
def setKey (root : ConfigValue) (key : String) : ConfigValue → ConfigValue
  | .table entries =>
    .table (root.entries.put key
      (setEntries ((root.entries.get? key).getD (.table [])) entries))
  | value => .table (root.entries.put key value)

def setEntries (root : ConfigValue) : List (String × ConfigValue) → ConfigValue
  | [] => root
  | (key, value) :: rest => setEntries (setKey root (Text.lowercase key) value) rest

end

/-- The place in a list that a position means. -/
def placeOf (i : Int) (length : Nat) : Nat := if i < 0 then length - i.natAbs else i.toNat

/-- Change the value at a place of a list, which is filled up as far as that. -/
def modifyPlace (values : List ConfigValue) (place : Nat) (f : ConfigValue → ConfigValue) :
    List ConfigValue :=
  (values ++ List.replicate (place + 1 - values.length) ConfigValue.nil).modify place f

def setAt (root value : ConfigValue) : List ConfigStep → ConfigValue
  | [] => root
  | [.key name] => root.setKey (Text.lowercase name) value
  | [.index i] =>
    .array (modifyPlace root.members (placeOf i root.members.length) fun _ => value)
  | .key name :: rest =>
    let key := Text.lowercase name
    .table (root.entries.put key (setAt ((root.entries.get? key).getD .nil) value rest))
  | .index i :: rest =>
    .array (modifyPlace root.members (placeOf i root.members.length) fun old =>
      setAt old value rest)

/-- Lay the entries of a configuration over another, each key as a path. -/
def overlay (root : ConfigValue) (entries : ConfigTable) : ConfigValue :=
  entries.foldl (fun root (key, value) => root.setAt value (ConfigStep.ofKey key)) root

end ConfigValue

end TrustPath
