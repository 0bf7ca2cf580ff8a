import TrustPath.Config.Toml.Scalar

/-!
# Configurations in TOML

A TOML document is a list of statements: a key with a value, or a header that names the table to
which the next keys belong. Dotted keys and headers make tables on their way. A table may be
defined by one header only, a key once, and neither may extend what was defined in another way:
each table remembers how it came to be.
-/

namespace TrustPath.Toml

open TextParser

/-! ## Tables -/

/-- How a table came to be: by a header of its own, on the way of a header to a table below it, or
on the way of a dotted key. -/
inductive TableKind
  | header
  | passed
  | dotted
deriving Repr, DecidableEq

/-- What stands at a key: a value, a table, or the tables of a list of tables. -/
inductive Item
  | value (v : ConfigValue)
  | table (kind : TableKind) (items : List (String × Item))
  | tables (tables : List (List (String × Item)))

/-- A table with its kind. -/
structure Table where
  kind : TableKind
  items : List (String × Item)

namespace Table

/-- Put an item at a key, in place of the one that is there. -/
def putItem (key : String) (item : Item) : List (String × Item) → List (String × Item)
  | [] => [(key, item)]
  | (k, i) :: rest => if k = key then (k, item) :: rest else (k, i) :: putItem key item rest

def put (t : Table) (key : String) (item : Item) : Table :=
  { t with items := putItem key item t.items }

/-- Change the table at the end of a path, making the tables on the way. A dotted key may not go
through a table that has a header; nothing goes through a value. Of a list of tables the last is
meant. -/
def descend (dotted : Bool) (f : Table → Option Table) : List String → Table → Option Table
  | [], t => f t
  | key :: path, t =>
    match t.items.lookup key with
    | none => do
      let child ← descend dotted f path ⟨if dotted then .dotted else .passed, []⟩
      return t.put key (.table child.kind child.items)
    | some (.value _) => none
    | some (.table kind items) => do
      if dotted && kind = .header then none
      else
        let child ← descend dotted f path ⟨kind, items⟩
        return t.put key (.table child.kind child.items)
    | some (.tables tables) => do
      let last ← tables.getLast?
      let child ← descend dotted f path ⟨.header, last⟩
      return t.put key (.tables (tables.dropLast ++ [child.items]))

/-- Add a key with a value to a table, through the tables that a dotted key names. The last of
them has to be one that dotted keys made, and the key has to be new. -/
def insertValue (path : List String) (key : String) (v : ConfigValue) (t : Table) :
    Option Table :=
  descend true (fun last =>
    if (last.kind = .dotted) = (path = []) then none
    else if (last.items.lookup key).isSome then none
    else some (last.put key (.value v))) path t

/-- Start a table by its header: it is new, or was only passed so far. -/
def openTable (key : String) (t : Table) : Option Table :=
  match t.items.lookup key with
  | none => some (t.put key (.table .header []))
  | some (.table .passed items) => some (t.put key (.table .header items))
  | some _ => none

def openNext (key : String) (t : Table) : Option Table :=
  match t.items.lookup key with
  | none => some (t.put key (.tables [[]]))
  | some (.tables tables) => some (t.put key (.tables (tables ++ [[]])))
  | some _ => none

end Table

mutual

def Item.toValue : Item → ConfigValue
  | .value v => v
  | .table _ items => .table (entriesOf items)
  | .tables tables => .array (tablesOf tables)

def entriesOf : List (String × Item) → List (String × ConfigValue)
  | [] => []
  | (key, item) :: rest => (key, item.toValue) :: entriesOf rest

/-- The values that tables stand for. -/
def tablesOf : List (List (String × Item)) → List ConfigValue
  | [] => []
  | items :: rest => .table (entriesOf items) :: tablesOf rest

end

/-! ## Keys and values -/

def simpleKey : TextParser String :=
  basicText <|> literalText <|>
  (do return String.ofList (← takeWhile1 fun c => c.isAlphanum || c == '_' || c == '-'))

/-- The greatest number of parts of a key, and of lists and tables inside each other. -/
def maxDepth : Nat := 79

/-- A key: parts with dots between them, the last apart. -/
def key : TextParser (List String × String) := do
  let parts ← sepBy1 (blanks *> simpleKey <* blanks) (char '.')
  match parts.getLast? with
  | some last => if parts.length ≤ maxDepth then return (parts.dropLast, last) else failure
  | none => failure

def entry (value : TextParser ConfigValue) : TextParser ((List String × String) × ConfigValue) := do
  let k ← key
  char '=' *> blanks
  return (k, ← value)

def array (value : TextParser ConfigValue) : TextParser ConfigValue := do
  char '[' *> gap
  let values ← sepBy value (gap *> char ',' *> gap)
  if !values.isEmpty then
    let _ ← optional (gap *> char ',')
  gap *> char ']'
  return .array values

def inlineTable (value : TextParser ConfigValue) : TextParser ConfigValue := do
  char '\x7b' *> blanks
  let entries ← sepBy (entry value <* blanks) (char ',' *> blanks)
  char '\x7d'
  let filled := entries.foldlM
    (fun (t : Table) ((path, key), v) => t.insertValue path key v) ⟨.header, []⟩
  match filled with
  | some t => return .table (entriesOf t.items)
  | none => failure

/-- A value in which so many lists and tables may stand inside each other. -/
def value : Nat → TextParser ConfigValue
  | 0 => scalar
  | depth + 1 => array (value depth) <|> inlineTable (value depth) <|> scalar

/-! ## Documents -/

/-- A statement of a document. -/
inductive Statement
  | entry (path : List String) (key : String) (v : ConfigValue)
  | table (path : List String) (key : String)
  | nextTable (path : List String) (key : String)

def statement : TextParser Statement :=
  (do
    word "[["
    let (path, key) ← key
    word "]]"
    return .nextTable path key) <|>
  (do
    word "["
    let (path, key) ← key
    word "]"
    return .table path key) <|>
  (do
    let ((path, key), v) ← entry (value maxDepth)
    return .entry path key v)

/-- A line: a statement or none, and a comment or none. -/
def line : TextParser (Option Statement) := do
  blanks
  let found ← optional statement
  blanks
  let _ ← optional comment
  return found

def document : TextParser (List Statement) := do
  let _ ← optional (char '\ufeff')
  let lines ← sepBy1 line lineEnd
  return lines.filterMap id

/-- Carry out a statement on a document whose current table is at a path. -/
def apply (state : List String × Table) : Statement → Option (List String × Table)
  | .entry path key v => do
    return (state.1, ← Table.descend false (Table.insertValue path key v) state.1 state.2)
  | .table path key => do
    return (path ++ [key], ← Table.descend false (Table.openTable key) path state.2)
  | .nextTable path key => do
    return (path ++ [key], ← Table.descend false (Table.openNext key) path state.2)

def parse? (s : String) : Option ConfigValue := do
  let statements ← parseAll? document s
  let (_, root) ← statements.foldlM apply ([], ⟨.header, []⟩)
  return .table (entriesOf root.items)

end TrustPath.Toml
