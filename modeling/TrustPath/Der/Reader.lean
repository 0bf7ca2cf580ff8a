import TrustPath.Octets

/-!
# Reading DER

An element is an identifier, a definite length and that many content octets. A reader takes the
octets that are left and returns a value with the octets after it. Elements are told apart by
their tag number; most structures here accept any class, as decoders in the field do.

Two things can stop a reader: the octets end too early, or they do not have the form that is read.
Either lets the caller try something else, such as leaving out an optional part.
-/

namespace TrustPath.Der

/-- Why a reader stopped. -/
inductive Fault
  | truncated
  | malformed
deriving Repr, DecidableEq

abbrev Reader (α : Type) := Octets → Except Fault (α × Octets)

/-- The class of a tag. -/
inductive TagClass
  | universal
  | application
  | contextSpecific
  | privateUse
deriving Repr, DecidableEq

/-- What stands before the content of an element, with its own octets. -/
structure Header where
  tagClass : TagClass
  constructed : Bool
  tag : Nat
  length : Nat
  octets : Octets
deriving Repr, DecidableEq

/-- An element: its header and its content. -/
structure Element where
  header : Header
  content : Octets
deriving Repr, DecidableEq

namespace Element

def tag (e : Element) : Nat := e.header.tag

end Element

/-! ## Headers and elements -/

/-- The class that the two high bits of an identifier give. -/
def classOf (b : UInt8) : TagClass :=
  match b.toNat / 64 with
  | 0 => .universal
  | 1 => .application
  | 2 => .contextSpecific
  | _ => .privateUse

/-- The octets of a long tag number, seven bits each and the last one below 128, at most five of
them: the number and how many octets it took. -/
def longTag (value count : Nat) : Octets → Except Fault (Nat × Nat)
  | [] => .error .malformed
  | b :: rest =>
    if 5 ≤ count then .error .malformed
    else
      let value := (value * 128 + b.toNat % 128) % Nat.pow 2 32
      if b.toNat < 128 then .ok (value, count + 1) else longTag value (count + 1) rest

/-- The length that follows an identifier, and how many octets it took. A length is definite; its
octets may begin with zeros, but the value fits sixty-four bits. -/
def lengthOf : Octets → Except Fault (Nat × Nat)
  | [] => .error .truncated
  | b :: rest =>
    if b.toNat < 128 then .ok (b.toNat, 1)
    else
      let count := b.toNat - 128
      if count = 0 ∨ count = 127 then .error .malformed
      else if rest.length < count then .error .truncated
      else
        let value := Octets.toNat (rest.take count)
        if Nat.pow 2 64 ≤ value then .error .malformed else .ok (value, count + 1)

def header : Reader Header
  | [] => .error .truncated
  | b :: rest => do
    let (tag, used) ← if b.toNat % 32 = 31 then longTag 0 0 rest else .ok (b.toNat % 32, 0)
    let (length, more) ← lengthOf (rest.drop used)
    let size := used + more
    return (⟨classOf b, b.toNat / 32 % 2 = 1, tag, length, b :: rest.take size⟩, rest.drop size)

def element : Reader Element := fun input => do
  let (header, rest) ← header input
  if rest.length < header.length then throw .truncated
  return (⟨header, rest.take header.length⟩, rest.drop header.length)

def elementOf (tag : Nat) : Reader Element := fun input => do
  let (e, rest) ← element input
  if e.tag = tag then return (e, rest) else throw .malformed

/-- Read an element with the given tag number that is not made of others. -/
def primitiveOf (tag : Nat) : Reader Element := fun input => do
  let (e, rest) ← elementOf tag input
  if e.header.constructed then throw .malformed else return (e, rest)

/-! ## Combining readers -/

/-- Read the content of an element with the given tag number; content that is left over is
passed over. -/
def within (tag : Nat) {α : Type} (body : Reader α) : Reader α := fun input => do
  let (e, rest) ← elementOf tag input
  let (a, _) ← body e.content
  return (a, rest)

def sequence {α : Type} (body : Reader α) : Reader α := within 16 body

def set {α : Type} (body : Reader α) : Reader α := within 17 body

/-- Read as many values as there are, and stop at the first that cannot be read. -/
def many {α : Type} (body : Reader α) (input : Octets) : Except Fault (List α × Octets) :=
  match body input with
  | .ok (a, rest) =>
    if rest.length < input.length then
      match many body rest with
      | .ok (more, rest) => .ok (a :: more, rest)
      | .error e => .error e
    else .error .malformed
  | .error _ => .ok ([], input)
termination_by input.length

/-- Read as many values as there are, at least one. -/
def atLeastOne {α : Type} (body : Reader α) : Reader (List α) := fun input => do
  let (first, rest) ← body input
  let (more, rest) ← many body rest
  return (first :: more, rest)

def optional {α : Type} (body : Reader α) : Reader (Option α) := fun input =>
  match body input with
  | .ok (a, rest) => .ok (Option.some a, rest)
  | .error _ => .ok (none, input)

def whole {α : Type} (body : Reader α) : Reader α := fun input => do
  let (a, rest) ← body input
  if rest.isEmpty then return (a, rest) else throw .malformed

/-- Keep the reader's value if a function makes something of it. -/
def mapOption {α β : Type} (f : α → Option β) (body : Reader α) : Reader β := fun input => do
  let (a, rest) ← body input
  match f a with
  | Option.some b => return (b, rest)
  | none => throw .malformed

/-! ## Simple values -/

/-- The number in the content of an `INTEGER` that is not negative and fits thirty-two bits. -/
def word? (content : Octets) : Option Nat :=
  match content with
  | [] => none
  | b :: _ =>
    if b.toNat < 128 ∧ Octets.toNat content < Nat.pow 2 32 then Option.some (Octets.toNat content)
    else none

/-- Whether the content of an `INTEGER` is as short as it can be. -/
def isMinimal : Octets → Bool
  | [] => false
  | [_] => true
  | a :: b :: _ => !(a = 0 ∧ b.toNat < 128) && !(a = 255 ∧ 128 ≤ b.toNat)

/-- Read an `INTEGER` that is not negative, fits thirty-two bits and is written minimally. -/
def word : Reader Nat :=
  mapOption (fun e => if isMinimal e.content then word? e.content else none) (primitiveOf 2)

/-- Read a `BOOLEAN` of one octet, any but zero meaning true. -/
def boolean : Reader Bool :=
  mapOption (fun e => match e.content with
    | [b] => Option.some (b != 0)
    | _ => none) (elementOf 1)

def octetString : Reader Octets := mapOption (fun e => Option.some e.content) (primitiveOf 4)

def trailingZeros (b : UInt8) : Nat :=
  ((List.range 8).takeWhile fun i => b.toNat / Nat.pow 2 i % 2 = 0).length

/-- The octets of a `BIT STRING` after the one that counts the unused bits, which are zero. -/
def bits? : Octets → Option Octets
  | [] => none
  | [unused] => if unused = 0 then Option.some [] else none
  | unused :: bits =>
    match bits.getLast? with
    | Option.some last => if trailingZeros last < unused.toNat then none else Option.some bits
    | none => none

def bitString : Reader Octets := mapOption (fun e => bits? e.content) (primitiveOf 3)

end TrustPath.Der
