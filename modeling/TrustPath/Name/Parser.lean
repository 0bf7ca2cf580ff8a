import TrustPath.Name.Basic
import TrustPath.Text.Split

/-!
# Reading names

A name is read from the string forms of RFC 4514, RFC 2253 and RFC 1779. Attributes `type=value`
are joined by `+` within a relative name and by `,` or `;` between relative names, with blanks
allowed around each part. A value is a quoted text, the `#` form with a whole tag, length and
content in hexadecimal, or a plain text in which a backslash escapes a character or begins two
hexadecimal digits for an octet.

Each reader takes the characters that are left and returns what it read with what is left after
it; the rest is always shorter where the recursion needs it.
-/

namespace TrustPath

/-- Why a text is not a name. -/
inductive NameFault
  | trailingSeparator
  | unexpected (c : Char)
  | unexpectedInType (c : Char)
  | missingEquals
  | emptyType
  | unknownType (type : String)
  | unterminatedQuote
  | danglingEscape
  | invalidUtf8
  | oddHex
  | emptyHex
  | truncatedHex
  | badHexLength
  | hexLengthMismatch
deriving Repr, DecidableEq

def NameFault.reason : NameFault → String
  | .trailingSeparator => "trailing RDN separator"
  | .unexpected c => "unexpected character '" ++ c.toString ++ "'"
  | .unexpectedInType c => "unexpected character '" ++ c.toString ++ "' in attribute type"
  | .missingEquals => "missing '='"
  | .emptyType => "empty attribute type"
  | .unknownType type => "unknown attribute type \"" ++ type ++ "\""
  | .unterminatedQuote => "unterminated quoted value"
  | .danglingEscape => "dangling escape character"
  | .invalidUtf8 => "escaped value is not valid UTF-8"
  | .oddHex => "bad hex attribute value: Odd number of digits"
  | .emptyHex => "empty hex attribute value"
  | .truncatedHex => "truncated hex attribute value"
  | .badHexLength => "bad length in hex attribute value"
  | .hexLengthMismatch => "length mismatch in hex attribute value"

/-- A text that is not a name, with the reason. -/
structure NameParseError where
  fault : NameFault
  input : String
deriving Repr, DecidableEq

def NameParseError.message (e : NameParseError) : String :=
  "invalid distinguished name: " ++ e.fault.reason ++ " in \"" ++ e.input ++ "\""

namespace NameParser

/-- Without the blanks at the start; other white space stays. -/
def skipBlanks (cs : List Char) : List Char := cs.dropWhile (· = ' ')

theorem length_skipBlanks_le (cs : List Char) : (skipBlanks cs).length ≤ cs.length :=
  (List.dropWhile_suffix _).length_le

/-! ## Types -/

/-- The text before the first `=` and the rest after it. -/
def cutType : List Char → Except NameFault (List Char × List Char)
  | [] => .error .missingEquals
  | c :: rest =>
    if c = '=' then .ok ([], rest)
    else if c ∈ [',', ';', '+', '"', '\\'] then .error (.unexpectedInType c)
    else match cutType rest with
      | .ok (type, rest) => .ok (c :: type, rest)
      | .error e => .error e

def isDigit (c : Char) : Bool := decide ('0' ≤ c) && decide (c ≤ '9')

/-- Whether a text is two or more runs of digits with dots between them. -/
def isDotted (cs : List Char) : Bool :=
  let arcs := Text.fields '.' cs
  decide (2 ≤ arcs.length) && arcs.all fun arc => !arc.isEmpty && arc.all isDigit

/-- The type without an `OID.` or `oid.` in front. -/
def withoutLead (cs : List Char) : List Char :=
  match Text.stripStart? "OID.".toList cs with
  | some rest => rest
  | none => (Text.stripStart? "oid.".toList cs).getD cs

/-- The object identifier that a type spells: digits with dots, or a keyword in any case. -/
def oidOf? (type : List Char) : Option String :=
  let type := withoutLead type
  if (type.head?.map isDigit).getD false then
    if isDotted type then some (String.ofList type) else none
  else
    (keywords.find? (·.1 = String.ofList (type.map Char.toUpper))).map (·.2)

def readType (cs : List Char) : Except NameFault (String × List Char) :=
  match cutType cs with
  | .error e => .error e
  | .ok (raw, rest) =>
    let type := Text.trim raw
    if type.isEmpty then .error .emptyType
    else match oidOf? type with
      | some oid => .ok (oid, rest)
      | none => .error (.unknownType (String.ofList type))

theorem length_of_cutType {cs type rest : List Char} (h : cutType cs = .ok (type, rest)) :
    rest.length < cs.length := by
  induction cs generalizing type with
  | nil => simp [cutType] at h
  | cons c cs ih =>
    unfold cutType at h
    split at h
    · obtain ⟨-, rfl⟩ := Prod.mk.inj (Except.ok.inj h)
      simp
    · split at h
      · simp at h
      · split at h
        · next heq =>
          obtain ⟨-, rfl⟩ := Prod.mk.inj (Except.ok.inj h)
          have := ih heq
          simp; omega
        · simp at h

theorem length_of_readType {cs rest : List Char} {oid : String}
    (h : readType cs = .ok (oid, rest)) : rest.length < cs.length := by
  unfold readType at h
  split at h
  · simp at h
  · next heq =>
    dsimp only at h
    split at h
    · simp at h
    · split at h
      · obtain ⟨-, rfl⟩ := Prod.mk.inj (Except.ok.inj h)
        exact length_of_cutType heq
      · simp at h

/-! ## Values -/

/-- The value of a tag, length and content in octets: one octet for the tag, of which the low five
bits count, a definite length, and exactly that much content. -/
def valueOfTlv : Octets → Except NameFault AttributeValue
  | [] => .error .emptyHex
  | [_] => .error .truncatedHex
  | tag :: size :: rest =>
    let finish (length : Nat) (content : Octets) : Except NameFault AttributeValue :=
      if content.length = length then .ok (.ofContent (tag.toNat % 32) content)
      else .error .hexLengthMismatch
    if size.toNat < 128 then finish size.toNat rest
    else
      let count := size.toNat - 128
      if count = 0 ∨ 4 < count ∨ rest.length < count then .error .badHexLength
      else finish (Octets.toNat (rest.take count)) (rest.drop count)

def valueOfHex (digits : List Char) : Except NameFault AttributeValue :=
  match Octets.ofHexChars? digits with
  | some octets => valueOfTlv octets
  | none => .error .oddHex

/-- What follows a backslash: two hexadecimal digits for an octet, or any one character. -/
def readEscape : List Char → Except NameFault (Octets × List Char)
  | [] => .error .danglingEscape
  | a :: rest =>
    match Octets.hexValue? a, (rest.head?.bind Octets.hexValue?) with
    | some hi, some lo => .ok ([UInt8.ofNat (16 * hi + lo)], rest.drop 1)
    | _, _ => .ok (String.utf8EncodeChar a, rest)

theorem length_of_readEscape {cs rest : List Char} {octets : Octets}
    (h : readEscape cs = .ok (octets, rest)) : rest.length < cs.length := by
  cases cs with
  | nil => simp [readEscape] at h
  | cons a cs =>
    simp only [readEscape] at h
    split at h
    · obtain ⟨-, rfl⟩ := Prod.mk.inj (Except.ok.inj h)
      simp only [List.length_drop, List.length_cons]; omega
    · obtain ⟨-, rfl⟩ := Prod.mk.inj (Except.ok.inj h)
      simp

/-- Read a quoted value after its opening quote, with the closing one. -/
def readQuoted (cs : List Char) : Except NameFault (Octets × List Char) :=
  match cs with
  | [] => .error .unterminatedQuote
  | c :: rest =>
    if c = '"' then .ok ([], rest)
    else if c = '\\' then
      match h : readEscape rest with
      | .error e => .error e
      | .ok (octets, after) =>
        have := length_of_readEscape h
        match readQuoted after with
        | .error e => .error e
        | .ok (more, rest) => .ok (octets ++ more, rest)
    else match readQuoted rest with
      | .error e => .error e
      | .ok (more, rest) => .ok (String.utf8EncodeChar c ++ more, rest)
termination_by cs.length

/-- A piece of a plain value. -/
inductive Piece
  | plain (c : Char)
  | escaped (octets : Octets)
deriving Repr, DecidableEq

def Piece.octets : Piece → Octets
  | .plain c => String.utf8EncodeChar c
  | .escaped octets => octets

/-- A blank that no escape protects. -/
def Piece.isBlank : Piece → Bool
  | .plain c => c = ' '
  | .escaped _ => false

/-- A character that ends a plain value. -/
def isSeparator (c : Char) : Bool := c ∈ [',', ';', '+']

/-- Read the pieces of a plain value up to the next separator. -/
def readPieces (cs : List Char) : Except NameFault (List Piece × List Char) :=
  match cs with
  | [] => .ok ([], [])
  | c :: rest =>
    if isSeparator c then .ok ([], c :: rest)
    else if c = '\\' then
      match h : readEscape rest with
      | .error e => .error e
      | .ok (octets, after) =>
        have := length_of_readEscape h
        match readPieces after with
        | .error e => .error e
        | .ok (more, rest) => .ok (.escaped octets :: more, rest)
    else match readPieces rest with
      | .error e => .error e
      | .ok (more, rest) => .ok (.plain c :: more, rest)
termination_by cs.length

/-- The octets of a plain value: unescaped blanks at its end are not part of it. -/
def plainOctets (pieces : List Piece) : Octets :=
  (pieces.reverse.dropWhile (·.isBlank)).reverse.flatMap (·.octets)

def textValue (octets : Octets) : Except NameFault AttributeValue :=
  match Octets.toText? octets with
  | some s => .ok (.text s)
  | none => .error .invalidUtf8

def readValue (cs : List Char) : Except NameFault (AttributeValue × List Char) :=
  match cs with
  | '#' :: rest =>
    (valueOfHex (rest.takeWhile Octets.isHexDigit)).map (·, rest.dropWhile Octets.isHexDigit)
  | '"' :: rest =>
    match readQuoted rest with
    | .error e => .error e
    | .ok (octets, rest) => (textValue octets).map (·, rest)
  | cs =>
    match readPieces cs with
    | .error e => .error e
    | .ok (pieces, rest) => (textValue (plainOctets pieces)).map (·, rest)

theorem length_of_readQuoted {cs rest : List Char} {octets : Octets}
    (h : readQuoted cs = .ok (octets, rest)) : rest.length ≤ cs.length := by
  fun_induction readQuoted cs generalizing octets rest with
  | case1 | case3 | case4 | case6 => simp at h
  | case2 => grind
  | case5 => grind [length_of_readEscape]
  | case7 => grind

theorem length_of_readPieces {cs rest : List Char} {pieces : List Piece}
    (h : readPieces cs = .ok (pieces, rest)) : rest.length ≤ cs.length := by
  fun_induction readPieces cs generalizing pieces rest with
  | case1 | case2 => grind
  | case3 | case4 | case6 => simp at h
  | case5 => grind [length_of_readEscape]
  | case7 => grind

theorem rest_of_map {α β γ ε : Type} {f : α → β} {r r' : γ} {b : β} {x : Except ε α}
    (h : x.map (fun a => (f a, r)) = .ok (b, r')) : r' = r := by
  cases x with
  | error e => simp [Except.map] at h
  | ok a => simp [Except.map] at h; exact h.2.symm

theorem length_of_readValue {cs rest : List Char} {value : AttributeValue}
    (h : readValue cs = .ok (value, rest)) : rest.length ≤ cs.length := by
  unfold readValue at h
  split at h
  · next cs =>
    rw [rest_of_map (f := id) h]
    have := (List.dropWhile_suffix Octets.isHexDigit (l := cs)).length_le
    simp; omega
  · split at h
    · simp at h
    · next heq =>
      rw [rest_of_map (f := id) h]
      have := length_of_readQuoted heq
      simp; omega
  · split at h
    · simp at h
    · next heq =>
      rw [rest_of_map (f := id) h]
      exact length_of_readPieces heq

/-! ## Names -/

/-- Read an attribute with the blanks around its parts. -/
def readAttribute (cs : List Char) : Except NameFault (Attribute × List Char) :=
  match readType (skipBlanks cs) with
  | .error e => .error e
  | .ok (oid, rest) =>
    match readValue (skipBlanks rest) with
    | .error e => .error e
    | .ok (value, rest) => .ok (⟨oid, value⟩, skipBlanks rest)

theorem length_of_readAttribute {cs rest : List Char} {attr : Attribute}
    (h : readAttribute cs = .ok (attr, rest)) : rest.length < cs.length := by
  unfold readAttribute at h
  split at h
  · simp at h
  · next oid r1 h1 =>
    split at h
    · simp at h
    · next value r2 h2 =>
      obtain ⟨-, rfl⟩ := Prod.mk.inj (Except.ok.inj h)
      have := length_of_readType h1
      have := length_of_readValue h2
      have := length_skipBlanks_le cs
      have := length_skipBlanks_le r1
      have := length_skipBlanks_le r2
      omega

/-- Read relative names, the most specific first; `read` holds the attributes already read of the
first of them. -/
def readRdns (read : List Attribute) (cs : List Char) : Except NameFault (List Rdn) :=
  match h : readAttribute cs with
  | .error e => .error e
  | .ok (attr, rest) =>
    have _shorter := length_of_readAttribute h
    match rest with
    | [] => .ok [⟨read ++ [attr]⟩]
    | c :: rest =>
      if c = '+' then readRdns (read ++ [attr]) rest
      else if c = ',' ∨ c = ';' then
        if (skipBlanks rest).isEmpty then .error .trailingSeparator
        else match readRdns [] rest with
          | .error e => .error e
          | .ok rdns => .ok (⟨read ++ [attr]⟩ :: rdns)
      else .error (.unexpected c)
termination_by cs.length
decreasing_by all_goals (simp at _shorter; omega)

/-- Read a whole name; a text of blanks alone is the empty name. -/
def readName (cs : List Char) : Except NameFault DistinguishedName :=
  if (skipBlanks cs).isEmpty then .ok ⟨[]⟩
  else match readRdns [] cs with
    | .error e => .error e
    | .ok rdns => .ok ⟨rdns.reverse⟩

end NameParser

def DistinguishedName.parse (s : String) : Except NameParseError DistinguishedName :=
  match NameParser.readName s.toList with
  | .ok name => .ok name
  | .error fault => .error ⟨fault, s⟩

end TrustPath
