import TrustPath.Base64
import TrustPath.Text.Blank
import TrustPath.Text.Split

/-!
# PEM

A PEM text holds labelled blocks of Base64 between a line that begins them and a line that ends
them. Lines outside blocks are passed over. Every line that is read has to be UTF-8.
-/

namespace TrustPath

/-- A block: its label and the octets between its lines. -/
structure PemBlock where
  label : String
  contents : Octets
deriving Repr, DecidableEq

namespace Pem

/-- Why a PEM text cannot be read. -/
inductive Fault
  | invalidUtf8
  | invalidHeader
  | unterminated
  | invalidBase64
deriving Repr, DecidableEq

def Fault.message : Fault → String
  | .invalidUtf8 => "a line of the PEM text is not UTF-8"
  | .invalidHeader => "a PEM block has a malformed first line"
  | .unterminated => "a PEM block has no last line"
  | .invalidBase64 => "a PEM block is not valid Base64"

/-- The lines of a text with their line ends; `line` holds, in reverse, what has been read of the
line at hand. -/
def linesFrom (line : Octets) : Octets → List Octets
  | [] => if line.isEmpty then [] else [line.reverse]
  | b :: rest =>
    if b = 10 then (b :: line).reverse :: linesFrom [] rest else linesFrom (b :: line) rest

def lines (text : Octets) : List Octets := linesFrom [] text

/-- The text in front of the next five hyphens, if there are any. -/
def beforeHyphens? : List Char → Option (List Char)
  | [] => none
  | c :: rest =>
    if "-----".toList.isPrefixOf (c :: rest) then some []
    else (beforeHyphens? rest).map (c :: ·)

/-- The label in the first line of a block, after `-----BEGIN `. -/
def label? (line : List Char) : Option String :=
  (beforeHyphens? line).map String.ofList

def chars (line : Octets) : Except Fault (List Char) :=
  match Octets.toText? line with
  | some s => .ok s.toList
  | none => .error .invalidUtf8

/-- Read blocks from lines. Inside a block, `block` holds its label and the Base64 text so far. -/
def readBlocks (block : Option (String × List Char)) :
    List Octets → Except Fault (List PemBlock)
  | [] => if block.isSome then .error .unterminated else .ok []
  | line :: rest => do
    let line ← chars line
    match block with
    | none =>
      match Text.stripStart? "-----BEGIN ".toList line with
      | none => readBlocks none rest
      | some after => match label? after with
        | none => throw .invalidHeader
        | some label => readBlocks (some (label, [])) rest
    | some (label, text) =>
      if "-----END ".toList.isPrefixOf line then
        match Base64.decodeChars text with
        | none => throw .invalidBase64
        | some contents => return ⟨label, contents⟩ :: (← readBlocks none rest)
      else readBlocks (some (label, text ++ Text.trimEnd line)) rest

def blocks (text : Octets) : Except Fault (List PemBlock) := readBlocks none (lines text)

def isAsciiBlank (b : UInt8) : Bool := b ∈ [9, 10, 12, 13, 32]

/-- Whether a text begins, after white space, as a PEM block does. -/
def looksLikePem (text : Octets) : Bool :=
  (Octets.ofText "-----BEGIN").isPrefixOf (text.dropWhile isAsciiBlank)

end Pem

end TrustPath
