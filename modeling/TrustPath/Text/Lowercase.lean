import TrustPath.Text.LowercaseTable

/-!
# Lowercasing

The lowercase form of a text under the default casing of Unicode. All mappings are of one
character on its own but two: `İ` becomes two characters, and `Σ` at the end of a word becomes
`ς`, elsewhere `σ`.
-/

namespace TrustPath.Text

/-- The lowercase form of one character, out of context. -/
def lowerChar (c : Char) : Char :=
  if c.toNat < 0x80 then c.toLower
  else (CodePointRun.move? lowercaseRuns c).getD c

/-- After the characters that do not end a word comes a letter. -/
def reachesLetter (cs : List Char) : Bool :=
  match cs.dropWhile (caseIgnorable.has ·) with
  | [] => false
  | c :: _ => cased.has c

/-- Lowercase a text; `before` holds, in reverse, what stands in front of it. -/
def lowerFrom (before : List Char) : List Char → List Char
  | [] => []
  | c :: rest =>
    let lowered :=
      if c = 'Σ' then [if reachesLetter before && !reachesLetter rest then 'ς' else 'σ']
      else if c = 'İ' then ['i', '\u0307']
      else [lowerChar c]
    lowered ++ lowerFrom (c :: before) rest

def lowerChars (cs : List Char) : List Char := lowerFrom [] cs

def lowercase (s : String) : String := String.ofList (lowerChars s.toList)

def lowerAscii (s : String) : String := String.ofList (s.toList.map Char.toLower)

end TrustPath.Text
