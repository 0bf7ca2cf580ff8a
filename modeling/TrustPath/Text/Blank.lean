import TrustPath.Text.CodePoints

/-!
# White space

The characters of the Unicode property `White_Space`, with the operations that trim a text and
cut it into words at them.
-/

namespace TrustPath.Text

def blanks : CodePoints :=
  [(0x9, 0xd), (0x20, 0x20), (0x85, 0x85), (0xa0, 0xa0), (0x1680, 0x1680), (0x2000, 0x200a),
   (0x2028, 0x2029), (0x202f, 0x202f), (0x205f, 0x205f), (0x3000, 0x3000)]

def isBlank (c : Char) : Bool := blanks.has c

def trimStart (cs : List Char) : List Char := cs.dropWhile isBlank

def trimEnd (cs : List Char) : List Char := (cs.reverse.dropWhile isBlank).reverse

def trim (cs : List Char) : List Char := trimEnd (trimStart cs)

/-- The words of a text, which white space separates: `word` holds, in reverse, what has been
read of the word at hand. -/
def wordsFrom (word : List Char) : List Char → List (List Char)
  | [] => if word.isEmpty then [] else [word.reverse]
  | c :: rest =>
    if isBlank c then
      if word.isEmpty then wordsFrom [] rest else word.reverse :: wordsFrom [] rest
    else wordsFrom (c :: word) rest

/-- The maximal runs of characters that are not white space. -/
def words (cs : List Char) : List (List Char) := wordsFrom [] cs

def collapse (cs : List Char) : List Char := [' '].intercalate (words cs)

def trimText (s : String) : String := String.ofList (trim s.toList)

end TrustPath.Text
