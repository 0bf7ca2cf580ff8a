/-!
# Cutting texts

A text cut at every occurrence of a separator character: one more field than separators, some of
which may be empty. The fields joined by the separator are the text again.
-/

namespace TrustPath.Text

def fields (separator : Char) : List Char → List (List Char)
  | [] => [[]]
  | c :: rest =>
    if c = separator then [] :: fields separator rest
    else match fields separator rest with
      | field :: more => (c :: field) :: more
      | [] => [[c]]

theorem intercalate_fields (separator : Char) (cs : List Char) :
    [separator].intercalate (fields separator cs) = cs := by
  fun_induction fields separator cs with
  | case1 => simp
  | case2 rest ih =>
    cases h : fields separator rest with
    | nil => rw [h] at ih; simp at ih; subst ih; simp [fields] at h
    | cons f fs => rw [h] at ih; simp [ih]
  | case3 c rest hne field more h ih =>
    rw [h] at ih
    cases more with
    | nil => simp_all
    | cons g gs => simp_all
  | case4 c rest hne h ih => rw [h] at ih; simpa using ih

/-- A text without a given start, if it has that start. -/
def stripStart? (start : List Char) (cs : List Char) : Option (List Char) :=
  if start.isPrefixOf cs then some (cs.drop start.length) else none

def endsWith (cs ending : List Char) : Bool := ending.isSuffixOf cs

end TrustPath.Text
