/-!
# Sets of texts

Trusted names and policies are sets of texts. A set is kept as its members in increasing order of
code points without repetition, so that two sets with the same members are the same value and a
printed set has one form.
-/

namespace TrustPath

/-- A finite set of texts, as its members in increasing order. -/
structure TextSet where
  toList : List String
  increasing : toList.Pairwise (· < ·) := by simp

deriving instance Repr, DecidableEq for TextSet

namespace TextSet

def empty : TextSet := ⟨[], .nil⟩

instance : Inhabited TextSet := ⟨empty⟩

instance : Membership String TextSet := ⟨fun set s => s ∈ set.toList⟩

def isEmpty (set : TextSet) : Bool := set.toList.isEmpty

def size (set : TextSet) : Nat := set.toList.length

def contains (set : TextSet) (s : String) : Bool := set.toList.contains s

def insertSorted (s : String) : List String → List String
  | [] => [s]
  | t :: ts => if s < t then s :: t :: ts else if s = t then t :: ts else t :: insertSorted s ts

theorem mem_insertSorted {s t : String} {ts : List String} :
    t ∈ insertSorted s ts ↔ t = s ∨ t ∈ ts := by
  induction ts with
  | nil => simp [insertSorted]
  | cons u us ih =>
    unfold insertSorted
    split
    · simp
    · split
      · next h => subst h; simp
      · simp [ih]; grind

theorem insertSorted_increasing {s : String} {ts : List String} (h : ts.Pairwise (· < ·)) :
    (insertSorted s ts).Pairwise (· < ·) := by
  induction ts with
  | nil => simp [insertSorted]
  | cons u us ih =>
    obtain ⟨hu, hus⟩ := List.pairwise_cons.1 h
    unfold insertSorted
    split
    · next hlt =>
      refine List.pairwise_cons.2 ⟨fun v hv => ?_, h⟩
      rcases List.mem_cons.1 hv with rfl | hv
      · exact hlt
      · exact String.lt_trans hlt (hu v hv)
    · split
      · exact h
      · next hlt hne =>
        refine List.pairwise_cons.2 ⟨fun v hv => ?_, ih hus⟩
        rcases mem_insertSorted.1 hv with rfl | hv
        · exact Std.lt_of_le_of_ne (Std.not_lt.1 hlt) (Ne.symm hne)
        · exact hu v hv

def insert (set : TextSet) (s : String) : TextSet :=
  ⟨insertSorted s set.toList, insertSorted_increasing set.increasing⟩

def ofList (ss : List String) : TextSet := ss.foldl insert empty

def singleton (s : String) : TextSet := empty.insert s

def union (a b : TextSet) : TextSet := b.toList.foldl insert a

theorem mem_insert {set : TextSet} {s t : String} : t ∈ set.insert s ↔ t = s ∨ t ∈ set :=
  mem_insertSorted

end TextSet

end TrustPath
