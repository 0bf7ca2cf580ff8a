import TrustPath.TextSet

/-!
# Members of sets of texts

What the operations on sets of texts do to their members. A set that is
put together member by member holds what was put in, in whatever order
(`TextSet.mem_foldl_insert`).
-/

namespace TrustPath.TextSet

theorem contains_iff {set : TextSet} {s : String} : set.contains s = true ↔ s ∈ set :=
  List.contains_iff_mem

theorem mem_singleton {s t : String} : s ∈ TextSet.singleton t ↔ s = t := by
  rw [TextSet.singleton, mem_insert]
  exact or_iff_left List.not_mem_nil

theorem mem_foldl_insert {s : String} {ss : List String} (set : TextSet) :
    s ∈ ss.foldl insert set ↔ s ∈ set ∨ s ∈ ss := by
  induction ss generalizing set with
  | nil => exact (or_iff_left List.not_mem_nil).symm
  | cons t rest ih => rw [List.foldl_cons, ih, mem_insert, List.mem_cons, or_assoc, or_left_comm]

theorem mem_ofList {s : String} {ss : List String} : s ∈ ofList ss ↔ s ∈ ss :=
  (mem_foldl_insert empty).trans (or_iff_right List.not_mem_nil)

theorem mem_union {s : String} {a b : TextSet} : s ∈ a.union b ↔ s ∈ a ∨ s ∈ b :=
  mem_foldl_insert a

/-- A set with a member is not empty. -/
theorem isEmpty_eq_false_iff {set : TextSet} : set.isEmpty = false ↔ ∃ s, s ∈ set := by
  rw [isEmpty, List.isEmpty_eq_false_iff_exists_mem]
  exact Iff.rfl

/-- No member is listed twice. -/
theorem nodup (set : TextSet) : set.toList.Nodup :=
  set.increasing.imp fun {_ _} hlt => Std.ne_of_lt hlt

end TrustPath.TextSet
