import Mathlib.Algebra.Order.BigOperators.Group.List
import Mathlib.Algebra.Order.Ring.Nat
import TrustPath.Proofs.Path.Exactness

/-!
# When the budget is enough

How many partial paths there are to look at. A certificate goes on a path
at most once, so below a partial path there are no more of them than ways
to put certificates in a row that it does not hold yet
(`PathProblem.length_preorder_le`). Five such certificates give 326 rows,
which is less than the 1024 steps of a search, and six may give more:
a search with at most five certificates besides the target never gives up
(`PathProblem.solve_ne_budgetExceeded`).

The bound speaks of certificates and not of what they are linked by, so it
also covers chains that are presented to keep the search busy.
-/

namespace TrustPath

namespace PathProblem

variable {p : PathProblem}

/-! ## What may still go on a path -/

/-- The certificates of the pool whose encoding a partial path does not
hold. -/
def unused (p : PathProblem) (above : List Certificate) : List Certificate :=
  p.pool.filter fun c => (p.target :: above).all fun d => d.der != c.der

theorem unused_cons (c : Certificate) (above : List Certificate) :
    p.unused (c :: above) = (p.unused above).filter fun d => c.der != d.der := by
  rw [unused, unused, List.filter_filter]
  refine List.filter_congr fun d _ => ?_
  simp only [List.all_cons]
  rw [Bool.and_left_comm]

theorem extensions_eq_filter (above : List Certificate) :
    p.extensions above = (p.unused above).filter fun c => p.issues c (p.lastOf above) :=
  List.filter_filter.symm

theorem length_extensions_le (above : List Certificate) :
    (p.extensions above).length ≤ (p.unused above).length := by
  rw [extensions_eq_filter]
  exact List.length_filter_le ..

/-- A certificate that is put on a path is used up. -/
theorem length_unused_cons_lt {above : List Certificate} {c : Certificate}
    (hc : c ∈ p.extensions above) : (p.unused (c :: above)).length < (p.unused above).length := by
  rw [extensions_eq_filter] at hc
  rw [unused_cons, List.length_filter_lt_length_iff_exists]
  exact ⟨c, List.mem_of_mem_filter hc, by rw [bne_self_eq_false]; exact Bool.false_ne_true⟩

/-! ## How many partial paths there are -/

/-- How many rows can be formed of some things, the empty row among
them, if none is used twice. -/
def arrangements : Nat → Nat
  | 0 => 1
  | n + 1 => 1 + (n + 1) * arrangements n

theorem arrangements_pos (n : Nat) : 0 < arrangements n := by
  cases n with
  | zero => exact Nat.one_pos
  | succ n => exact Nat.add_pos_left Nat.one_pos _

/-- The walk below a partial path visits at most as many paths as there
are rows of the certificates that it does not hold. -/
theorem length_preorder_le : ∀ {n : Nat} {above : List Certificate},
    (p.unused above).length ≤ n → (p.preorder above).length ≤ arrangements n
  | n, above, hunused => by
      cases hroom : p.hasRoom above with
      | false =>
          rw [preorder_of_full hroom]
          exact arrangements_pos n
      | true =>
          have hfew := (length_extensions_le above).trans hunused
          rw [preorder_of_hasRoom hroom, List.length_append, List.length_flatMap]
          cases n with
          | zero => rw [List.length_eq_zero_iff.mp (Nat.le_zero.mp hfew)]; exact Nat.le_refl 1
          | succ n =>
              have hbelow : ∀ k ∈ (p.extensions above).map
                  fun c => (p.preorder (c :: above)).length, k ≤ arrangements n := by
                intro k hk
                obtain ⟨c, hc, rfl⟩ := List.mem_map.mp hk
                exact length_preorder_le
                  (Nat.le_of_lt_succ ((length_unused_cons_lt hc).trans_le hunused))
              have hsum := List.sum_le_card_nsmul _ _ hbelow
              rw [List.length_map, Nat.nsmul_eq_mul] at hsum
              exact Nat.add_le_add_left (hsum.trans (Nat.mul_le_mul_right _ hfew)) 1

/-! ## Giving up -/

theorem answer_ne_budgetExceeded (h : (p.preorder []).length ≤ 1024) :
    p.answer ≠ .error .budgetExceeded := by
  unfold answer
  dsimp only
  split
  · exact nofun
  · rw [if_neg (Nat.not_lt.mpr h)]
    split <;> exact nofun

/-- A search with at most five certificates besides the target does not
give up. -/
theorem solve_ne_budgetExceeded (h : (p.unused []).length ≤ 5) :
    p.solve.1 ≠ .error .budgetExceeded := by
  rw [solve_eq_answer]
  split
  · exact nofun
  · exact answer_ne_budgetExceeded ((length_preorder_le h).trans (by decide))

end PathProblem

end TrustPath
