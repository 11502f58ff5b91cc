import Mathlib.Algebra.BigOperators.Group.Finset.Piecewise
import Mathlib.Algebra.Order.BigOperators.Group.Finset
import Mathlib.Algebra.Order.Ring.Nat
import Mathlib.Data.Fintype.BigOperators

namespace Holdings

variable {K : Type} [Fintype K] [DecidableEq K]

/-- What all holders have together. -/
def worth (f : K → Nat) : Nat := ∑ k, f k

/-- A move from one holder to another keeps the worth. -/
theorem worth_of_move {f g : K → Nat} {a b : K} {n : Nat}
    (h : ∀ k, g k + (if k = a then n else 0) = f k + (if k = b then n else 0)) :
    worth g = worth f := by
  have hsum : ∑ k, (g k + if k = a then n else 0) = ∑ k, (f k + if k = b then n else 0) :=
    Finset.sum_congr rfl fun k _ => h k
  simp only [Finset.sum_add_distrib, Finset.sum_ite_eq', Finset.mem_univ, if_true] at hsum
  exact Nat.add_right_cancel hsum

/-- Two holders never have more than there is. -/
theorem pair_le_worth (f : K → Nat) {a b : K} (h : a ≠ b) : f a + f b ≤ worth f := by
  rw [← Finset.sum_pair h]
  exact Finset.sum_le_sum_of_subset (Finset.subset_univ _)

omit [DecidableEq K] in
theorem worth_le_worth {f g : K → Nat} (h : ∀ k, f k ≤ g k) : worth f ≤ worth g :=
  Finset.sum_le_sum fun k _ => h k

/-- When only few have anything, and none has much, it is not much together. -/
theorem worth_le_card {f : K → Nat} {n : Nat} (s : Finset K)
    (h : ∀ k, f k ≤ if k ∈ s then n else 0) : worth f ≤ s.card * n := by
  calc worth f ≤ ∑ k, (if k ∈ s then n else 0) := worth_le_worth h
    _ = s.card * n := by simp

end Holdings
