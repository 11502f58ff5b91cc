import Mathlib.Algebra.BigOperators.Group.List.Basic
import Mathlib.Algebra.Order.Ring.Nat

namespace Rounding

/-- A proportional share of an amount, rounded down. -/
def share (rate scale n : Nat) : Nat :=
  n * rate / scale

/-- The shares of several amounts, each rounded down on its own. -/
def shares (rate scale : Nat) (ns : List Nat) : Nat :=
  (ns.map (share rate scale)).sum

@[simp] theorem shares_nil (rate scale : Nat) : shares rate scale [] = 0 := rfl

@[simp] theorem shares_cons (rate scale n : Nat) (ns : List Nat) :
    shares rate scale (n :: ns) = share rate scale n + shares rate scale ns := by
  simp [shares]

theorem share_add_le (rate scale a b : Nat) :
    share rate scale a + share rate scale b ≤ share rate scale (a + b) := by
  unfold share
  rw [Nat.add_mul]
  exact Nat.div_add_div_le_add_div

/-- Splitting an amount in two loses at most one unit. -/
theorem share_add_ge (rate a b : Nat) {scale : Nat} (hs : 0 < scale) :
    share rate scale (a + b) ≤ share rate scale a + share rate scale b + 1 := by
  unfold share
  rw [Nat.add_mul, Nat.add_div hs]
  split <;> omega

/-- Splitting an amount never raises its shares. -/
theorem shares_le (rate scale : Nat) (ns : List Nat) :
    shares rate scale ns ≤ share rate scale ns.sum := by
  induction ns with
  | nil => simp
  | cons n ns ih =>
    calc shares rate scale (n :: ns)
        = share rate scale n + shares rate scale ns := shares_cons rate scale n ns
      _ ≤ share rate scale n + share rate scale ns.sum := Nat.add_le_add_left ih _
      _ ≤ share rate scale (n + ns.sum) := share_add_le rate scale n ns.sum
      _ = share rate scale (n :: ns).sum := by rw [List.sum_cons]

/-- Splitting an amount into parts loses less than one unit a part. -/
theorem shares_ge (rate : Nat) {scale : Nat} (hs : 0 < scale) (ns : List Nat) :
    share rate scale ns.sum ≤ shares rate scale ns + (ns.length - 1) := by
  induction ns with
  | nil => simp [share]
  | cons n ns ih =>
    cases ns with
    | nil => simp
    | cons m ns =>
      have hsplit := share_add_ge rate n (m :: ns).sum hs
      rw [List.sum_cons, shares_cons, List.length_cons]
      simp only [List.length_cons] at ih ⊢
      omega

/-- A rate within the bound takes at most that part of an amount. -/
theorem share_le_of_rate {rate scale bound : Nat} (hr : bound * rate ≤ scale) (n : Nat) :
    bound * share rate scale n ≤ n := by
  rcases Nat.eq_zero_or_pos scale with hz | hs
  · subst hz
    simp [share]
  · refine Nat.le_of_mul_le_mul_right ?_ hs
    calc bound * (n * rate / scale) * scale
        = bound * (n * rate / scale * scale) := Nat.mul_assoc _ _ _
      _ ≤ bound * (n * rate) := Nat.mul_le_mul_left _ (Nat.div_mul_le_self _ _)
      _ = n * (bound * rate) := by rw [Nat.mul_left_comm]
      _ ≤ n * scale := Nat.mul_le_mul_left _ hr

/-- The whole units of an amount, up to a cap. -/
def capped (scale cap n : Nat) : Nat :=
  min (n / scale) cap

theorem capped_sum_eq_zero {scale cap : Nat} (hs : 0 < scale) (hc : 0 < cap) (ns : List Nat) :
    (ns.map (capped scale cap)).sum = 0 ↔ ∀ n ∈ ns, n < scale := by
  have one (n : Nat) : capped scale cap n = 0 ↔ n < scale := by
    rw [← Nat.div_eq_zero_iff_lt hs, capped]
    omega
  induction ns with
  | nil => simp
  | cons n ns ih =>
    simp only [List.map_cons, List.sum_cons, Nat.add_eq_zero_iff, ih, one, List.forall_mem_cons]

/-- Amounts counted before the last one fit into its whole units if they count
for nothing, or if the last one exceeds the cap by them. -/
theorem capped_sum_le_iff {scale cap : Nat} (hs : 0 < scale) (hc : 0 < cap) (ns : List Nat)
    (last : Nat) : (ns.map (capped scale cap)).sum + capped scale cap last ≤ last / scale ↔
      (∀ n ∈ ns, n < scale) ∨ (ns.map (capped scale cap)).sum + cap ≤ last / scale := by
  rw [← capped_sum_eq_zero hs hc]
  simp only [capped]
  omega

end Rounding
