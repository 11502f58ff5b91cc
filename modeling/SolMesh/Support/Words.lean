import Mathlib.Algebra.Order.Ring.Nat

namespace Words

/-- Checked arithmetic on machine words. Its lemmas read each outcome back as
an equation between the numbers the words stand for. -/
def checkedAdd (a b : UInt64) : Option UInt64 :=
  if a.toNat + b.toNat < 2 ^ 64 then some (a + b) else none

def checkedSub (a b : UInt64) : Option UInt64 :=
  if b ≤ a then some (a - b) else none

def saturatingSub (a b : UInt64) : UInt64 :=
  if b ≤ a then a - b else 0

def saturatingAdd (a b : UInt32) : UInt32 :=
  if a.toNat + b.toNat < 2 ^ 32 then a + b else 0xFFFFFFFF

/-- Addition of signed words, defined when the true sum is a signed word. -/
def checkedAddInt (a b : Int64) : Option Int64 :=
  if -2 ^ 63 ≤ a.toInt + b.toInt ∧ a.toInt + b.toInt < 2 ^ 63 then some (a + b) else none

theorem toNat_lt (a : UInt64) : a.toNat < 2 ^ 64 := UInt64.toNat_lt a

theorem checkedAdd_some {a b c : UInt64} :
    checkedAdd a b = some c ↔ c.toNat = a.toNat + b.toNat := by
  unfold checkedAdd
  constructor
  · intro h
    split at h
    · rename_i hlt
      cases h
      rw [UInt64.toNat_add, Nat.mod_eq_of_lt hlt]
    · contradiction
  · intro h
    have hlt : a.toNat + b.toNat < 2 ^ 64 := h ▸ toNat_lt c
    rw [if_pos hlt, Option.some.injEq]
    apply UInt64.toNat_inj.mp
    rw [UInt64.toNat_add, Nat.mod_eq_of_lt hlt, h]

theorem checkedSub_some {a b c : UInt64} :
    checkedSub a b = some c ↔ c.toNat + b.toNat = a.toNat := by
  unfold checkedSub
  constructor
  · intro h
    split at h
    · rename_i hle
      cases h
      rw [UInt64.toNat_sub_of_le a b hle]
      exact Nat.sub_add_cancel hle
    · contradiction
  · intro h
    have hle : b ≤ a := UInt64.le_iff_toNat_le.mpr (by omega)
    rw [if_pos hle, Option.some.injEq]
    apply UInt64.toNat_inj.mp
    rw [UInt64.toNat_sub_of_le a b hle]
    omega

theorem checkedAdd_exists {a b : UInt64} (h : a.toNat + b.toNat < 2 ^ 64) :
    ∃ c, checkedAdd a b = some c :=
  ⟨a + b, if_pos h⟩

theorem checkedSub_exists {a b : UInt64} (h : b.toNat ≤ a.toNat) :
    ∃ c, checkedSub a b = some c :=
  ⟨a - b, if_pos (UInt64.le_iff_toNat_le.mpr h)⟩

theorem saturatingSub_toNat (a b : UInt64) :
    (saturatingSub a b).toNat = a.toNat - b.toNat := by
  unfold saturatingSub
  split
  · rename_i hle
    exact UInt64.toNat_sub_of_le a b hle
  · rename_i hle
    have : a.toNat < b.toNat := by
      simpa [UInt64.le_iff_toNat_le] using hle
    simp only [UInt64.toNat_zero]
    omega

theorem saturatingAdd_toNat (a b : UInt32) :
    (saturatingAdd a b).toNat = min (a.toNat + b.toNat) (2 ^ 32 - 1) := by
  unfold saturatingAdd
  split
  · rename_i hlt
    rw [UInt32.toNat_add, Nat.mod_eq_of_lt hlt]
    omega
  · simp only [UInt32.reduceToNat]
    omega

theorem saturatingAdd_right_comm (a b c : UInt32) :
    saturatingAdd (saturatingAdd a b) c = saturatingAdd (saturatingAdd a c) b := by
  apply UInt32.toNat_inj.mp
  simp only [saturatingAdd_toNat]
  omega

theorem max_toNat (a b : UInt64) : (max a b).toNat = max a.toNat b.toNat := by
  change (if a ≤ b then b else a).toNat = _
  simp only [UInt64.le_iff_toNat_le]
  split <;> omega

theorem checkedAddInt_some {a b c : Int64} :
    checkedAddInt a b = some c ↔ c.toInt = a.toInt + b.toInt := by
  unfold checkedAddInt
  constructor
  · intro h
    split at h
    · rename_i hr
      cases h
      rw [Int64.toInt_add]
      exact Int.bmod_eq_of_le (by omega) (by omega)
    · contradiction
  · intro h
    have hlo := Int64.le_toInt c
    have hhi := Int64.toInt_lt c
    rw [if_pos (by omega), Option.some.injEq]
    apply Int64.toInt_inj.mp
    rw [Int64.toInt_add, h]
    exact Int.bmod_eq_of_le (by omega) (by omega)

end Words
