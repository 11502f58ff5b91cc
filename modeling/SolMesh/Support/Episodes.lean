import Mathlib.Algebra.BigOperators.Group.List.Basic
import Mathlib.Algebra.Order.Ring.Nat
import Mathlib.Data.List.Induction

namespace Episodes

section
variable {α κ : Type} [DecidableEq κ] (about : α → Option κ) (opens : α → Bool)

/-- The events about `k` before the next one that opens it again. -/
def own (k : κ) : List α → List α
  | [] => []
  | x :: xs =>
    if about x = some k then
      if opens x then [] else x :: own k xs
    else own k xs

/-- One episode for each opening: its key, and its events with the opening first. -/
def episodes : List α → List (κ × List α)
  | [] => []
  | x :: xs =>
    match about x, opens x with
    | some k, true => (k, x :: own about opens k xs) :: episodes xs
    | _, _ => episodes xs

/-- The newest episode of `k`. -/
def current (k : κ) : List α → Option (List α)
  | [] => none
  | x :: xs => (current k xs).or
      (if about x = some k ∧ opens x = true then some (x :: own about opens k xs) else none)

/-- The sum of a quantity over all episodes. -/
def tally (f : κ → List α → Nat) (xs : List α) : Nat :=
  ((episodes about opens xs).map fun e => f e.1 e.2).sum

end

section
variable {α κ : Type} [DecidableEq κ] {about : α → Option κ} {opens : α → Bool}

theorem own_snoc_other {k : κ} {x : α} (hx : about x ≠ some k) (xs : List α) :
    own about opens k (xs ++ [x]) = own about opens k xs := by
  induction xs with
  | nil => simp [own, hx]
  | cons y xs ih => simp [own, ih]

theorem own_snoc_opening {x : α} (ho : opens x = true) (k : κ) (xs : List α) :
    own about opens k (xs ++ [x]) = own about opens k xs := by
  induction xs with
  | nil => simp [own, ho]
  | cons y xs ih => simp [own, ih]

/-- An event joins the episode of its key unless that has ended. -/
theorem own_snoc {k : κ} {x : α} (hx : about x = some k) (ho : opens x = false) (xs : List α) :
    own about opens k (xs ++ [x]) =
      if (current about opens k xs).isSome then own about opens k xs
      else own about opens k xs ++ [x] := by
  induction xs with
  | nil => simp [own, current, hx, ho]
  | cons y xs ih =>
    by_cases hy : about y = some k
    · cases hoy : opens y <;> simp [own, current, hy, hoy, ih]
      split <;> simp
    · simp [own, current, hy, ih]

theorem current_snoc_other {k : κ} {x : α} (hx : about x ≠ some k) (xs : List α) :
    current about opens k (xs ++ [x]) = current about opens k xs := by
  induction xs with
  | nil => simp [current, hx]
  | cons y xs ih => simp [current, ih, own_snoc_other hx]

theorem current_snoc_opening {k : κ} {x : α} (hx : about x = some k) (ho : opens x = true)
    (xs : List α) : current about opens k (xs ++ [x]) = some [x] := by
  induction xs with
  | nil => simp [current, own, hx, ho]
  | cons y xs ih => simp [current, ih]

theorem current_snoc {k : κ} {x : α} (hx : about x = some k) (ho : opens x = false)
    (xs : List α) : current about opens k (xs ++ [x]) =
      (current about opens k xs).map fun c => c ++ [x] := by
  induction xs with
  | nil => simp [current, hx, ho]
  | cons y xs ih =>
    simp only [current, List.cons_append, ih]
    cases hc : current about opens k xs with
    | some c => simp
    | none =>
      rw [own_snoc hx ho, hc]
      split <;> simp

/-- The episode that an event begins, if any. -/
theorem tally_cons (f : κ → List α → Nat) (x : α) (xs : List α) :
    tally about opens f (x :: xs) =
      (match about x, opens x with
        | some k, true => f k (x :: own about opens k xs)
        | _, _ => 0) + tally about opens f xs := by
  simp only [tally, episodes]
  split <;> simp_all

/-- The sum over the episodes that satisfy `p`. -/
theorem tally_filter (f : κ → List α → Nat) (p : κ × List α → Bool) (xs : List α) :
    (((episodes about opens xs).filter p).map fun e => f e.1 e.2).sum =
      tally about opens (fun k c => if p (k, c) then f k c else 0) xs := by
  unfold tally
  induction episodes about opens xs with
  | nil => rfl
  | cons e es ih => cases hp : p e <;> simp_all

/-- An event about nothing changes no episode. -/
theorem tally_snoc_other {f : κ → List α → Nat} {x : α} (hx : about x = none) (xs : List α) :
    tally about opens f (xs ++ [x]) = tally about opens f xs := by
  induction xs with
  | nil => simp [tally, episodes, hx]
  | cons y xs ih =>
    have hown : ∀ j, own about opens j (xs ++ [x]) = own about opens j xs := fun j =>
      own_snoc_other (by simp [hx]) xs
    simp only [List.cons_append, tally_cons, ih, hown]

/-- An opening adds the episode it begins. -/
theorem tally_snoc_opening {f : κ → List α → Nat} {k : κ} {x : α} (hx : about x = some k)
    (ho : opens x = true) (xs : List α) :
    tally about opens f (xs ++ [x]) = tally about opens f xs + f k [x] := by
  induction xs with
  | nil => simp [tally, episodes, own, hx, ho]
  | cons y xs ih =>
    simp only [List.cons_append, tally_cons, ih, own_snoc_opening ho]
    omega

/-- An event about a key that was never opened changes no episode. -/
theorem tally_snoc_none {f : κ → List α → Nat} {k : κ} {x : α} (hx : about x = some k)
    (ho : opens x = false) {xs : List α} (hc : current about opens k xs = none) :
    tally about opens f (xs ++ [x]) = tally about opens f xs := by
  induction xs with
  | nil => simp [tally, episodes, hx, ho]
  | cons y xs ih =>
    obtain ⟨hrest, hy⟩ := Option.or_eq_none_iff.mp hc
    rw [List.cons_append, tally_cons, tally_cons, ih hrest]
    congr 1
    split
    · rename_i j hj hoy
      have hne : about x ≠ some j := by
        intro he
        obtain rfl : k = j := Option.some.inj (hx.symm.trans he)
        simp [hj, hoy] at hy
      rw [own_snoc_other hne]
    · rfl

/-- Any other event changes the newest episode of its key and no other one. -/
theorem tally_snoc {f : κ → List α → Nat} {k : κ} {x : α} (hx : about x = some k)
    (ho : opens x = false) {xs c : List α} (hc : current about opens k xs = some c) :
    tally about opens f (xs ++ [x]) + f k c = tally about opens f xs + f k (c ++ [x]) := by
  induction xs generalizing c with
  | nil => simp [current] at hc
  | cons y xs ih =>
    rw [List.cons_append, tally_cons, tally_cons]
    rw [current] at hc
    cases hrest : current about opens k xs with
    | some d =>
      obtain rfl : d = c := by simpa [hrest] using hc
      have hown : ∀ j, own about opens j (xs ++ [x]) = own about opens j xs := by
        intro j
        by_cases hj : about x = some j
        · obtain rfl : k = j := Option.some.inj (hx.symm.trans hj)
          rw [own_snoc hx ho, hrest]
          rfl
        · exact own_snoc_other hj xs
      have hsum := ih hrest
      simp only [hown]
      omega
    | none =>
      -- the newest episode is the one that `y` begins
      rw [hrest, Option.none_or] at hc
      split at hc
      · rename_i hy
        obtain rfl := Option.some.inj hc
        have hown : own about opens k (xs ++ [x]) = own about opens k xs ++ [x] := by
          rw [own_snoc hx ho, hrest]
          rfl
        rw [tally_snoc_none hx ho hrest]
        simp only [hy.1, hy.2, hown, List.cons_append]
        omega
      · contradiction

theorem own_prefix (k : κ) (xs : List α) (x : α) :
    own about opens k xs <+: own about opens k (xs ++ [x]) := by
  induction xs with
  | nil => exact List.nil_prefix
  | cons y xs ih =>
    simp only [own, List.cons_append]
    split
    · split
      · exact List.nil_prefix
      · exact List.cons_prefix_cons.mpr ⟨rfl, ih⟩
    · exact ih

/-- Every episode lives on in a longer history, perhaps with more events. -/
theorem mem_episodes_snoc {e : κ × List α} {xs : List α} (h : e ∈ episodes about opens xs)
    (x : α) : ∃ c, (e.1, c) ∈ episodes about opens (xs ++ [x]) ∧ e.2 <+: c := by
  induction xs with
  | nil => cases h
  | cons y xs ih =>
    rw [List.cons_append]
    unfold episodes at h ⊢
    split at h
    · rename_i k hy ho
      rcases List.mem_cons.mp h with rfl | h
      · exact ⟨_, List.mem_cons_self, List.cons_prefix_cons.mpr ⟨rfl, own_prefix k xs x⟩⟩
      · obtain ⟨c, hc, hle⟩ := ih h
        exact ⟨c, List.mem_cons_of_mem _ hc, hle⟩
    · exact ih h

theorem mem_of_current {k : κ} {xs c : List α} (h : current about opens k xs = some c) :
    (k, c) ∈ episodes about opens xs := by
  induction xs with
  | nil => cases h
  | cons y xs ih =>
    rw [current] at h
    unfold episodes
    rcases Option.or_eq_some_iff.mp h with hc | ⟨_, hc⟩
    · split
      · exact List.mem_cons_of_mem _ (ih hc)
      · exact ih hc
    · split at hc
      · rename_i hy
        obtain rfl := Option.some.inj hc
        simp [hy.1, hy.2]
      · contradiction

/-- An episode of a longer history is an old one unless the new event belongs to
it: then it is begun by that event, or the newest one of its key goes on. -/
theorem mem_episodes_of_snoc {e : κ × List α} {xs : List α} {x : α}
    (h : e ∈ episodes about opens (xs ++ [x])) : e ∈ episodes about opens xs ∨
      about x = some e.1 ∧ (opens x = true ∧ e.2 = [x] ∨
        opens x = false ∧ ∃ c, current about opens e.1 xs = some c ∧ e.2 = c ++ [x]) := by
  induction xs with
  | nil =>
    rw [List.nil_append] at h
    unfold episodes at h
    split at h
    · rename_i k hk ho
      obtain rfl := List.mem_singleton.mp h
      exact .inr ⟨hk, .inl ⟨ho, rfl⟩⟩
    · cases h
  | cons y xs ih =>
    have later : e ∈ episodes about opens (xs ++ [x]) →
        e ∈ episodes about opens (y :: xs) ∨ about x = some e.1 ∧
          (opens x = true ∧ e.2 = [x] ∨ opens x = false ∧
            ∃ c, current about opens e.1 (y :: xs) = some c ∧ e.2 = c ++ [x]) := by
      intro he
      rcases ih he with hold | ⟨hk, hnew | ⟨ho, c, hc, hec⟩⟩
      · refine .inl ?_
        unfold episodes
        split
        · exact List.mem_cons_of_mem _ hold
        · exact hold
      · exact .inr ⟨hk, .inl hnew⟩
      · exact .inr ⟨hk, .inr ⟨ho, c, by rw [current, hc, Option.some_or], hec⟩⟩
    rw [List.cons_append] at h
    unfold episodes at h
    split at h
    · rename_i k hy hoy
      rcases List.mem_cons.mp h with rfl | h
      · by_cases hx : about x = some k
        · cases ho : opens x with
          | true =>
            refine .inl ?_
            simp [episodes, hy, hoy, own_snoc_opening ho]
          | false =>
            cases hc : current about opens k xs with
            | some c =>
              refine .inl ?_
              simp [episodes, hy, hoy, own_snoc hx ho, hc]
            | none =>
              refine .inr ⟨hx, .inr ⟨rfl, y :: own about opens k xs, ?_, ?_⟩⟩
              · simp [current, hc, hy, hoy]
              · simp [own_snoc hx ho, hc]
        · refine .inl ?_
          simp [episodes, hy, hoy, own_snoc_other hx]
      · exact later h
    · exact later h

end

end Episodes
