import Mathlib.Logic.Basic

namespace Outcome

/-- A guard: nothing happens when `p` holds, and `e` is raised otherwise. The
lemmas below turn a successful run into the facts its checks established. -/
def require {ε : Type} (p : Prop) [Decidable p] (e : ε) : Except ε Unit :=
  if p then .ok () else .error e

/-- Turn a missing value into the failure `e`. -/
def okOr {ε α : Type} (o : Option α) (e : ε) : Except ε α :=
  match o with
  | some a => .ok a
  | none => .error e

@[simp] theorem bind_ok {ε α β : Type} {x : Except ε α} {f : α → Except ε β} {b : β} :
    (x >>= f) = .ok b ↔ ∃ a, x = .ok a ∧ f a = .ok b := by
  cases x with
  | error e => simp [bind, Except.bind]
  | ok a => simp [bind, Except.bind]

@[simp] theorem pure_ok {ε α : Type} {a b : α} : (pure a : Except ε α) = .ok b ↔ a = b := by
  simp [pure, Except.pure]

@[simp] theorem require_ok {ε : Type} {p : Prop} [Decidable p] {e : ε} {u : Unit} :
    require p e = .ok u ↔ p := by
  by_cases hp : p <;> simp [require, hp]

@[simp] theorem okOr_ok {ε α : Type} {o : Option α} {e : ε} {a : α} :
    okOr o e = .ok a ↔ o = some a := by
  cases o <;> simp [okOr]

/-- Where a failure came from: one of the two stages, the first if it failed. -/
theorem bind_error {ε α β : Type} {x : Except ε α} {f : α → Except ε β} {e : ε} :
    (x >>= f) = .error e ↔ x = .error e ∨ ∃ a, x = .ok a ∧ f a = .error e := by
  cases x with
  | error d => simp [bind, Except.bind]
  | ok a => simp [bind, Except.bind]

theorem require_error {ε : Type} {p : Prop} [Decidable p] {d e : ε} :
    require p d = .error e ↔ ¬ p ∧ d = e := by
  by_cases hp : p <;> simp [require, hp]

theorem okOr_error {ε α : Type} {o : Option α} {d e : ε} :
    okOr o d = .error e ↔ o = none ∧ d = e := by
  cases o <;> simp [okOr]

theorem exists_ok {ε α : Type} {x : Except ε α} (h : x.isOk = true) : ∃ a, x = .ok a := by
  cases x with
  | error e => simp [Except.isOk, Except.toBool] at h
  | ok a => exact ⟨a, rfl⟩

/-- A program succeeds when its first stage does, and the rest on what it gave. -/
theorem bind_exists {ε α β : Type} {x : Except ε α} {f : α → Except ε β} {a : α}
    (hx : x = .ok a) (hf : ∃ b, f a = .ok b) : ∃ b, (x >>= f) = .ok b := by
  obtain ⟨b, hb⟩ := hf
  exact ⟨b, bind_ok.mpr ⟨a, hx, hb⟩⟩

theorem require_exists {ε β : Type} {p : Prop} [Decidable p] {e : ε} {f : Unit → Except ε β}
    (hp : p) (hf : ∃ b, f () = .ok b) : ∃ b, (require p e >>= f) = .ok b :=
  bind_exists (require_ok.mpr hp : require p e = .ok ()) hf

/-- A program cannot raise `e` when none of its two stages can. -/
theorem bind_ne_error {ε α β : Type} {x : Except ε α} {f : α → Except ε β} {e : ε}
    (hx : x ≠ .error e) (hf : ∀ a, x = .ok a → f a ≠ .error e) : (x >>= f) ≠ .error e := by
  cases x with
  | error d =>
    intro h
    exact hx (by simpa [bind, Except.bind] using h)
  | ok a => simpa [bind, Except.bind] using hf a rfl

theorem require_ne_error {ε : Type} {p : Prop} [Decidable p] {d e : ε} (hd : d ≠ e) :
    require p d ≠ .error e := by
  by_cases hp : p <;> simp [require, hp, hd]

end Outcome
