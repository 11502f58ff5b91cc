import Mathlib.Algebra.BigOperators.Group.List.Basic
import Mathlib.Algebra.Order.Ring.Nat
import Mathlib.Data.List.Induction

namespace Runs

/-- One step taken: where it started, what it was, and where it ended. -/
structure Transition (σ ε : Type) where
  before : σ
  label : ε
  after : σ

variable {σ ε : Type} {step : σ → ε → σ → Prop}

/-- The runs of a labelled transition system, with the history they leave. -/
inductive Run (step : σ → ε → σ → Prop) : σ → List (Transition σ ε) → σ → Prop
  | nil (s : σ) : Run step s [] s
  | snoc {s t u : σ} {tr : List (Transition σ ε)} {e : ε} (run : Run step s tr t)
      (last : step t e u) : Run step s (tr ++ [⟨t, e, u⟩]) u

theorem forall_mem_snoc {α : Type} {P : α → Prop} {xs : List α} {x : α} (h : ∀ y ∈ xs, P y)
    (hx : P x) : ∀ y ∈ xs ++ [x], P y :=
  List.forall_mem_append.mpr ⟨h, List.forall_mem_singleton.mpr hx⟩

theorem Run.single {s t : σ} {e : ε} (h : step s e t) : Run step s [⟨s, e, t⟩] t :=
  .snoc (.nil s) h

theorem Run.append {s t u : σ} {tr tr' : List (Transition σ ε)} (h : Run step s tr t)
    (h' : Run step t tr' u) : Run step s (tr ++ tr') u := by
  induction h' with
  | nil => simpa using h
  | snoc _ last ih => simpa using Run.snoc ih last

/-- Every recorded transition was a step, taken in a state an earlier part of
the same run had reached. -/
theorem Run.split {s u : σ} {tr : List (Transition σ ε)} (h : Run step s tr u)
    {x : Transition σ ε} (hx : x ∈ tr) :
    ∃ pre post, tr = pre ++ x :: post ∧ Run step s pre x.before ∧
      step x.before x.label x.after ∧ Run step x.after post u := by
  induction h with
  | nil => simp at hx
  | @snoc t u tr e run last ih =>
    rcases List.mem_append.mp hx with hm | hm
    · obtain ⟨pre, post, he, hpre, hstep, hpost⟩ := ih hm
      exact ⟨pre, post ++ [⟨t, e, u⟩], by simp [he], hpre, hstep, hpost.snoc last⟩
    · obtain rfl := List.mem_singleton.mp hm
      exact ⟨tr, [], by simp, run, last, .nil u⟩

theorem Run.step_of_mem {s u : σ} {tr : List (Transition σ ε)} (h : Run step s tr u)
    {x : Transition σ ε} (hx : x ∈ tr) : step x.before x.label x.after := by
  obtain ⟨_, _, _, _, hs, _⟩ := h.split hx
  exact hs

/-- A property that holds at the start and that every step keeps holds after
every run. -/
theorem Run.invariant {P : σ → Prop} {s t : σ} {tr : List (Transition σ ε)}
    (h : Run step s tr t) (start : P s)
    (keep : ∀ {a e b}, P a → step a e b → P b) : P t := by
  induction h with
  | nil => exact start
  | snoc _ last ih => exact keep ih last

/-- The same for a property of the state together with the history so far. The
step may use anything already known of every run. -/
theorem Run.history {s t : σ} {tr : List (Transition σ ε)} (h : Run step s tr t)
    (I : List (Transition σ ε) → σ → Prop) (start : I [] s)
    (keep : ∀ {tr a e b}, Run step s tr a → I tr a → step a e b → I (tr ++ [⟨a, e, b⟩]) b) :
    I tr t := by
  induction h with
  | nil => exact start
  | snoc run last ih => exact keep run ih last

/-- A run within an invariant takes its steps from states that satisfy it. -/
theorem Run.within {P : σ → Prop} {s t : σ} {tr : List (Transition σ ε)}
    (h : Run step s tr t) (start : P s) (keep : ∀ {a e b}, P a → step a e b → P b) :
    Run (fun a e b => P a ∧ step a e b) s tr t := by
  induction h with
  | nil => exact .nil s
  | snoc run last ih => exact ih.snoc ⟨run.invariant start keep, last⟩

/-- What is left of a history after its last transition satisfying `p`. -/
def since (p : Transition σ ε → Bool) (tr : List (Transition σ ε)) : List (Transition σ ε) :=
  tr.foldl (fun acc x => if p x then [] else acc ++ [x]) []

@[simp] theorem since_nil (p : Transition σ ε → Bool) : since p [] = [] := rfl

@[simp] theorem since_snoc (p : Transition σ ε → Bool) (tr : List (Transition σ ε))
    (x : Transition σ ε) : since p (tr ++ [x]) = if p x then [] else since p tr ++ [x] := by
  simp [since]

/-- The last transition of a history satisfying `p`. -/
def latest (p : Transition σ ε → Bool) (tr : List (Transition σ ε)) : Option (Transition σ ε) :=
  tr.foldl (fun acc x => if p x then some x else acc) none

@[simp] theorem latest_nil (p : Transition σ ε → Bool) : latest p [] = none := rfl

@[simp] theorem latest_snoc (p : Transition σ ε → Bool) (tr : List (Transition σ ε))
    (x : Transition σ ε) : latest p (tr ++ [x]) = if p x then some x else latest p tr := by
  simp [latest]

/-- A quantity collected along a history. -/
def total (f : Transition σ ε → Nat) (tr : List (Transition σ ε)) : Nat :=
  (tr.map f).sum

@[simp] theorem total_nil (f : Transition σ ε → Nat) : total f [] = 0 := rfl

@[simp] theorem total_snoc (f : Transition σ ε → Nat) (tr : List (Transition σ ε))
    (x : Transition σ ε) : total f (tr ++ [x]) = total f tr + f x := by
  simp [total]

theorem total_cons (f : Transition σ ε → Nat) (x : Transition σ ε)
    (tr : List (Transition σ ε)) : total f (x :: tr) = f x + total f tr := by
  simp [total]

/-- What is collected comes from the transitions that have any of it. -/
theorem total_filter {f : Transition σ ε → Nat} {p : Transition σ ε → Bool}
    {tr : List (Transition σ ε)} (h : ∀ x ∈ tr, p x = false → f x = 0) :
    total f (tr.filter p) = total f tr := by
  induction tr with
  | nil => rfl
  | cons x tr ih =>
    have hrest := ih fun y hy => h y (List.mem_cons_of_mem x hy)
    cases hp : p x with
    | true => rw [List.filter_cons_of_pos hp, total_cons, total_cons, hrest]
    | false =>
      rw [List.filter_cons_of_neg (by simp [hp]), total_cons, hrest,
        h x List.mem_cons_self hp, Nat.zero_add]

theorem total_le_total {f g : Transition σ ε → Nat} {tr : List (Transition σ ε)}
    (h : ∀ x ∈ tr, f x ≤ g x) : total f tr ≤ total g tr := by
  induction tr with
  | nil => exact Nat.le_refl _
  | cons x tr ih =>
    rw [total_cons, total_cons]
    exact Nat.add_le_add (h x List.mem_cons_self) (ih fun y hy => h y (List.mem_cons_of_mem x hy))

/-- Quantities that are never above others agree with them in total only where
they agree at every transition. -/
theorem total_eq_total_iff {f g : Transition σ ε → Nat} {tr : List (Transition σ ε)}
    (h : ∀ x ∈ tr, f x ≤ g x) : total f tr = total g tr ↔ ∀ x ∈ tr, f x = g x := by
  induction tr with
  | nil => simp
  | cons x tr ih =>
    have hrest : ∀ y ∈ tr, f y ≤ g y := fun y hy => h y (List.mem_cons_of_mem x hy)
    have hx := h x List.mem_cons_self
    have hle := total_le_total hrest
    rw [total_cons, total_cons, List.forall_mem_cons, ← ih hrest]
    omega

/-- A history as it looks through `view`. Only the steps that `name` names show. -/
def project {τ δ : Type} (view : σ → τ) (name : ε → Option δ) (tr : List (Transition σ ε)) :
    List (Transition τ δ) :=
  tr.filterMap fun x => (name x.label).map fun d => ⟨view x.before, d, view x.after⟩

theorem project_labels {τ δ : Type} (view : σ → τ) (name : ε → Option δ)
    (tr : List (Transition σ ε)) : (project view name tr).map (fun x => x.label) =
      tr.filterMap fun x => name x.label := by
  simp [project, List.map_filterMap, Option.map_map, Function.comp_def]

/-- When every named step is one of another system, and no other step shows,
then every run is a run of that system. -/
theorem Run.project {τ δ : Type} {step' : τ → δ → τ → Prop} (view : σ → τ)
    (name : ε → Option δ)
    (shows : ∀ {a e b d}, step a e b → name e = some d → step' (view a) d (view b))
    (hides : ∀ {a e b}, step a e b → name e = none → view b = view a)
    {s t : σ} {tr : List (Transition σ ε)} (h : Run step s tr t) :
    Run step' (view s) (Runs.project view name tr) (view t) := by
  induction h with
  | nil => exact .nil _
  | @snoc t u tr e run last ih =>
    cases hn : name e with
    | none =>
      rw [hides last hn]
      simpa [Runs.project, hn] using ih
    | some d => simpa [Runs.project, hn] using ih.snoc (shows last hn)

/-- When the second system can follow every step of the first in step, it can
follow every run. -/
theorem Run.simulate {τ : Type} {step' : τ → ε → τ → Prop} {R : σ → τ → Prop}
    (follow : ∀ {a b e a'}, R a b → step a e a' → ∃ b', step' b e b' ∧ R a' b')
    {s s' : σ} {t : τ} {tr : List (Transition σ ε)} (h : Run step s tr s') (start : R s t) :
    ∃ tr' t', Run step' t tr' t' ∧ tr'.map (fun x => x.label) = tr.map (fun x => x.label) ∧
      R s' t' := by
  induction h with
  | nil => exact ⟨[], t, .nil t, rfl, start⟩
  | snoc _ last ih =>
    obtain ⟨tr', t', run, hlabels, related⟩ := ih
    obtain ⟨t'', hstep, related'⟩ := follow related last
    exact ⟨_, t'', run.snoc hstep, by simp [hlabels], related'⟩

end Runs
