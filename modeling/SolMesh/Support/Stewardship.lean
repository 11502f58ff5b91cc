import SolMesh.Support.Runs

namespace Stewardship
open Runs

variable {π α ρ β : Type}

/-- What is done to a register: a party founds it, or someone amends it. -/
inductive Deed (π α ρ : Type)
  | found (steward : π) (rules : ρ)
  | amend (steward : π) (change : α)
  deriving DecidableEq

/-- Nothing yet, or the steward with the rules in force. -/
abbrev Register (π ρ : Type) := Option (π × ρ)

/-- Only an empty register is founded, on rules that are fit, and only its
steward amends it. -/
inductive Step (fit : ρ → Prop) (edit : α → ρ → Option ρ) :
    Register π ρ → Deed π α ρ → Register π ρ → Prop
  | found (p : π) {r : ρ} (sound : fit r) : Step fit edit none (.found p r) (some (p, r))
  | amend {p : π} {a : α} {r r' : ρ} (accepted : edit a r = some r') :
      Step fit edit (some (p, r)) (.amend p a) (some (p, r'))

/-- The rules after a series of changes, each of them accepted. -/
def replay (edit : α → ρ → Option ρ) : List α → ρ → Option ρ
  | [], r => some r
  | a :: changes, r => (edit a r).bind (replay edit changes)

variable {fit : ρ → Prop} {edit : α → ρ → Option ρ}

@[simp] theorem replay_nil (r : ρ) : replay edit [] r = some r := rfl

theorem replay_snoc (changes : List α) (a : α) (r : ρ) :
    replay edit (changes ++ [a]) r = (replay edit changes r).bind (edit a) := by
  induction changes generalizing r with
  | nil => cases h : edit a r <;> simp [replay, h]
  | cons b changes ih =>
    simp only [List.cons_append, replay, Option.bind_assoc]
    exact Option.bind_congr fun r' _ => ih r'

/-- What one change keeps, a series of changes keeps. -/
theorem replay_keeps {P : ρ → Prop} (keep : ∀ {a r r'}, P r → edit a r = some r' → P r')
    {changes : List α} {r r' : ρ} (start : P r) (h : replay edit changes r = some r') : P r' := by
  induction changes generalizing r with
  | nil =>
    obtain rfl := Option.some.inj h
    exact start
  | cons a changes ih =>
    obtain ⟨r₁, he, hrest⟩ := Option.bind_eq_some_iff.mp h
    exact ih (keep start he) hrest

/-- A field that each change either sets or leaves holds what was set last. -/
theorem replay_last {f : ρ → β} {g : α → Option β}
    (field : ∀ {a r r'}, edit a r = some r' → f r' = (g a).getD (f r))
    {changes : List α} {r r' : ρ} (h : replay edit changes r = some r') :
    f r' = (changes.filterMap g).getLast?.getD (f r) := by
  induction changes using List.reverseRecOn generalizing r' with
  | nil =>
    obtain rfl := Option.some.inj h
    rfl
  | append_singleton changes a ih =>
    rw [replay_snoc] at h
    obtain ⟨r₁, hrest, he⟩ := Option.bind_eq_some_iff.mp h
    rw [field he, ih hrest, List.filterMap_append]
    cases hs : g a with
    | none => simp [hs]
    | some b => simp [hs]

/-- A register stays its steward's. -/
theorem run_steward {tr : List (Transition (Register π ρ) (Deed π α ρ))} {st : Register π ρ}
    {p : π} {r : ρ} (h : Run (Step fit edit) (some (p, r)) tr st) : ∃ r', st = some (p, r') := by
  induction h with
  | nil => exact ⟨r, rfl⟩
  | snoc _ last ih =>
    obtain ⟨r', rfl⟩ := ih
    cases last with
    | amend accepted => exact ⟨_, rfl⟩

/-- A register that was empty at the start has one founding, and everything
after it is the founder's: the rules in force are the founding ones with all
amendments replayed. -/
theorem run_replayed {tr : List (Transition (Register π ρ) (Deed π α ρ))} {st : Register π ρ}
    (h : Run (Step fit edit) none tr st) :
    (tr = [] ∧ st = none) ∨ ∃ p r changes r', tr.map (fun x => x.label) =
      .found p r :: changes.map (.amend p) ∧ fit r ∧ replay edit changes r = some r' ∧
        st = some (p, r') := by
  induction h with
  | nil => exact .inl ⟨rfl, rfl⟩
  | snoc _ last ih =>
    rcases ih with ⟨rfl, rfl⟩ | ⟨p, r, changes, r', hl, hf, hr, rfl⟩
    · cases last with
      | @found p r sound => exact .inr ⟨p, r, [], r, rfl, sound, rfl, rfl⟩
    · cases last with
      | @amend _ a _ r'' accepted =>
        refine .inr ⟨p, r, changes ++ [a], r'', by simp [hl], hf, ?_, rfl⟩
        rw [replay_snoc, hr]
        exact accepted

end Stewardship
