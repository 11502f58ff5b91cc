import SolMesh.Proofs.History

namespace SolMesh
open Outcome Runs

/-- A step of the chain, or a call that somebody submitted in vain. -/
inductive Trial (rt : Runtime)
  | took (label : Label rt)
  | refused (ctx : TxContext) (c : Call rt)

/-- The call that was tried, with the context it was tried in. -/
def Trial.call? {rt : Runtime} : Trial rt → Option (TxContext × Call rt)
  | .took (.call ctx c _) | .refused ctx c => some (ctx, c)
  | .took .external | .took .commit => none

/-- Steps and refusals. A refused call leaves the ledger as it was. -/
inductive Attempt (rt : Runtime) : Ledger → Trial rt → Ledger → Prop
  | took {l l' : Ledger} {label : Label rt} (step : Step rt l label l') :
      Attempt rt l (.took label) l'
  | refused {l : Ledger} {ctx : TxContext} {c : Call rt} {e : Failure}
      (precompiled : ctx.precompiled rt = true) (failed : c.exec ctx l = .error e) :
      Attempt rt l (.refused ctx c) l

def Trial.label? {rt : Runtime} : Trial rt → Option (Label rt)
  | .took label => some label
  | .refused _ _ => none

/-- The steps among the attempts. -/
def taken {rt : Runtime} (tr : List (Transition Ledger (Trial rt))) : History rt :=
  project id Trial.label? tr

theorem mem_taken {rt : Runtime} {tr : List (Transition Ledger (Trial rt))} {x : Event rt} :
    x ∈ taken tr ↔ ⟨x.before, .took x.label, x.after⟩ ∈ tr := by
  simp only [taken, project, List.mem_filterMap]
  constructor
  · intro h
    obtain ⟨y, hy, he⟩ := h
    obtain ⟨before, label, after⟩ := y
    cases label with
    | took label =>
      cases he
      exact hy
    | refused ctx c => contradiction
  · intro h
    exact ⟨_, h, rfl⟩

/-- Without its refusals, a run of attempts is a run of the chain. -/
theorem run_taken {rt : Runtime} {start l : Ledger} {tr : List (Transition Ledger (Trial rt))}
    (run : Run (Attempt rt) start tr l) : Run (Step rt) start (taken tr) l := by
  refine run.project id Trial.label? ?_ ?_
  · intro a e b d h hn
    cases h with
    | took step =>
      cases hn
      exact step
    | refused => cases hn
  · intro a e b h hn
    cases h with
    | took => cases hn
    | refused => rfl

theorem run_took {rt : Runtime} {start l : Ledger} {tr : History rt}
    (run : Run (Step rt) start tr l) : Run (Attempt rt) start
      (tr.map fun x => ⟨x.before, .took x.label, x.after⟩) l := by
  induction run with
  | nil => exact .nil _
  | snoc _ last ih => simpa using ih.snoc (.took last)

theorem Attempt.inv {rt : Runtime} {l l' : Ledger} {trial : Trial rt} (hi : Inv rt l)
    (h : Attempt rt l trial l') : Inv rt l' := by
  cases h with
  | took step => exact step.inv hi
  | refused => exact hi

/-- Submitting a call is an attempt, whatever comes of it. -/
theorem Attempt.submitted {rt : Runtime} {ctx : TxContext} (hp : ctx.precompiled rt = true)
    (l : Ledger) (c : Call rt) :
    ∃ trial, trial.call? = some (ctx, c) ∧ Attempt rt l trial (c.submit ctx l) := by
  unfold Call.submit
  cases h : c.exec ctx l with
  | ok r => exact ⟨.took (.call ctx c r.2), rfl, .took (.call hp h)⟩
  | error e => exact ⟨.refused ctx c, rfl, .refused hp h⟩

/-- An attempt of a call either is its success or leaves the ledger alone. -/
theorem Attempt.outcome {rt : Runtime} {ctx : TxContext} {c : Call rt} {l l' : Ledger}
    {trial : Trial rt} (h : Attempt rt l trial l') (hc : trial.call? = some (ctx, c)) :
    ctx.precompiled rt = true ∧
      ((∃ ts, trial = .took (.call ctx c ts) ∧ c.exec ctx l = .ok (l', ts)) ∨
        (trial = .refused ctx c ∧ l' = l ∧ ∃ e, c.exec ctx l = .error e)) := by
  cases h with
  | took step =>
    cases step with
    | call hp ok =>
      cases hc
      exact ⟨hp, .inl ⟨_, rfl, ok⟩⟩
    | external | commit => simp [Trial.call?] at hc
  | refused hp failed =>
    cases hc
    exact ⟨hp, .inr ⟨rfl, rfl, _, failed⟩⟩

end SolMesh
