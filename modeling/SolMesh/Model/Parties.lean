import SolMesh.Model.Program

namespace SolMesh
open Runs

/-- The chain together with the updates that both parties of a session have
signed for each other, submitted or not. -/
structure World where
  ledger : Ledger
  signed : List StateUpdate

inductive Act (rt : Runtime)
  | chain (label : Label rt)
  | cosign (u : StateUpdate)

/-- Anybody may use the chain, where an update needs both signatures, and two
parties may sign one more update at any moment. -/
inductive World.Step (rt : Runtime) : World → Act rt → World → Prop
  | chain {w : World} {l' : Ledger} {label : Label rt} (step : SolMesh.Step rt w.ledger label l')
      (signed : ∀ ctx c ts u, label = .call ctx c ts → c.update? = some u → u ∈ w.signed) :
      World.Step rt w (.chain label) { w with ledger := l' }
  | cosign (w : World) (u : StateUpdate) :
      World.Step rt w (.cosign u) { w with signed := w.signed ++ [u] }

def Act.label? {rt : Runtime} : Act rt → Option (Label rt)
  | .chain label => some label
  | .cosign _ => none

/-- What has happened on the chain. -/
def onChain {rt : Runtime} (tr : List (Transition World (Act rt))) : History rt :=
  project World.ledger Act.label? tr

theorem run_onChain {rt : Runtime} {w w' : World} {tr : List (Transition World (Act rt))}
    (run : Run (World.Step rt) w tr w') :
    Run (Step rt) w.ledger (onChain tr) w'.ledger := by
  refine run.project World.ledger Act.label? ?_ ?_
  · intro a e b d h hn
    cases h with
    | chain step =>
      cases hn
      exact step
    | cosign => cases hn
  · intro a e b h hn
    cases h with
    | chain => cases hn
    | cosign => rfl

/-- A run of the chain takes place in a world where its updates are signed. -/
theorem run_world {rt : Runtime} {l l' : Ledger} {tr : History rt} (signed : List StateUpdate)
    (run : Run (Step rt) l tr l') (known : ∀ x ∈ tr, ∀ ctx c ts u, x.label = .call ctx c ts →
      c.update? = some u → u ∈ signed) :
    ∃ tr', Run (World.Step rt) ⟨l, signed⟩ tr' ⟨l', signed⟩ := by
  induction run with
  | nil => exact ⟨[], .nil _⟩
  | @snoc l' l'' tr label run last ih =>
    obtain ⟨tr', htr'⟩ := ih fun x hx => known x (List.mem_append_left _ hx)
    have hlast := known ⟨l', label, l''⟩ (by simp)
    exact ⟨_, htr'.snoc (.chain last hlast)⟩

end SolMesh
