import SolMesh.Proofs.Acceptance
import SolMesh.Proofs.NodeTrackers

namespace SolMesh
open Outcome Runs

/-- The instruction opens a session on this node. -/
def Call.opensOn {rt : Runtime} (node : Pubkey) : Call rt → Bool
  | .openSession a .. => a.node = node
  | .openSessionSpl a .. => a.node = node
  | _ => false

/-- An opening on this node succeeded. -/
def Event.opensOn {rt : Runtime} (node : Pubkey) (x : Event rt) : Bool :=
  match x.label with
  | .call _ c _ => c.opensOn node
  | .external | .commit => false

/-- How many sessions were opened on a node, in SOL and in tokens. -/
def openingsOn {rt : Runtime} (node : Pubkey) (tr : History rt) : Nat :=
  tr.countP (Event.opensOn node)

/-- No node on record has counted a session. -/
def Uncounted (l : Ledger) : Prop :=
  ∀ x n, (l x).data = .node n → n.totalSessions = 0

theorem NodesKept.uncounted {l l' : Ledger} (h : NodesKept l l') (hl : Uncounted l) :
    Uncounted l' := by
  intro x n' hn'
  by_cases hx : ∃ n, (l x).data = .node n
  · obtain ⟨n, hn⟩ := hx
    obtain ⟨m, hm, same⟩ := h.kept x n hn
    obtain rfl : m = n' := by simpa [hm] using hn'
    rw [same.totalSessions, hl x n hn]
  · obtain ⟨_, _, hsessions⟩ := h.born x (fun n hn => hx ⟨n, hn⟩) n' hn'
    exact hsessions

/-- A payout does not touch the count. -/
theorem SessionCall.uncounted {rt : Runtime} {ctx : TxContext} {c : Call rt} {l l' : Ledger}
    {ts : List Transfer} {k : Pubkey} {s s' : Session} {mv : SessionMove}
    (h : SessionCall rt ctx c l l' ts k s s' mv) (hl : Uncounted l) : Uncounted l' := by
  intro x n' hn'
  by_cases hx : ∃ n, (l x).data = .node n
  · obtain ⟨n, hn⟩ := hx
    obtain ⟨m, hm, earned⟩ := h.earned_on hn
    obtain rfl : m = n' := by simpa [hm] using hn'
    rw [earned.identity]
    exact hl x n hn
  · exact absurd hn' (h.no_node (fun n hn => hx ⟨n, hn⟩) n')

/-- An opening adds to the count in memory only, and no other instruction adds
to it at all. -/
theorem Step.uncounted {rt : Runtime} {l l' : Ledger} {label : Label rt} (hi : Inv rt l)
    (h : Step rt l label l') (hl : Uncounted l) : Uncounted l' := by
  cases h.kind with
  | idle hb => exact (h.nodesKept hi hb).uncounted hl
  | opening k s _ _ _ hopened =>
    rcases hopened with ho | ⟨m, ho⟩
    · exact ho.nodesKept.uncounted hl
    · exact ho.nodesKept.uncounted hl
  | call k ctx c ts s s' mv _ _ _ _ hc => exact hc.uncounted hl

theorem run_uncounted {rt : Runtime} {start l : Ledger} {tr : History rt}
    (genesis : Genesis start) (run : Run (Step rt) start tr l) : Uncounted l := by
  refine run.history (fun _ l => Uncounted l) (fun x n hn => ?_) ?_
  · have hx := genesis x
    simp [hn, AccountData.ownedByProgram] at hx
  · intro tr l label l' run ih hstep
    exact hstep.uncounted (run_inv genesis run) ih

/-- A node's stored count is the number of sessions opened on it if and only if
that number is 0. -/
theorem total_sessions_iff {rt : Runtime} {start l : Ledger} {tr : History rt}
    (genesis : Genesis start) (run : Run (Step rt) start tr l) (node : Pubkey) (n : Node)
    (hn : (l node).data = .node n) :
    n.totalSessions.toNat = openingsOn node tr ↔ openingsOn node tr = 0 := by
  have uncounted := run_uncounted genesis run node n hn
  rw [uncounted, UInt64.toNat_zero]
  exact eq_comm

section
open Localnet Transaction

theorem total_sessions_iff_registered :
    registeredNode.totalSessions.toNat =
      openingsOn Localnet.node (submit Localnet.start deploy).2 := by
  have run : Run (Step Localnet.rt) Localnet.start (submit Localnet.start deploy).2
      (submit Localnet.start deploy).1 := submit_run _ _
  exact (total_sessions_iff start_genesis run Localnet.node registeredNode
    (by decide +kernel)).mpr (by decide +kernel)

/-- One session was opened, and the node still counts none. -/
theorem total_sessions_not_stored : ¬ ∀ (rt : Runtime) (start l : Ledger) (tr : History rt)
    (node : Pubkey) (n : Node), Genesis start → Run (Step rt) start tr l →
      (l node).data = .node n → n.totalSessions.toNat = openingsOn node tr := by
  intro h
  have run : Run (Step Localnet.rt) Localnet.start freshSession.2 freshSession.1 :=
    submit_run _ _
  have counted := h Localnet.rt Localnet.start freshSession.1 freshSession.2 Localnet.node
    registeredNode start_genesis run (by decide +kernel)
  have one : openingsOn Localnet.node freshSession.2 = 1 := by decide +kernel
  rw [one] at counted
  exact absurd counted (by decide)

end

end SolMesh
