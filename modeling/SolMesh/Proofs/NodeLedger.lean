import SolMesh.Proofs.Conservation
import SolMesh.Proofs.NodeTrackers

namespace SolMesh
open Outcome Words Runs Episodes

/-- A tracker of a node holds a total, which is empty before the node exists. -/
structure Tracks (l : Ledger) (node : Pubkey) (tracker : Node → UInt64) (total : Nat) : Prop where
  present : ∀ n, (l node).data = .node n → (tracker n).toNat = total
  absent : (∀ n, (l node).data ≠ .node n) → total = 0

theorem Tracks.step {l l' : Ledger} {node : Pubkey} {tracker : Node → UInt64} {total added : Nat}
    (h : Tracks l node tracker total)
    (kept : ∀ n, (l node).data = .node n → ∃ n', (l' node).data = .node n' ∧
      (tracker n').toNat = (tracker n).toNat + added)
    (born : (∀ n, (l node).data ≠ .node n) → added = 0 ∧
      ∀ n', (l' node).data = .node n' → tracker n' = 0) :
    Tracks l' node tracker (total + added) := by
  by_cases hn : ∃ n, (l node).data = .node n
  · obtain ⟨n, hn⟩ := hn
    obtain ⟨n', hn', he⟩ := kept n hn
    refine ⟨fun m hm => ?_, fun habsent => absurd hn' (habsent n')⟩
    obtain rfl : n' = m := by simpa [hn'] using hm
    rw [he, h.present n hn]
  · have habsent : ∀ n, (l node).data ≠ .node n := fun n he => hn ⟨n, he⟩
    obtain ⟨hadded, hzero⟩ := born habsent
    have htotal := h.absent habsent
    refine ⟨fun n' hn' => ?_, fun _ => by omega⟩
    rw [hzero n' hn', htotal, hadded]
    rfl

theorem Adds.settled {l l' : Ledger} {node : Pubkey} {units earned total : Nat}
    (h : Adds l l' node units earned) (ht : Tracks l node Node.totalSettled total) :
    Tracks l' node Node.totalSettled (total + earned) := by
  refine ht.step (fun n hn => ?_) fun habsent => ?_
  · obtain ⟨n', hn', _, hsettled, _⟩ := h.kept n hn
    exact ⟨n', hn', hsettled⟩
  · obtain ⟨_, hzero, hnew⟩ := h.born habsent
    exact ⟨hzero, fun n' hn' => (hnew n' hn').2⟩

theorem Genesis.tracks {l : Ledger} (h : Genesis l) (node : Pubkey) (tracker : Node → UInt64) :
    Tracks l node tracker 0 := by
  refine ⟨fun n hn => ?_, fun _ => rfl⟩
  have := h node
  simp [hn, AccountData.ownedByProgram] at this

/-- Nothing that happens lowers a tracker of a node. -/
theorem Step.adds {rt : Runtime} {l l' : Ledger} {label : Label rt} (hi : Inv rt l)
    (h : Step rt l label l') (node : Pubkey) : ∃ units earned, Adds l l' node units earned := by
  cases h.kind with
  | idle hb => exact ⟨0, 0, (h.nodesKept hi hb).adds node⟩
  | opening k s _ _ _ hopened =>
    rcases hopened with ho | ⟨m, ho⟩
    · exact ⟨0, 0, ho.nodesKept.adds node⟩
    · exact ⟨0, 0, ho.nodesKept.adds node⟩
  | call k ctx c ts s s' mv _ _ _ _ hc => exact ⟨_, _, hc.adds hi node⟩

/-- What a session has settled, the provider's share and the fees together. -/
def settledOf {rt : Runtime} (k : Pubkey) (events : History rt) : Nat :=
  (lastRecord k events).elim 0 fun s => s.settledToProvider.toNat

/-- What the sessions of a node have paid in one role. -/
def nodePaid {rt : Runtime} (node : Pubkey) (r : Role) (tr : History rt) : Nat :=
  nodeTotal node (fun k events => paidTo k r events) tr

/-- The books of a node against those of its sessions. -/
structure NodeBooks (rt : Runtime) (node : Pubkey) (tr : History rt) (l : Ledger) : Prop where
  recorded : nodeTotal node settledOf tr = nodePaid node .provider tr + nodePaid node .fee tr
  tracked : Tracks l node Node.totalSettled (nodePaid node .provider tr)

theorem NodeBooks.idle {rt : Runtime} {node : Pubkey} {tr : History rt} {l l' : Ledger}
    {label : Label rt} (h : NodeBooks rt node tr l) (hk : NodesKept l l')
    (hb : Event.about ⟨l, label, l'⟩ = none) : NodeBooks rt node (tr ++ [⟨l, label, l'⟩]) l' := by
  constructor
  · simp only [nodePaid, nodeTotal_idle hb]
    exact h.recorded
  · simp only [nodePaid, nodeTotal_idle hb]
    exact (hk.adds node).settled h.tracked

theorem NodeBooks.opening {rt : Runtime} {node k : Pubkey} {tr : History rt} {l l' : Ledger}
    {label : Label rt} {s : Session} (h : NodeBooks rt node tr l) (hk : NodesKept l l')
    (hb : Event.about ⟨l, label, l'⟩ = some k) (ho : Event.begins ⟨l, label, l'⟩ = true)
    (ht : Event.transfers k ⟨l, label, l'⟩ = []) (hs : Opened rt l l' k s) :
    NodeBooks rt node (tr ++ [⟨l, label, l'⟩]) l' := by
  have hpaid : ∀ r, paidTo k r [(⟨l, label, l'⟩ : Event rt)] = 0 := by
    intro r
    simp [paidTo, total, ht]
  have hsettled : settledOf k [(⟨l, label, l'⟩ : Event rt)] = 0 := by
    have hrec : lastRecord k [(⟨l, label, l'⟩ : Event rt)] = some s := lastRecord_snoc hs.after []
    simp [settledOf, hrec, hs.settled]
  have hrecorded := h.recorded
  constructor
  · simp only [nodePaid, nodeTotal_opening hb ho hs.after, hpaid, hsettled, ite_self,
      Nat.add_zero] at hrecorded ⊢
    exact hrecorded
  · simp only [nodePaid, nodeTotal_opening hb ho hs.after, hpaid, ite_self]
    exact (hk.adds node).settled h.tracked

theorem NodeBooks.call {rt : Runtime} {node k : Pubkey} {tr events : History rt} {l l' : Ledger}
    {label : Label rt} {ctx : TxContext} {c : Call rt} {ts : List Transfer} {s s' : Session}
    {mv : SessionMove} (h : NodeBooks rt node tr l) (hi : Inv rt l)
    (hb : Event.about ⟨l, label, l'⟩ = some k) (ho : Event.begins ⟨l, label, l'⟩ = false)
    (ht : Event.transfers k ⟨l, label, l'⟩ = ts) (hc : SessionCall rt ctx c l l' ts k s s' mv)
    (hcur : current Event.about Event.begins k tr = some events)
    (hrec : lastRecord k events = some s) : NodeBooks rt node (tr ++ [⟨l, label, l'⟩]) l' := by
  have hrec' : lastRecord k (events ++ [⟨l, label, l'⟩]) = some s' :=
    lastRecord_snoc hc.recorded.after events
  have hpaid : ∀ r,
      paidTo k r (events ++ [⟨l, label, l'⟩]) = paidTo k r events + received r ts := by
    intro r
    rw [paidTo, total_snoc, ht]
    rfl
  have hsettled : settledOf k (events ++ [⟨l, label, l'⟩]) =
      settledOf k events + earnings ts := by
    rw [settledOf, settledOf, hrec, hrec', ← hc.paid]
    exact hc.step.settled_grows
  have paid : ∀ r, nodePaid node r (tr ++ [⟨l, label, l'⟩]) =
      nodePaid node r tr + if s.node = node then received r ts else 0 := by
    intro r
    exact nodeTotal_call node _ hb ho hcur hrec hc.recorded.after hc.step.terms.node (hpaid r)
  constructor
  · have hrecorded := h.recorded
    rw [paid, paid, nodeTotal_call node settledOf hb ho hcur hrec hc.recorded.after
      hc.step.terms.node hsettled, earnings]
    split <;> omega
  · rw [paid]
    exact (hc.adds hi node).settled h.tracked

theorem run_nodeBooks {rt : Runtime} {start l : Ledger} {tr : History rt}
    (genesis : Genesis start) (run : Run (Step rt) start tr l) (node : Pubkey) :
    NodeBooks rt node tr l := by
  refine run.history (fun tr l => NodeBooks rt node tr l)
    ⟨rfl, genesis.tracks node Node.totalSettled⟩ ?_
  intro tr l label l' run ih hstep
  have hi := run_inv genesis run
  cases hstep.kind with
  | idle hb => exact ih.idle (hstep.nodesKept hi hb) hb
  | opening k s hb ho ht hopened =>
    have hs := Opened.of_either hopened
    rcases hopened with h | ⟨m, h⟩
    · exact ih.opening h.nodesKept hb ho ht hs
    · exact ih.opening h.nodesKept hb ho ht hs
  | call k ctx c ts s s' mv hb ho ht _ hc =>
    obtain ⟨events, hcur, hrec⟩ := run_current genesis run k s hc.recorded.before
    exact ih.call hi hb ho ht hc hcur hrec

/-- The trackers of a node only ever grow. -/
theorem run_trackers_grow {rt : Runtime} {l l' : Ledger} {tr : History rt} (hi : Inv rt l)
    (run : Run (Step rt) l tr l') {node : Pubkey} {n : Node} (hn : (l node).data = .node n) :
    ∃ n', (l' node).data = .node n' ∧ n.totalSettled ≤ n'.totalSettled ∧
      n.totalUnits ≤ n'.totalUnits ∧ n.reputation ≤ n'.reputation := by
  have grown := run.invariant (P := fun m => Inv rt m ∧ ∃ n', (m node).data = .node n' ∧
      n.totalSettled ≤ n'.totalSettled ∧ n.totalUnits ≤ n'.totalUnits ∧
      n.reputation ≤ n'.reputation)
    ⟨hi, n, hn, UInt64.le_refl _, UInt64.le_refl _, UInt32.le_refl _⟩ ?_
  · exact grown.2
  · intro a label b ha hstep
    obtain ⟨hia, m, hm, hsettled, hunits, hrep⟩ := ha
    obtain ⟨units, earned, adds⟩ := hstep.adds hia node
    obtain ⟨m', hm', hunits', hsettled', hrep'⟩ := adds.kept m hm
    refine ⟨hstep.inv hia, m', hm', ?_, ?_, UInt32.le_trans hrep hrep'⟩
    · rw [UInt64.le_iff_toNat_le] at hsettled ⊢
      omega
    · rw [UInt64.le_iff_toNat_le] at hunits ⊢
      omega

/-- A node's earnings are what its sessions paid the provider, and with the fees
they are what its sessions, open and closed, have settled. Its trackers never
fall. -/
theorem node_earnings_ledger {rt : Runtime} {start l : Ledger} {tr : History rt}
    (genesis : Genesis start) (run : Run (Step rt) start tr l) (node : Pubkey) (n : Node)
    (hn : (l node).data = .node n) :
    n.totalSettled.toNat + nodePaid node .fee tr = nodeTotal node settledOf tr ∧
      n.totalSettled.toNat = nodePaid node .provider tr ∧
      ∀ tr' l', Run (Step rt) l tr' l' → ∃ n', (l' node).data = .node n' ∧
        n.totalSettled ≤ n'.totalSettled ∧ n.totalUnits ≤ n'.totalUnits ∧
        n.reputation ≤ n'.reputation := by
  have books := run_nodeBooks genesis run node
  have htracked := books.tracked.present n hn
  refine ⟨by rw [htracked, books.recorded], htracked, fun tr' l' run' => ?_⟩
  exact run_trackers_grow (run_inv genesis run) run' hn

section
open Localnet Transaction

/-- The node after a checkpoint and a disputed close of its only session. -/
def disputedNode : Node where
  asset := 16
  provider := 2
  capacity := 1000
  geo := "geo"
  reputation := 4
  totalUnits := 2500
  totalSessions := 0
  totalSettled := 390731
  active := true
  bump := 255

theorem node_earnings_ledger_disputed :
    390731 + nodePaid Localnet.node .fee disputedSession.2 = 400000 ∧
      nodePaid Localnet.node .provider disputedSession.2 = 390731 := by
  have run : Run (Step Localnet.rt) Localnet.start disputedSession.2 disputedSession.1 :=
    submit_run _ _
  have settled : nodeTotal Localnet.node settledOf disputedSession.2 = 400000 := by
    decide +kernel
  have ledger := node_earnings_ledger start_genesis run Localnet.node disputedNode
    (by decide +kernel)
  have value : disputedNode.totalSettled.toNat = 390731 := by decide
  rw [value, settled] at ledger
  exact ⟨ledger.1, ledger.2.1.symm⟩

end

end SolMesh
