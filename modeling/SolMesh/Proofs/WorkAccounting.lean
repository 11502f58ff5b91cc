import SolMesh.Proofs.NodeLedger

namespace SolMesh
open Outcome Words Runs Episodes

/-- The newest update a session has accepted, the newest one it was paid out
by, and the units that were counted for work already paid. -/
structure WorkBook where
  accepted : Option StateUpdate
  paid : Option StateUpdate
  again : Nat

def unitsOf (u : Option StateUpdate) : Nat :=
  u.elim 0 fun v => v.unitsConsumed.toNat

/-- A dispute pays out the update that is pending when it ends. -/
def WorkBook.step (b : WorkBook) : SessionMove → WorkBook
  | .checkpoint u _ | .settle u _ _ => { b with accepted := some u, paid := some u }
  | .initiate u _ | .challenge u _ => { b with accepted := some u }
  | .finalize _ _ _ => { b with paid := b.accepted, again := b.again + unitsOf b.paid }
  | .reclaim _ => b

def workBook {rt : Runtime} (k : Pubkey) (events : History rt) : WorkBook :=
  (events.filterMap (Event.move k)).foldl WorkBook.step ⟨none, none, 0⟩

/-- The units of the last update a session was paid out by. -/
def paidUnits {rt : Runtime} (k : Pubkey) (events : History rt) : Nat :=
  unitsOf (workBook k events).paid

/-- Units of a session that its node counted twice. -/
def unitsAgain {rt : Runtime} (k : Pubkey) (events : History rt) : Nat :=
  (workBook k events).again

/-- The event ended a dispute of the session. -/
def Event.finalizes {rt : Runtime} (k : Pubkey) (x : Event rt) : Bool :=
  (Event.move k x).any fun
    | .finalize _ _ _ => true
    | _ => false

/-- Whenever a dispute of the session ends, no units of it have been paid yet. -/
def FinalizedUnpaid {rt : Runtime} (k : Pubkey) (events : History rt) : Prop :=
  ∀ pre x post, events = pre ++ x :: post → Event.finalizes k x = true → paidUnits k pre = 0

/-- In each session, an accepted update reports no fewer units than one with a
smaller nonce. -/
def UnitsMonotone {rt : Runtime} (tr : History rt) : Prop :=
  ∀ e ∈ sessions tr, ∀ u ∈ acceptedFor e.1 e.2, ∀ v ∈ acceptedFor e.1 e.2,
    u.nonce ≤ v.nonce → u.unitsConsumed ≤ v.unitsConsumed

section
variable {rt : Runtime} {k : Pubkey}

theorem workBook_snoc (events : History rt) (x : Event rt) : workBook k (events ++ [x]) =
    (Event.move k x).elim (workBook k events) (workBook k events).step := by
  cases h : Event.move k x <;> simp [workBook, h]

theorem unitsAgain_snoc (events : History rt) (x : Event rt) : unitsAgain k (events ++ [x]) =
    unitsAgain k events + if Event.finalizes k x then paidUnits k events else 0 := by
  rw [unitsAgain, workBook_snoc, Event.finalizes]
  cases Event.move k x with
  | none => rfl
  | some mv => cases mv <;> rfl

theorem finalizedUnpaid_snoc (events : History rt) (x : Event rt) :
    FinalizedUnpaid k (events ++ [x]) ↔
      FinalizedUnpaid k events ∧ (Event.finalizes k x = true → paidUnits k events = 0) := by
  constructor
  · intro h
    refine ⟨fun pre y post he hy => h pre y (post ++ [x]) (by simp [he]) hy, h events x [] rfl⟩
  · intro h pre y post he hy
    rcases List.eq_nil_or_concat post with rfl | ⟨post, z, rfl⟩
    · obtain ⟨rfl, hx⟩ := List.append_inj' he rfl
      obtain rfl := List.singleton_inj.mp hx
      exact h.2 hy
    · rw [List.concat_eq_append, ← List.cons_append, ← List.append_assoc] at he
      exact h.1 pre y post (List.append_inj' he rfl).1 hy

/-- No unit was counted twice if and only if every dispute ended unpaid. -/
theorem unitsAgain_eq_zero (events : History rt) :
    unitsAgain k events = 0 ↔ FinalizedUnpaid k events := by
  induction events using List.reverseRecOn with
  | nil => exact ⟨fun _ pre x post he => by simp at he, fun _ => rfl⟩
  | append_singleton events x ih =>
    rw [unitsAgain_snoc, finalizedUnpaid_snoc, Nat.add_eq_zero_iff, ih]
    split <;> simp_all

theorem UnitsMonotone.of_snoc {tr : History rt} {x : Event rt} (h : UnitsMonotone (tr ++ [x])) :
    UnitsMonotone tr := by
  intro e he u hu v hv
  obtain ⟨c, hc, hle⟩ := mem_episodes_snoc he x
  have later : ∀ w ∈ acceptedFor e.1 e.2, w ∈ acceptedFor e.1 c := fun w hw =>
    (hle.filterMap (Event.update e.1)).subset hw
  exact h (e.1, c) hc u (later u hu) v (later v hv)

end

/-- The record of a session against the book of its work and the updates it has
accepted. -/
structure WorkAgrees (b : WorkBook) (us : List StateUpdate) (s : Session) : Prop where
  pending : unitsOf b.accepted = s.pendingUnits.toNat
  opened : s.status = .open → b.paid = b.accepted
  newest : ∀ u, b.accepted = some u → u.nonce = s.lastNonce ∧ u ∈ us

section
variable {rt : Runtime} {k : Pubkey} {b : WorkBook} {us : List StateUpdate} {s s' : Session}
  {mv : SessionMove}

theorem WorkAgrees.step (h : WorkAgrees b us s) (hstep : Session.Step rt k s mv s') :
    WorkAgrees (b.step mv) (us ++ mv.message?.toList) s' := by
  have latest : ∀ {u v : StateUpdate} {o : Option StateUpdate}, some u = some v →
      o = some u → v.nonce = u.nonce ∧ v ∈ us ++ o.toList := by
    intro u v o he ho
    obtain rfl := Option.some.inj he
    exact ⟨rfl, by simp [ho]⟩
  cases hstep with
  | checkpoint | settle => exact ⟨rfl, fun _ => rfl, fun v hv => latest hv rfl⟩
  | initiate => exact ⟨rfl, fun ho => (by cases ho), fun v hv => latest hv rfl⟩
  | challenge now status =>
    exact ⟨rfl, fun ho => (by simp [Session.propose, status] at ho), fun v hv => latest hv rfl⟩
  | finalize =>
    exact ⟨h.pending, fun ho => (by cases ho), fun v hv => by
      simpa [Channel.Move.message?] using h.newest v hv⟩
  | cancel | expire =>
    exact ⟨h.pending, fun ho => (by cases ho), fun v hv => by
      simpa [Channel.Move.message?] using h.newest v hv⟩

/-- A payout counts the units of its update less those paid before. At the end
of a dispute it counts all of them. -/
theorem WorkAgrees.counted (h : WorkAgrees b us s) (hstep : Session.Step rt k s mv s')
    (monotone : ∀ u, mv.message? = some u → ∀ v ∈ us, v.nonce ≤ u.nonce →
      v.unitsConsumed ≤ u.unitsConsumed) :
    unitsOf (b.step mv).paid + (b.step mv).again =
      unitsOf b.paid + b.again + s.unitsPaid mv := by
  have grows : ∀ u, mv.message? = some u → s.lastNonce.toNat < u.nonce.toNat →
      s.pendingUnits.toNat ≤ u.unitsConsumed.toNat := by
    intro u hu hlt
    rw [← h.pending]
    cases ha : b.accepted with
    | none => exact Nat.zero_le _
    | some v =>
      obtain ⟨hn, hv⟩ := h.newest v ha
      exact UInt64.le_iff_toNat_le.mp (monotone u hu v hv
        (UInt64.le_iff_toNat_le.mpr (by rw [hn]; omega)))
  have hpending := h.pending
  cases hstep with
  | checkpoint status accepts | settle status accepts =>
    have hpaid : unitsOf b.paid = s.pendingUnits.toNat := by rw [h.opened status, hpending]
    have hle := grows _ rfl accepts.newer
    simp only [WorkBook.step, Session.unitsPaid, Session.work, Option.elim, unitsOf] at hpaid ⊢
    omega
  | finalize =>
    simp only [WorkBook.step, Session.unitsPaid, Session.work, Option.elim, unitsOf] at hpending ⊢
    omega
  | initiate | challenge | cancel | expire => rfl

end

theorem run_workAgrees {rt : Runtime} {start l : Ledger} {tr : History rt}
    (genesis : Genesis start) (run : Run (Step rt) start tr l) (k : Pubkey) :
    ∀ s, (l k).data = .session s → ∀ events,
      current Event.about Event.begins k tr = some events →
        WorkAgrees (workBook k events) (acceptedFor k events) s := by
  refine run.history (fun tr l => ∀ s, (l k).data = .session s → ∀ events,
    current Event.about Event.begins k tr = some events →
      WorkAgrees (workBook k events) (acceptedFor k events) s)
    (fun s hs => absurd hs genesis.no_session) ?_
  intro tr l label l' run ih hstep s hs events hcur
  have others : Event.about ⟨l, label, l'⟩ ≠ some k →
      WorkAgrees (workBook k events) (acceptedFor k events) s := by
    intro hb
    obtain ⟨hs₀, _⟩ := hstep.frame.session_back hb hs
    exact ih s hs₀ events ((current_snoc_other hb tr).symm.trans hcur)
  cases hstep.kind with
  | idle hb => exact others (by simp [hb])
  | opening j s₁ hb ho ht hopened =>
    by_cases hj : j = k
    · subst hj
      have hop := Opened.of_either hopened
      obtain rfl : s₁ = s := by simpa [hop.after] using hs
      rw [current_snoc_opening hb ho tr] at hcur
      obtain rfl := Option.some.inj hcur
      have hm : Event.move j (⟨l, label, l'⟩ : Event rt) = none :=
        (Event.opening l l' ((Event.begins_eq hb).symm.trans ho)).1
      simp only [workBook, List.filterMap_cons, hm]
      exact ⟨by simp [unitsOf, hop.units], fun _ => rfl, fun u hu => by cases hu⟩
    · exact others (by simpa [hb] using hj)
  | call j ctx c ts s₀ s₁ mv hb ho ht hm hc =>
    by_cases hj : j = k
    · subst hj
      obtain rfl : s₁ = s := by simpa [hc.recorded.after] using hs
      rw [current_snoc hb ho] at hcur
      obtain ⟨older, hold, rfl⟩ := Option.map_eq_some_iff.mp hcur
      have agrees := (ih s₀ hc.recorded.before older hold).step hc.step
      rw [workBook_snoc, acceptedFor_snoc, hstep.update_eq, hm]
      exact agrees
    · exact others (by simpa [hb] using hj)

/-- The units a node has counted for one of its sessions. -/
def countedUnits {rt : Runtime} (k : Pubkey) (events : History rt) : Nat :=
  paidUnits k events + unitsAgain k events

theorem Adds.units {l l' : Ledger} {node : Pubkey} {units earned total : Nat}
    (h : Adds l l' node units earned) (ht : Tracks l node Node.totalUnits total) :
    Tracks l' node Node.totalUnits (total + units) := by
  refine ht.step (fun n hn => ?_) fun habsent => ?_
  · obtain ⟨n', hn', hunits, _⟩ := h.kept n hn
    exact ⟨n', hn', hunits⟩
  · obtain ⟨hzero, _, hnew⟩ := h.born habsent
    exact ⟨hzero, fun n' hn' => (hnew n' hn').1⟩

/-- In any run with ordered units, a node has counted what its sessions have. -/
theorem run_counted {rt : Runtime} {start l : Ledger} {tr : History rt} (genesis : Genesis start)
    (run : Run (Step rt) start tr l) (node : Pubkey) :
    UnitsMonotone tr → Tracks l node Node.totalUnits (nodeTotal node countedUnits tr) := by
  refine run.history (fun tr l => UnitsMonotone tr →
    Tracks l node Node.totalUnits (nodeTotal node countedUnits tr))
    (fun _ => genesis.tracks node Node.totalUnits) ?_
  intro tr l label l' run ih hstep monotone
  have hi := run_inv genesis run
  have before := ih monotone.of_snoc
  cases hstep.kind with
  | idle hb =>
    rw [nodeTotal_idle hb]
    exact ((hstep.nodesKept hi hb).adds node).units before
  | opening k s hb ho ht hopened =>
    have hop := Opened.of_either hopened
    have hm : Event.move k (⟨l, label, l'⟩ : Event rt) = none :=
      (Event.opening l l' ((Event.begins_eq hb).symm.trans ho)).1
    have hzero : countedUnits k [(⟨l, label, l'⟩ : Event rt)] = 0 := by
      simp [countedUnits, paidUnits, unitsAgain, workBook, hm, unitsOf]
    rw [nodeTotal_opening hb ho hop.after, hzero, ite_self]
    rcases hopened with h | ⟨m, h⟩
    · exact (h.nodesKept.adds node).units before
    · exact (h.nodesKept.adds node).units before
  | call k ctx c ts s s' mv hb ho _ hm hc =>
    have hs := hc.recorded.before
    obtain ⟨events, hcur, hrec⟩ := run_current genesis run k s hs
    have agrees := run_workAgrees genesis run k s hs events hcur
    have hcounted : countedUnits k (events ++ [⟨l, label, l'⟩]) =
        countedUnits k events + s.unitsPaid mv := by
      rw [countedUnits, countedUnits, paidUnits, unitsAgain, workBook_snoc, hm]
      refine agrees.counted hc.step fun u hu v hv hle => ?_
      have hmem : (k, events ++ [⟨l, label, l'⟩]) ∈ sessions (tr ++ [⟨l, label, l'⟩]) := by
        apply mem_of_current
        rw [current_snoc hb ho, hcur]
        rfl
      have hupdate : Event.update k (⟨l, label, l'⟩ : Event rt) = some u := by
        rw [hstep.update_eq, hm]
        exact hu
      have haccepted := acceptedFor_snoc k events ⟨l, label, l'⟩
      refine monotone _ hmem v ?_ u ?_ hle
      · rw [haccepted]
        exact List.mem_append_left _ hv
      · simp [haccepted, hupdate]
    rw [nodeTotal_call node countedUnits hb ho hcur hrec hc.recorded.after hc.step.terms.node
      hcounted]
    exact (hc.adds hi node).units before

theorem nodeTotal_counted {rt : Runtime} (node : Pubkey) (tr : History rt) :
    nodeTotal node countedUnits tr =
      nodeTotal node paidUnits tr + nodeTotal node unitsAgain tr :=
  List.sum_map_add

/-- A node has counted each unit of the last update that each of its sessions
was paid out by, and none twice, if and only if no dispute ended in a session
with units that a checkpoint had paid before. -/
theorem node_work_iff {rt : Runtime} {start l : Ledger} {tr : History rt}
    (genesis : Genesis start) (run : Run (Step rt) start tr l) (monotone : UnitsMonotone tr)
    (node : Pubkey) (n : Node) (hn : (l node).data = .node n) :
    n.totalUnits.toNat = nodeTotal node paidUnits tr ↔
      ∀ e ∈ sessions tr, onNode node e = true → FinalizedUnpaid e.1 e.2 := by
  have counted := (run_counted genesis run node monotone).present n hn
  rw [counted, nodeTotal_counted, Nat.add_eq_left]
  simp only [nodeTotal, List.sum_eq_zero_iff_forall_eq_nat, List.mem_map, List.mem_filter,
    forall_exists_index, and_imp]
  constructor
  · intro h e he honNode
    exact (unitsAgain_eq_zero e.2).mp (h _ e he honNode rfl)
  · intro h _ e he honNode hu
    exact hu ▸ (unitsAgain_eq_zero e.2).mpr (h e he honNode)

section
open Localnet Transaction

/-- Two checkpoints and a cooperative close. -/
def workedSession : Ledger × History Localnet.rt :=
  submit Localnet.start (deploy ++ [openSol 7 1000000,
    cosigned 5 (update 7 1 300001 1000)
      (.checkpointSettle (settleAccounts 7) (update 7 1 300001 1000)),
    cosigned 6 (update 7 2 400000 1500)
      (.checkpointSettle (settleAccounts 7) (update 7 2 400000 1500)),
    cosigned 7 (update 7 3 450000 1800)
      (.settleSession (settleAccounts 7) (update 7 3 450000 1800))])

/-- The node after that session. -/
def workedNode : Node :=
  { disputedNode with reputation := 6, totalUnits := 1800, totalSettled := 447751 }

theorem node_work_iff_checkpoints :
    workedNode.totalUnits.toNat = nodeTotal Localnet.node paidUnits workedSession.2 ∧
      ∀ e ∈ sessions workedSession.2, onNode Localnet.node e = true →
        FinalizedUnpaid e.1 e.2 := by
  have run : Run (Step Localnet.rt) Localnet.start workedSession.2 workedSession.1 :=
    submit_run _ _
  have counted : workedNode.totalUnits.toNat =
      nodeTotal Localnet.node paidUnits workedSession.2 := by
    decide +kernel
  exact ⟨counted, (node_work_iff start_genesis run (by unfold UnitsMonotone; decide +kernel)
    Localnet.node workedNode (by decide +kernel)).mp counted⟩

/-- A checkpoint for 1000 units and a dispute that ends with 1500 make 2500. -/
theorem node_work_counted_twice : ¬ ∀ (rt : Runtime) (start l : Ledger) (tr : History rt)
    (node : Pubkey) (n : Node), Genesis start → Run (Step rt) start tr l → UnitsMonotone tr →
      (l node).data = .node n → n.totalUnits.toNat = nodeTotal node paidUnits tr := by
  intro h
  have run : Run (Step Localnet.rt) Localnet.start disputedSession.2 disputedSession.1 :=
    submit_run _ _
  have counted := h Localnet.rt Localnet.start disputedSession.1 disputedSession.2 Localnet.node
    disputedNode start_genesis run (by unfold UnitsMonotone; decide +kernel) (by decide +kernel)
  have paid : nodeTotal Localnet.node paidUnits disputedSession.2 = 1500 := by decide +kernel
  rw [paid] at counted
  exact absurd counted (by decide)

end

end SolMesh
