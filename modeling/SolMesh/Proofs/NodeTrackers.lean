import SolMesh.Proofs.History
import SolMesh.Support.Episodes

namespace SolMesh
open Outcome Words Runs Episodes

/-- Of the nodes on record only the offer changes, and a new node starts with
empty trackers. -/
structure NodesKept (l l' : Ledger) : Prop where
  kept : ∀ x n, (l x).data = .node n → ∃ n', (l' x).data = .node n' ∧ n.SameRecord n'
  born : ∀ x, (∀ n, (l x).data ≠ .node n) → ∀ n', (l' x).data = .node n' →
    n'.totalUnits = 0 ∧ n'.totalSettled = 0 ∧ n'.totalSessions = 0

/-- Where no record of a node appears or goes and none is written. -/
theorem NodesKept.of_data {l l' : Ledger} (h : ∀ x, (l' x).data = (l x).data ∨
    (∀ n, (l x).data ≠ .node n) ∧ ∀ n, (l' x).data ≠ .node n) : NodesKept l l' := by
  refine ⟨fun x n hn => ?_, fun x hx n' hn' => ?_⟩
  · rcases h x with he | ⟨habsent, _⟩
    · exact ⟨n, he.trans hn, ⟨.refl n, rfl, rfl, rfl, rfl⟩⟩
    · exact absurd hn (habsent n)
  · rcases h x with he | ⟨_, habsent⟩
    · exact absurd (he.symm.trans hn') (hx n')
    · exact absurd hn' (habsent n')

theorem OpenedSol.nodesKept {rt : Runtime} {l l' : Ledger} {k : Pubkey} {s : Session}
    (h : OpenedSol rt l l' k s) : NodesKept l l' := by
  refine .of_data fun x => ?_
  by_cases hx : x = k
  · subst hx
    exact .inr ⟨by simp [h.fresh], by simp [h.after]⟩
  · exact .inl (h.data x hx)

theorem OpenedSpl.nodesKept {rt : Runtime} {l l' : Ledger} {k m : Pubkey} {s : Session}
    (h : OpenedSpl rt l l' k m s) : NodesKept l l' := by
  refine .of_data fun x => ?_
  by_cases hx : x = k
  · subst hx
    exact .inr ⟨by simp [h.fresh], by simp [h.after]⟩
  by_cases hv : x = rt.vaultAta k m
  · subst hv
    exact .inr ⟨by simp [h.vaultFresh], by simp [h.vault]⟩
  by_cases ht : ∃ t, (l x).data = .token t
  · obtain ⟨t, ht⟩ := ht
    obtain ⟨t', ht', _⟩ := h.token x t ht
    exact .inr ⟨by simp [ht], by simp [ht']⟩
  · exact .inl (h.data x hx hv fun t he => ht ⟨t, he⟩)

theorem nodesKept_config {l : Ledger} {k : Pubkey} {c : Config} (c' : Config)
    (hc : (l k).data = .config c) : NodesKept l (l.setData k (.config c')) := by
  refine .of_data fun x => ?_
  by_cases hx : x = k
  · subst hx
    exact .inr ⟨by simp [hc], by simp⟩
  · exact .inl (by rw [Ledger.setData_data, if_neg hx])

theorem initializeConfigHandler_nodes {rt : Runtime} {l l' : Ledger} {a : InitializeConfig rt}
    {feeBps : UInt16} {window : Int64} {mplCore : Pubkey} {ts : List Transfer}
    (h : initializeConfigHandler rt l a feeBps window mplCore = .ok (l', ts)) :
    NodesKept l l' := by
  simp only [initializeConfigHandler, bind_ok, pure_ok, Prod.mk.injEq, exitAccount_writable] at h
  obtain ⟨_, _, l₁, h₁, _, _, _, _, _, _, rfl, rfl⟩ := h
  have hi := initAccount_ok h₁
  refine .of_data fun x => ?_
  by_cases hx : x = a.config
  · subst hx
    exact .inr ⟨by simp [hi.fresh], by simp⟩
  · exact .inl (by rw [Ledger.setData_data, if_neg hx, hi.data, if_neg hx])

/-- The new node has earned nothing yet. -/
theorem Registered.nodesKept {rt : Runtime} {l l' : Ledger} {k : Pubkey} {n : Node}
    (h : Registered rt l l' k n) : NodesKept l l' := by
  refine ⟨fun x n' hn => ?_, fun x hx n' hn => ?_⟩
  · have hxk : x ≠ k := ne_of_data hn h.nodeFresh (by simp)
    have hxa : x ≠ n.asset := ne_of_data hn h.assetFresh (by simp)
    exact ⟨n', (h.data x hxk hxa).trans hn, ⟨.refl n', rfl, rfl, rfl, rfl⟩⟩
  · by_cases hxk : x = k
    · obtain rfl : n = n' := by simpa [hxk, h.node] using hn
      exact ⟨h.units, h.settled, h.sessions⟩
    by_cases hxa : x = n.asset
    · obtain ⟨c, hc, _⟩ := h.asset.2
      simp [hxa, hc] at hn
    · exact absurd ((h.data x hxk hxa).symm.trans hn) (hx n')

theorem updateConfigHandler_nodes {rt : Runtime} {l l' : Ledger} {a : AdminConfig rt}
    {feeBps : Option UInt16} {window : Option Int64} {ts : List Transfer}
    (h : updateConfigHandler rt l a feeBps window = .ok (l', ts)) : NodesKept l l' := by
  simp only [updateConfigHandler, bind_ok, pure_ok, Prod.mk.injEq, exitAccount_writable] at h
  obtain ⟨c, hload, _, _, c', _, rfl, rfl⟩ := h
  exact nodesKept_config c' (AdminConfig.load_ok.mp hload).1

theorem setPausedHandler_nodes {rt : Runtime} {l l' : Ledger} {a : AdminConfig rt}
    {paused : Bool} {ts : List Transfer} (h : setPausedHandler rt l a paused = .ok (l', ts)) :
    NodesKept l l' := by
  simp only [setPausedHandler, bind_ok, pure_ok, Prod.mk.injEq, exitAccount_writable] at h
  obtain ⟨c, hload, rfl, rfl⟩ := h
  exact nodesKept_config _ (AdminConfig.load_ok.mp hload).1

theorem withdrawFeesHandler_nodes {rt : Runtime} {l l' : Ledger} {a : WithdrawFees rt}
    {amount : UInt64} {ts : List Transfer}
    (h : withdrawFeesHandler rt l a amount = .ok (l', ts)) : NodesKept l l' := by
  simp only [withdrawFeesHandler, bind_ok, pure_ok, Prod.mk.injEq] at h
  obtain ⟨_, _, _, _, _, _, _, _, _, _, l₁, h₁, rfl, rfl⟩ := h
  obtain ⟨_, hsend⟩ := systemTransfer_ok h₁
  exact .of_data fun x => .inl (hsend.data x)

theorem updateNodeMetaHandler_nodes {rt : Runtime} {l l' : Ledger} {a : UpdateNodeMeta rt}
    {capacity : Option UInt64} {geo : Option String} {active : Option Bool} {ts : List Transfer}
    (h : updateNodeMetaHandler rt l a capacity geo active = .ok (l', ts)) : NodesKept l l' := by
  obtain ⟨n, n', c, attributes, hn, hc, same, _, rfl⟩ := updateNodeMetaHandler_ok h
  have asset : NodesKept l (l.setData n.asset (.core { c with attributes := attributes })) := by
    refine .of_data fun x => ?_
    by_cases hx : x = n.asset
    · subst hx
      exact .inr ⟨by simp [hc], by simp⟩
    · exact .inl (by rw [Ledger.setData_data, if_neg hx])
  refine ⟨fun x m hm => ?_, fun x hx m hm => ?_⟩
  · by_cases hxn : x = a.node
    · subst hxn
      obtain rfl : n = m := by simpa [hn] using hm
      exact ⟨n', Ledger.setData_self _ _ _, same⟩
    · rw [Ledger.setData_data, if_neg hxn]
      exact asset.kept x m hm
  · have hxn : x ≠ a.node := by
      intro he
      subst he
      exact hx n hn
    rw [Ledger.setData_data, if_neg hxn] at hm
    exact asset.born x hx m hm

theorem Respects.nodes {rt : Runtime} {l l' : Ledger} (h : Respects rt l l') : NodesKept l l' := by
  refine .of_data fun x => ?_
  by_cases ho : (l x).data.ownedByProgram = true
  · exact .inl (h.program x ho).1
  · refine .inr ⟨fun n hn => ho (by simp [hn, AccountData.ownedByProgram]), fun n hn => ho ?_⟩
    exact h.fresh x (by simp [hn, AccountData.ownedByProgram])

/-- A node never runs out of lamports, so none is purged. -/
theorem Inv.purge_nodes {rt : Runtime} {l : Ledger} (hi : Inv rt l) : NodesKept l l.purge := by
  refine .of_data fun x => ?_
  by_cases hz : (l x).lamports = 0
  · refine .inr ⟨fun n hn => ?_, fun n hn => ?_⟩
    · have hpos := (hi.node x n hn).2
      simp [hz] at hpos
    · simp [Ledger.purge, hz] at hn
  · exact .inl (by simp [Ledger.purge, hz])

namespace Event

variable {rt : Runtime} (x : Event rt)

/-- The session the event was about. -/
def about : Option Pubkey :=
  x.label.busy

/-- The event opened a session. -/
def begins : Bool :=
  match x.label with
  | .call _ c _ => c.opens
  | .external | .commit => false

end Event

/-- What a step is, and for which session. -/
inductive StepKind (rt : Runtime) (l : Ledger) (label : Label rt) (l' : Ledger) : Prop
  | idle (about : Event.about ⟨l, label, l'⟩ = none)
  | opening (k : Pubkey) (s : Session) (about : Event.about ⟨l, label, l'⟩ = some k)
      (begins : Event.begins ⟨l, label, l'⟩ = true)
      (transfers : Event.transfers k ⟨l, label, l'⟩ = [])
      (opened : OpenedSol rt l l' k s ∨ ∃ m, OpenedSpl rt l l' k m s)
  | call (k : Pubkey) (ctx : TxContext) (c : Call rt) (ts : List Transfer) (s s' : Session)
      (mv : SessionMove) (about : Event.about ⟨l, label, l'⟩ = some k)
      (begins : Event.begins ⟨l, label, l'⟩ = false)
      (transfers : Event.transfers k ⟨l, label, l'⟩ = ts)
      (move : Event.move k ⟨l, label, l'⟩ = some mv)
      (effect : SessionCall rt ctx c l l' ts k s s' mv)

theorem Event.begins_eq {rt : Runtime} {l l' : Ledger} {label : Label rt} {k : Pubkey}
    (hb : label.busy = some k) :
    Event.begins ⟨l, label, l'⟩ = Event.opens k (⟨l, label, l'⟩ : Event rt) := by
  cases label with
  | external | commit => rfl
  | call ctx c ts =>
    have hk : c.session? = some k := hb
    simp [Event.begins, Event.opens, hk]

theorem Step.kind {rt : Runtime} {l l' : Ledger} {label : Label rt} (h : Step rt l label l') :
    StepKind rt l label l' := by
  cases hb : label.busy with
  | none => exact .idle hb
  | some k =>
    cases h.session_event k with
    | opening s ho ht hs => exact .opening k s hb ((Event.begins_eq hb).trans ho) ht hs
    | call ctx c ts s s' mv _ _ ho ht hm hc =>
      exact .call k ctx c ts s s' mv hb ((Event.begins_eq hb).trans ho) ht hm hc
    | bystander hne => exact absurd hb hne

/-- Unless it is an instruction on an existing session, a step keeps the nodes. -/
theorem Step.nodesKept {rt : Runtime} {l l' : Ledger} {label : Label rt} (hi : Inv rt l)
    (h : Step rt l label l') (hb : Event.about ⟨l, label, l'⟩ = none) : NodesKept l l' := by
  cases h with
  | external respects => exact respects.nodes
  | commit => exact hi.purge_nodes
  | @call ctx c _ _ ts hp ok =>
    have hk : c.session? = none := hb
    cases c with
    | initializeConfig a f w m => exact initializeConfigHandler_nodes ok
    | registerNode a n u cap g r =>
      obtain ⟨_, hr⟩ := registerNodeHandler_effect ok
      exact hr.nodesKept
    | updateConfig a f w => exact updateConfigHandler_nodes ok
    | setPaused a p => exact setPausedHandler_nodes ok
    | withdrawFees a n => exact withdrawFeesHandler_nodes ok
    | updateNodeMeta a cap g b => exact updateNodeMetaHandler_nodes ok
    | _ => simp [Call.session?] at hk

/-- The units a payout adds to its node. -/
def Session.unitsPaid (s : Session) (mv : SessionMove) : Nat :=
  (s.work mv).elim 0 Prod.fst

/-- What a step adds to the trackers of a node. -/
structure Adds (l l' : Ledger) (node : Pubkey) (units settled : Nat) : Prop where
  kept : ∀ n, (l node).data = .node n → ∃ n', (l' node).data = .node n' ∧
    n'.totalUnits.toNat = n.totalUnits.toNat + units ∧
    n'.totalSettled.toNat = n.totalSettled.toNat + settled ∧ n.reputation ≤ n'.reputation
  born : (∀ n, (l node).data ≠ .node n) → units = 0 ∧ settled = 0 ∧
    ∀ n', (l' node).data = .node n' → n'.totalUnits = 0 ∧ n'.totalSettled = 0

theorem NodesKept.adds {l l' : Ledger} (h : NodesKept l l') (node : Pubkey) :
    Adds l l' node 0 0 := by
  constructor
  · intro n hn
    obtain ⟨n', hn', same⟩ := h.kept node n hn
    exact ⟨n', hn', by rw [same.totalUnits]; rfl, by rw [same.totalSettled]; rfl,
      by rw [same.reputation]; exact UInt32.le_refl _⟩
  · intro habsent
    refine ⟨rfl, rfl, fun n' hn' => ?_⟩
    obtain ⟨hunits, hsettled, _⟩ := h.born node habsent n' hn'
    exact ⟨hunits, hsettled⟩

theorem payout_of_no_work {s : Session} {mv : SessionMove} (h : s.work mv = none) :
    mv.payout = 0 := by
  cases mv <;> simp_all [Session.work, Channel.Move.payout]

theorem provider_le_earnings (ts : List Transfer) : received .provider ts ≤ earnings ts :=
  Nat.le_add_right _ _

/-- No instruction on a session makes a node of another account. -/
theorem SessionCall.no_node {rt : Runtime} {ctx : TxContext} {c : Call rt} {l l' : Ledger}
    {ts : List Transfer} {k : Pubkey} {s s' : Session} {mv : SessionMove}
    (h : SessionCall rt ctx c l l' ts k s s' mv) {x : Pubkey} (hx : ∀ n, (l x).data ≠ .node n)
    (n : Node) : (l' x).data ≠ .node n := by
  have hr := h.recorded
  by_cases hxk : x = k
  · subst hxk
    simp [hr.after]
  by_cases ht : ∃ t, (l x).data = .token t
  · obtain ⟨t, ht⟩ := ht
    cases hv : c.vaultToken? with
    | none => simp [(h.inLamports hv).2.tokens x t ht]
    | some v =>
      obtain ⟨t', ht', _⟩ := (h.inTokens v hv).2.tokens x t ht
      simp [ht']
  · rw [hr.rest x hxk hx fun t he => ht ⟨t, he⟩]
    exact hx n

/-- What an instruction on a session adds to the trackers of each node. -/
theorem SessionCall.earned_on {rt : Runtime} {ctx : TxContext} {c : Call rt} {l l' : Ledger}
    {ts : List Transfer} {k x : Pubkey} {s s' : Session} {mv : SessionMove}
    (h : SessionCall rt ctx c l l' ts k s s' mv) {n : Node} (hn : (l x).data = .node n) :
    ∃ n', (l' x).data = .node n' ∧
      n.Earned n' (if s.node = x then (s.work mv).getD (0, 0) else (0, 0))
        (if s.node = x then received .provider ts else 0) := by
  have hr := h.recorded
  have idle : n.Earned n (0, 0) 0 := by
    refine ⟨rfl, rfl, UInt32.toNat_inj.mp ?_, rfl⟩
    have := n.reputation.toNat_lt
    rw [saturatingAdd_toNat]
    simp only [UInt32.toNat_zero]
    omega
  by_cases hnode : s.node = x
  · subst hnode
    cases hw : s.work mv with
    | none =>
      have hzero : received .provider ts = 0 := by
        have hle := provider_le_earnings ts
        have hpaid := h.paid
        rw [payout_of_no_work hw] at hpaid
        omega
      exact ⟨n, hr.idle _ n hn (.inl hw), by simpa [hzero] using idle⟩
    | some w =>
      obtain ⟨n₀, n', hn₀, hn', he⟩ := hr.worked w hw
      obtain rfl : n₀ = n := by simpa [hn] using hn₀.symm
      exact ⟨n', hn', by simpa using he⟩
  · exact ⟨n, hr.idle x n hn (.inr (Ne.symm hnode)), by simpa [hnode] using idle⟩

/-- An instruction on a session adds its work and its earnings to the node of
the session. -/
theorem SessionCall.adds {rt : Runtime} {ctx : TxContext} {c : Call rt} {l l' : Ledger}
    {ts : List Transfer} {k : Pubkey} {s s' : Session} {mv : SessionMove}
    (h : SessionCall rt ctx c l l' ts k s s' mv) (hi : Inv rt l) (node : Pubkey) :
    Adds l l' node (if s.node = node then s.unitsPaid mv else 0)
      (if s.node = node then received .provider ts else 0) := by
  obtain ⟨m, hm, _⟩ := (hi.session k s h.recorded.before).node
  constructor
  · intro n hn
    obtain ⟨n', hn', he⟩ := h.earned_on hn
    refine ⟨n', hn', ?_, he.settled, ?_⟩
    · rw [he.units, Session.unitsPaid]
      split
      · cases s.work mv <;> rfl
      · rfl
    · rw [UInt32.le_iff_toNat_le, he.reputation, saturatingAdd_toNat]
      have := n.reputation.toNat_lt
      omega
  · intro habsent
    have hnode : s.node ≠ node := by
      intro he
      subst he
      exact habsent m hm
    exact ⟨if_neg hnode, if_neg hnode, fun n' hn' => absurd hn' (h.no_node habsent n')⟩

/-- Every session ever opened: its account, and the events that named it, the
opening first. -/
def sessions {rt : Runtime} (tr : History rt) : List (Pubkey × History rt) :=
  episodes Event.about Event.begins tr

/-- The record of a session as its last event left it. -/
def lastRecord {rt : Runtime} (k : Pubkey) (events : History rt) : Option Session :=
  events.getLast?.bind fun x =>
    match (x.after k).data with
    | .session s => some s
    | _ => none

/-- The session was opened on this node. -/
def onNode {rt : Runtime} (node : Pubkey) (e : Pubkey × History rt) : Bool :=
  (lastRecord e.1 e.2).any fun s => s.node = node

/-- The sum of a quantity over all sessions ever opened on a node. -/
def nodeTotal {rt : Runtime} (node : Pubkey) (f : Pubkey → History rt → Nat) (tr : History rt) :
    Nat :=
  (((sessions tr).filter (onNode node)).map fun e => f e.1 e.2).sum

section
variable {rt : Runtime} {node k : Pubkey} {f : Pubkey → History rt → Nat} {tr : History rt}
  {x : Event rt} {s s' : Session}

theorem lastRecord_snoc (hs : (x.after k).data = .session s) (events : History rt) :
    lastRecord k (events ++ [x]) = some s := by
  simp [lastRecord, hs]

theorem onNode_of_record {events : History rt} (h : lastRecord k events = some s) :
    onNode node (k, events) = decide (s.node = node) := by
  simp [onNode, h]

theorem nodeTotal_idle (hb : x.about = none) :
    nodeTotal node f (tr ++ [x]) = nodeTotal node f tr := by
  simp only [nodeTotal, sessions, tally_filter]
  exact tally_snoc_other hb tr

theorem nodeTotal_opening (hb : x.about = some k) (ho : x.begins = true)
    (hs : (x.after k).data = .session s) : nodeTotal node f (tr ++ [x]) =
      nodeTotal node f tr + if s.node = node then f k [x] else 0 := by
  have hrec : lastRecord k [x] = some s := lastRecord_snoc hs []
  simp only [nodeTotal, sessions, tally_filter]
  rw [tally_snoc_opening hb ho, onNode_of_record hrec]
  simp

theorem nodeTotal_call (node : Pubkey) (f : Pubkey → History rt → Nat) {events : History rt}
    (hb : x.about = some k) (ho : x.begins = false)
    (hc : current Event.about Event.begins k tr = some events)
    (hs : lastRecord k events = some s) (hs' : (x.after k).data = .session s')
    (hnode : s'.node = s.node) {d : Nat} (hd : f k (events ++ [x]) = f k events + d) :
    nodeTotal node f (tr ++ [x]) = nodeTotal node f tr + if s.node = node then d else 0 := by
  have hsum := tally_snoc (f := fun k c => if onNode node (k, c) then f k c else 0) hb ho hc
  rw [onNode_of_record hs, onNode_of_record (lastRecord_snoc hs' events), hnode, hd] at hsum
  simp only [nodeTotal, sessions, tally_filter]
  by_cases hn : s.node = node
  · simp only [hn, decide_true, if_true] at hsum ⊢
    omega
  · simpa [hn] using hsum

end

/-- The record of a session on the chain is that of its newest episode. -/
theorem run_current {rt : Runtime} {start l : Ledger} {tr : History rt} (genesis : Genesis start)
    (run : Run (Step rt) start tr l) (k : Pubkey) (s : Session) (hs : (l k).data = .session s) :
    ∃ events, current Event.about Event.begins k tr = some events ∧
      lastRecord k events = some s := by
  revert s
  refine run.history (fun tr l => ∀ s, (l k).data = .session s → ∃ events,
    current Event.about Event.begins k tr = some events ∧ lastRecord k events = some s)
    (fun s hs => absurd hs genesis.no_session) ?_
  intro tr l label l' _ ih hstep s hs
  have others : Event.about ⟨l, label, l'⟩ ≠ some k → ∃ events,
      current Event.about Event.begins k (tr ++ [⟨l, label, l'⟩]) = some events ∧
        lastRecord k events = some s := by
    intro hb
    obtain ⟨hs₀, _⟩ := hstep.frame.session_back hb hs
    obtain ⟨events, hc, hrec⟩ := ih s hs₀
    exact ⟨events, (current_snoc_other hb tr).trans hc, hrec⟩
  cases hstep.kind with
  | idle hb => exact others (by simp [hb])
  | opening j s₁ hb ho ht hopened =>
    by_cases hj : j = k
    · subst hj
      exact ⟨_, current_snoc_opening hb ho tr, lastRecord_snoc hs []⟩
    · exact others (by simpa [hb] using hj)
  | call j ctx c ts s₀ s₁ mv hb ho ht hm hc =>
    by_cases hj : j = k
    · subst hj
      obtain ⟨events, hcur, hrec⟩ := ih s₀ hc.recorded.before
      exact ⟨events ++ [_], by rw [current_snoc hb ho, hcur]; rfl, lastRecord_snoc hs events⟩
    · exact others (by simpa [hb] using hj)

end SolMesh
