import SolMesh.Proofs.Frame
import SolMesh.Proofs.Progress

namespace SolMesh
open Outcome Words

/-- Two chains that agree on what an instruction on session `k` checks of the
accounts it names. What is on the accounts may differ. -/
structure SameParties (l m : Ledger) (k : Pubkey) (s : Session) : Prop where
  config : ∀ x cfg, (l x).data = .config cfg → (m x).data = .config cfg
  node : ∀ x n, (l x).data = .node n → ∃ n', (m x).data = .node n' ∧ n.SameIdentity n'
  session : (m k).data = .session s
  token : ∀ x t, (l x).data = .token t → ∃ t', (m x).data = .token t' ∧ t'.mint = t.mint ∧
    t'.owner = t.owner

/-- The trackers of the session's node can take the work and the earnings. -/
def TrackerRoom (m : Ledger) (s : Session) (work : Option (Nat × UInt32))
    (ts : List Transfer) : Prop :=
  ∀ w n, work = some w → (m s.node).data = .node n →
    n.totalUnits.toNat + w.1 < 2 ^ 64 ∧
      n.totalSettled.toNat + received .provider ts < 2 ^ 64

/-- Account `v`, by what it holds, covers the payouts and is no receiver of any,
and the receivers can take them. -/
structure PayoutRoom (held : Pubkey → Nat) (v : Pubkey) (ts : List Transfer) : Prop where
  apart : ∀ t ∈ ts, t.amount ≠ 0 → t.dest ≠ v
  cover : amountOf ts ≤ held v
  room : ∀ x, x ≠ v → held x + credit x ts < 2 ^ 64

section
variable {rt : Runtime} {l m : Ledger} {k : Pubkey} {s : Session}

theorem PartiesLoaded.carry {config node provider consumer asset mplCoreProgram : Pubkey}
    {cfg : Config} {n : Node} (h : PartiesLoaded rt l config node k provider consumer asset
      mplCoreProgram cfg n s) (same : SameParties l m k s) :
    ∃ n', (m node).data = .node n' ∧
      PartiesLoaded rt m config node k provider consumer asset mplCoreProgram cfg n' s := by
  obtain ⟨n', hn', hi⟩ := same.node node n h.nodeData
  refine ⟨n', hn', same.config _ _ h.configData, h.configSeeds, hn', ?_, same.session, h.hasNode,
    h.hasProvider, h.hasConsumer, h.sessionSeeds, h.hasAsset.trans hi.asset.symm, h.hasCore⟩
  rw [hi.asset, hi.bump]
  exact h.nodeSeeds

theorem SessionLoaded.carry {config : Pubkey} {cfg : Config}
    (h : SessionLoaded rt l config k cfg s) (same : SameParties l m k s) :
    SessionLoaded rt m config k cfg s :=
  ⟨same.config _ _ h.configData, h.configSeeds, same.session, h.sessionSeeds⟩

theorem SameParties.owned (same : SameParties l m k s) {x owner : Pubkey}
    (h : ∃ t, (l x).data = .token t ∧ t.owner = owner) :
    ∃ t, (m x).data = .token t ∧ t.owner = owner := by
  obtain ⟨t, ht, ho⟩ := h
  obtain ⟨t', ht', _, ho'⟩ := same.token x t ht
  exact ⟨t', ht', ho'.trans ho⟩

theorem SameParties.isToken (same : SameParties l m k s) {x : Pubkey}
    (h : ∃ t, (l x).data = .token t) : ∃ t, (m x).data = .token t := by
  obtain ⟨t, ht⟩ := h
  obtain ⟨t', ht', _⟩ := same.token x t ht
  exact ⟨t', ht'⟩

theorem TokensLoaded.carry {a : PayoutSpl rt} {cfg : Config} (h : TokensLoaded rt l a cfg)
    (same : SameParties l m k s) : TokensLoaded rt m a cfg :=
  ⟨h.authority, same.isToken h.vault, same.owned h.provider, same.owned h.consumer,
    same.owned h.fee⟩

theorem transferFromVault_sign {l' : Ledger}
    {vaultToken dest vaultAuthority sessionKey : Pubkey} {vaultBump : UInt8} {amount : UInt64}
    (h : transferFromVault rt l vaultToken dest vaultAuthority sessionKey vaultBump amount =
      .ok l') (hz : amount ≠ 0) :
    rt.createProgramAddress (.vault sessionKey) vaultBump = some vaultAuthority := by
  simp only [transferFromVault, if_neg hz, bind_ok, require_ok] at h
  exact h.choose_spec.1

/-- Payouts that went through had all the rights they need. -/
theorem TokensPaid.rights {authority : Pubkey} {bump : UInt8} {l' : Ledger} {ts : List Transfer}
    (h : TokensPaid rt authority k bump l ts l') : VaultRights rt l authority k bump ts := by
  refine ⟨?_, h.moves.rights⟩
  induction h with
  | nil => simp
  | cons first _ ih =>
    intro t ht hz
    rcases List.mem_cons.mp ht with rfl | ht
    · exact transferFromVault_sign first hz
    · exact ih t ht hz

theorem VaultRights.carry {authority : Pubkey} {bump : UInt8} {ts : List Transfer}
    (h : VaultRights rt l authority k bump ts) (same : SameParties l m k s) :
    VaultRights rt m authority k bump ts := by
  refine ⟨h.sign, fun t ht hz => ?_⟩
  obtain ⟨a, b, ha, hb, hm, ho⟩ := h.accounts t ht hz
  obtain ⟨a', ha', hma, hoa⟩ := same.token _ a ha
  obtain ⟨b', hb', hmb, _⟩ := same.token _ b hb
  exact ⟨a', b', ha', hb', by rw [hma, hm, hmb], hoa.trans ho⟩

theorem PayoutRoom.lamports {ts : List Transfer}
    (h : PayoutRoom (fun x => (m x).lamports.toNat) k ts) (source : ∀ t ∈ ts, t.source = k) :
    ∃ mid, LamportsPaid m ts mid :=
  LamportsPaid.exists source h.apart h.cover h.room

theorem PayoutRoom.tokens {authority v : Pubkey} {bump : UInt8} {ts : List Transfer}
    (h : PayoutRoom m.tokens v ts) (rights : VaultRights rt m authority k bump ts)
    (source : ∀ t ∈ ts, t.source = v) : ∃ mid, TokensPaid rt authority k bump m ts mid := by
  refine TokensPaid.exists rights source h.apart (fun a ha => ?_) fun x b hx hb => ?_
  · have := h.cover
    rwa [Ledger.tokens_of_data ha] at this
  · have := h.room x hx
    rwa [Ledger.tokens_of_data hb] at this

/-- The amounts of a payout depend on the node only by the room of its trackers. -/
theorem Amounts.carry {cfg : Config} {n : Node} {owed work : UInt64} {isCheckpoint : Bool}
    {pa fee rem units settled : UInt64}
    (h : Amounts cfg n s owed work isCheckpoint pa fee rem units settled) (n' : Node)
    (hunits : n'.totalUnits.toNat + work.toNat < 2 ^ 64)
    (hsettled : n'.totalSettled.toNat + pa.toNat < 2 ^ 64) :
    ∃ units' settled', Amounts cfg n' s owed work isCheckpoint pa fee rem units' settled' := by
  obtain ⟨units', hu⟩ := checkedAdd_exists hunits
  obtain ⟨settled', hs⟩ := checkedAdd_exists hsettled
  exact ⟨units', settled', h.payout, h.refund, hu, hs⟩

theorem source_settlementTransfers (k src toProvider toFee toConsumer : Pubkey)
    (pa fee rem : UInt64) :
    ∀ t ∈ settlementTransfers k src toProvider toFee toConsumer pa fee rem, t.source = src := by
  simp [settlementTransfers]

@[simp] theorem writeRecords_session (l : Ledger) (node : Pubkey) (n : Node) (k : Pubkey)
    (s : Session) : (writeRecords l node n k s k).data = .session s :=
  Ledger.setData_self _ _ _

end

section
variable {rt : Runtime} {ctx : TxContext} {l l' m : Ledger} {s : Session} {ts : List Transfer}

theorem applyState_rerun {a : Settle rt} {u : StateUpdate} {isCheckpoint : Bool}
    (h : applyState rt ctx l a u isCheckpoint = .ok (l', ts))
    (hs : (l a.session).data = .session s) (same : SameParties l m a.session s)
    (trackers : ∀ n, (m s.node).data = .node n →
      n.totalUnits.toNat + (u.unitsConsumed.toNat - s.pendingUnits.toNat) < 2 ^ 64 ∧
        n.totalSettled.toNat + received .provider ts < 2 ^ 64)
    (room : PayoutRoom (fun x => (m x).lamports.toNat) a.session ts) :
    ∃ m', applyState rt ctx m a u isCheckpoint = .ok (m', ts) ∧
      (m' a.session).data = (l' a.session).data := by
  obtain ⟨cfg, n, s₁, pa, fee, rem, units, settled, mid, hload, hstatus, hmint, hnonce, hverify,
    ha, rfl, _, rfl⟩ := applyState_ok.mp h
  obtain ⟨hp, hfee, hsysvar⟩ := Settle.load_ok.mp hload
  obtain rfl : s₁ = s := by simpa [hp.sessionData] using hs
  obtain ⟨n', hn', hp'⟩ := hp.carry same
  obtain ⟨hunits, hsettled⟩ := trackers n' (hp.hasNode ▸ hn')
  obtain ⟨units', settled', ha'⟩ := ha.carry n' (by rwa [saturatingSub_toNat])
    (by simpa using hsettled)
  obtain ⟨mid', hpaid⟩ := room.lamports (source_settlementTransfers _ _ _ _ _ _ _ _)
  exact ⟨_, applyState_ok.mpr ⟨cfg, n', s₁, pa, fee, rem, units', settled', mid',
    Settle.load_ok.mpr ⟨hp', hfee, hsysvar⟩, hstatus, hmint, hnonce, hverify, ha', rfl, hpaid,
    rfl⟩, by simp⟩

theorem applyStateSpl_rerun {a : SettleSpl rt} {u : StateUpdate} {isCheckpoint : Bool}
    (h : applyStateSpl rt ctx l a u isCheckpoint = .ok (l', ts))
    (hs : (l a.session).data = .session s) (same : SameParties l m a.session s)
    (trackers : ∀ n, (m s.node).data = .node n →
      n.totalUnits.toNat + (u.unitsConsumed.toNat - s.pendingUnits.toNat) < 2 ^ 64 ∧
        n.totalSettled.toNat + received .provider ts < 2 ^ 64)
    (room : PayoutRoom m.tokens a.vaultToken ts) :
    ∃ m', applyStateSpl rt ctx m a u isCheckpoint = .ok (m', ts) ∧
      (m' a.session).data = (l' a.session).data := by
  obtain ⟨cfg, n, s₁, pa, fee, rem, units, settled, mid, hload, hstatus, hmint, hnonce, hverify,
    ha, rfl, hpaid, rfl⟩ := applyStateSpl_ok.mp h
  obtain ⟨hp, htokens, hsysvar⟩ := SettleSpl.load_ok.mp hload
  obtain rfl : s₁ = s := by simpa [hp.sessionData] using hs
  obtain ⟨n', hn', hp'⟩ := hp.carry same
  obtain ⟨hunits, hsettled⟩ := trackers n' (hp.hasNode ▸ hn')
  obtain ⟨units', settled', ha'⟩ := ha.carry n' (by rwa [saturatingSub_toNat])
    (by simpa using hsettled)
  obtain ⟨mid', hpaid'⟩ := room.tokens (hpaid.rights.carry same)
    (source_settlementTransfers _ _ _ _ _ _ _ _)
  exact ⟨_, applyStateSpl_ok.mpr ⟨cfg, n', s₁, pa, fee, rem, units', settled', mid',
    SettleSpl.load_ok.mpr ⟨hp', htokens.carry same, hsysvar⟩, hstatus, hmint, hnonce, hverify, ha',
    rfl, hpaid', rfl⟩, by simp⟩

theorem finalizeHandler_rerun {a : FinalizeClose rt}
    (h : finalizeHandler rt ctx l a = .ok (l', ts)) (hs : (l a.session).data = .session s)
    (same : SameParties l m a.session s)
    (trackers : ∀ n, (m s.node).data = .node n →
      n.totalUnits.toNat + s.pendingUnits.toNat < 2 ^ 64 ∧
        n.totalSettled.toNat + received .provider ts < 2 ^ 64)
    (room : PayoutRoom (fun x => (m x).lamports.toNat) a.session ts) :
    ∃ m', finalizeHandler rt ctx m a = .ok (m', ts) ∧
      (m' a.session).data = (l' a.session).data := by
  obtain ⟨cfg, n, s₁, pa, fee, rem, units, settled, mid, hload, hstatus, late, ha, rfl, _, rfl⟩ :=
    finalizeHandler_ok.mp h
  obtain ⟨hp, hfee⟩ := FinalizeClose.load_ok.mp hload
  obtain rfl : s₁ = s := by simpa [hp.sessionData] using hs
  obtain ⟨n', hn', hp'⟩ := hp.carry same
  obtain ⟨hunits, hsettled⟩ := trackers n' (hp.hasNode ▸ hn')
  obtain ⟨units', settled', ha'⟩ := ha.carry n' hunits (by simpa using hsettled)
  obtain ⟨mid', hpaid⟩ := room.lamports (source_settlementTransfers _ _ _ _ _ _ _ _)
  exact ⟨_, finalizeHandler_ok.mpr ⟨cfg, n', s₁, pa, fee, rem, units', settled', mid',
    FinalizeClose.load_ok.mpr ⟨hp', hfee⟩, hstatus, late, ha', rfl, hpaid, rfl⟩, by simp⟩

theorem finalizeCloseSplHandler_rerun {a : FinalizeCloseSpl rt}
    (h : finalizeCloseSplHandler rt ctx l a = .ok (l', ts))
    (hs : (l a.session).data = .session s) (same : SameParties l m a.session s)
    (trackers : ∀ n, (m s.node).data = .node n →
      n.totalUnits.toNat + s.pendingUnits.toNat < 2 ^ 64 ∧
        n.totalSettled.toNat + received .provider ts < 2 ^ 64)
    (room : PayoutRoom m.tokens a.vaultToken ts) :
    ∃ m', finalizeCloseSplHandler rt ctx m a = .ok (m', ts) ∧
      (m' a.session).data = (l' a.session).data := by
  obtain ⟨cfg, n, s₁, pa, fee, rem, units, settled, mid, hload, hstatus, hmint, late, ha, rfl,
    hpaid, rfl⟩ := finalizeCloseSplHandler_ok.mp h
  obtain ⟨hp, htokens⟩ := PayoutSpl.load_ok.mp hload
  obtain rfl : s₁ = s := by simpa [hp.sessionData] using hs
  obtain ⟨n', hn', hp'⟩ := hp.carry same
  obtain ⟨hunits, hsettled⟩ := trackers n' (hp.hasNode ▸ hn')
  obtain ⟨units', settled', ha'⟩ := ha.carry n' hunits (by simpa using hsettled)
  obtain ⟨mid', hpaid'⟩ := room.tokens (hpaid.rights.carry same)
    (source_settlementTransfers _ _ _ _ _ _ _ _)
  exact ⟨_, finalizeCloseSplHandler_ok.mpr ⟨cfg, n', s₁, pa, fee, rem, units', settled', mid',
    PayoutSpl.load_ok.mpr ⟨hp', htokens.carry same⟩, hstatus, hmint, late, ha', rfl, hpaid', rfl⟩,
    by simp⟩

theorem refundConsumer_rerun {k consumer : Pubkey} {status : SessionStatus}
    (h : refundConsumer l s k consumer status = .ok (l', ts))
    (room : PayoutRoom (fun x => (m x).lamports.toNat) k ts) :
    ∃ m', refundConsumer m s k consumer status = .ok (m', ts) ∧ (m' k).data = (l' k).data := by
  obtain ⟨rem, mid, hrem, rfl, _, rfl⟩ := refundConsumer_ok.mp h
  obtain ⟨mid', hpaid⟩ := room.lamports (by simp)
  exact ⟨_, refundConsumer_ok.mpr ⟨rem, mid', hrem, rfl, hpaid, rfl⟩, by simp⟩

theorem refundConsumerSpl_rerun {a : LifecycleSpl rt} {status : SessionStatus}
    (h : refundConsumerSpl rt l a s status = .ok (l', ts))
    (same : SameParties l m a.session s) (room : PayoutRoom m.tokens a.vaultToken ts) :
    ∃ m', refundConsumerSpl rt m a s status = .ok (m', ts) ∧
      (m' a.session).data = (l' a.session).data := by
  obtain ⟨rem, mid, hrem, rfl, hpaid, rfl⟩ := refundConsumerSpl_ok.mp h
  obtain ⟨mid', hpaid'⟩ := room.tokens (hpaid.rights.carry same) (by simp)
  exact ⟨_, refundConsumerSpl_ok.mpr ⟨rem, mid', hrem, rfl, hpaid', rfl⟩, by simp⟩

theorem LifecycleSpl.carry {a : LifecycleSpl rt} {s₁ : Session} (h : a.load rt l = .ok s₁)
    (hs : (l a.session).data = .session s) (same : SameParties l m a.session s) :
    s₁ = s ∧ a.load rt m = .ok s := by
  obtain ⟨⟨cfg, hl⟩, hc, hfind, hvault, hdest⟩ := LifecycleSpl.load_ok.mp h
  obtain rfl : s₁ = s := by simpa [hl.sessionData] using hs
  exact ⟨rfl, LifecycleSpl.load_ok.mpr ⟨⟨cfg, hl.carry same⟩, hc, hfind, same.isToken hvault,
    same.owned hdest⟩⟩

theorem UnilateralClose.carry {a : UnilateralClose rt} {cfg : Config} {s₁ : Session}
    (h : a.load rt l = .ok (cfg, s₁)) (hs : (l a.session).data = .session s)
    (same : SameParties l m a.session s) : s₁ = s ∧ a.load rt m = .ok (cfg, s) := by
  obtain ⟨hl, hrest⟩ := UnilateralClose.load_ok.mp h
  obtain rfl : s₁ = s := by simpa [hl.sessionData] using hs
  exact ⟨rfl, UnilateralClose.load_ok.mpr ⟨hl.carry same, hrest⟩⟩

end

/-- An instruction that went through on one chain goes through on another that
agrees on its parties and has room for what it pays, and pays and records the
same there. -/
theorem SessionCall.rerun {rt : Runtime} {ctx : TxContext} {c : Call rt} {l l' m : Ledger}
    {ts : List Transfer} {k : Pubkey} {s s' : Session} {mv : SessionMove}
    (hc : SessionCall rt ctx c l l' ts k s s' mv) (h : c.exec ctx l = .ok (l', ts))
    (hk : c.session? = some k) (ho : c.opens = false) (same : SameParties l m k s)
    (trackers : TrackerRoom m s (s.work mv) ts)
    (lamports : c.vaultToken? = none → PayoutRoom (fun x => (m x).lamports.toNat) k ts)
    (tokens : ∀ v, c.vaultToken? = some v → PayoutRoom m.tokens v ts) :
    ∃ m', c.exec ctx m = .ok (m', ts) ∧ (m' k).data = .session s' := by
  have hs := hc.recorded.before
  have hmove := hc.move
  rw [← hc.recorded.after]
  cases c with
  | openSession | openSessionSpl => simp [Call.opens] at ho
  | initializeConfig | registerNode | updateConfig | setPaused | withdrawFees
  | updateNodeMeta => simp [Call.session?] at hk
  | checkpointSettle a u | settleSession a u =>
    cases hk
    cases hmove
    exact applyState_rerun h hs same (fun n hn => trackers _ n rfl hn) (lamports rfl)
  | checkpointSettleSpl a u | settleSessionSpl a u =>
    cases hk
    cases hmove
    exact applyStateSpl_rerun h hs same (fun n hn => trackers _ n rfl hn) (tokens _ rfl)
  | finalizeClose a =>
    cases hk
    cases hmove
    exact finalizeHandler_rerun h hs same (fun n hn => trackers _ n rfl hn) (lamports rfl)
  | finalizeCloseSpl a =>
    cases hk
    cases hmove
    exact finalizeCloseSplHandler_rerun h hs same (fun n hn => trackers _ n rfl hn)
      (tokens _ rfl)
  | cancelSession a =>
    cases hk
    obtain ⟨s₁, hload, hstatus, unused, h⟩ := cancelHandler_ok.mp h
    obtain ⟨⟨cfg, hl⟩, hcons⟩ := CancelSession.load_ok.mp hload
    obtain rfl : s₁ = s := by simpa [hl.sessionData] using hs
    obtain ⟨m', hm', hafter⟩ := refundConsumer_rerun h (lamports rfl)
    exact ⟨m', cancelHandler_ok.mpr ⟨s₁, CancelSession.load_ok.mpr ⟨⟨cfg, hl.carry same⟩, hcons⟩,
      hstatus, unused, hm'⟩, hafter⟩
  | expireSession a =>
    cases hk
    obtain ⟨s₁, hload, hstatus, late, h⟩ := expireHandler_ok.mp h
    obtain ⟨⟨cfg, hl⟩, hcons⟩ := ExpireSession.load_ok.mp hload
    obtain rfl : s₁ = s := by simpa [hl.sessionData] using hs
    obtain ⟨m', hm', hafter⟩ := refundConsumer_rerun h (lamports rfl)
    exact ⟨m', expireHandler_ok.mpr ⟨s₁, ExpireSession.load_ok.mpr ⟨⟨cfg, hl.carry same⟩, hcons⟩,
      hstatus, late, hm'⟩, hafter⟩
  | cancelSessionSpl a =>
    cases hk
    obtain ⟨s₁, hload, hstatus, hmint, unused, hsigner, h⟩ := cancelSessionSplHandler_ok.mp h
    obtain ⟨rfl, hload'⟩ := LifecycleSpl.carry hload hs same
    obtain ⟨m', hm', hafter⟩ := refundConsumerSpl_rerun h same (tokens _ rfl)
    exact ⟨m', cancelSessionSplHandler_ok.mpr ⟨s₁, hload', hstatus, hmint, unused, hsigner, hm'⟩,
      hafter⟩
  | expireSessionSpl a =>
    cases hk
    obtain ⟨s₁, hload, hstatus, hmint, late, h⟩ := expireSessionSplHandler_ok.mp h
    obtain ⟨rfl, hload'⟩ := LifecycleSpl.carry hload hs same
    obtain ⟨m', hm', hafter⟩ := refundConsumerSpl_rerun h same (tokens _ rfl)
    exact ⟨m', expireSessionSplHandler_ok.mpr ⟨s₁, hload', hstatus, hmint, late, hm'⟩, hafter⟩
  | initiateUnilateralClose a u =>
    cases hk
    obtain ⟨cfg, s₁, deadline, hload, hcaller, hstatus, hnonce, hverify, hdeadline, rfl, rfl⟩ :=
      initiateHandler_ok.mp h
    obtain ⟨rfl, hload'⟩ := UnilateralClose.carry hload hs same
    exact ⟨_, initiateHandler_ok.mpr ⟨cfg, s₁, deadline, hload', hcaller, hstatus, hnonce, hverify,
      hdeadline, rfl, rfl⟩, by simp⟩
  | challenge a u =>
    cases hk
    obtain ⟨cfg, s₁, hload, hstatus, early, hnonce, hverify, rfl, rfl⟩ := challengeHandler_ok.mp h
    obtain ⟨rfl, hload'⟩ := UnilateralClose.carry hload hs same
    exact ⟨_, challengeHandler_ok.mpr ⟨cfg, s₁, hload', hstatus, early, hnonce, hverify, rfl, rfl⟩,
      by simp⟩

end SolMesh
