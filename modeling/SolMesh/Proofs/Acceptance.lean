import SolMesh.Proofs.ExitAvailability
import SolMesh.Proofs.SignatureCompleteness

namespace SolMesh
open Outcome Words Runs

/-- A settlement is called with the session's own accounts, and none of the
receivers can overflow. -/
structure Settle.Own {rt : Runtime} (l : Ledger) (k : Pubkey) (s : Session) (cfg : Config)
    (a : Settle rt) : Prop where
  parties : OwnParties l k s cfg a.config a.node a.session a.provider a.consumer a.asset
    a.mplCoreProgram
  feeVault : a.feeVault = cfg.feeVault
  instructionsSysvar : a.instructionsSysvar = ixSysvarId
  room : ∀ r, (l (s.payee cfg.feeVault r)).lamports.toNat + s.unsettled < 2 ^ 64

/-- What the session and the transaction have to say to an update that is to
be settled in lamports. -/
structure Settleable (ctx : TxContext) (k : Pubkey) (s : Session) (u : StateUpdate) : Prop where
  status : s.status = .open
  mint : s.mint = none
  newer : s.lastNonce < u.nonce
  domain : u.domain = stateDomain
  session : u.session = k
  covered : u.owedToProvider.toNat ≤ s.deposited.toNat
  keeps : s.settledToProvider.toNat ≤ u.owedToProvider.toNat
  provider : CarriesSignature ctx s.provider u.toMessageBytes
  consumer : CarriesSignature ctx s.consumer u.toMessageBytes

def UnitsFit (n : Node) (s : Session) (u : StateUpdate) : Prop :=
  n.totalUnits.toNat + (u.unitsConsumed.toNat - s.pendingUnits.toNat) < 2 ^ 64

def EarningsFit (cfg : Config) (n : Node) (s : Session) (u : StateUpdate) : Prop :=
  n.totalSettled.toNat +
    netOf (u.owedToProvider.toNat - s.settledToProvider.toNat) cfg.feeBps < 2 ^ 64

/-- The reasons for which a settlement over own accounts is refused. -/
inductive SettlementRefused (ctx : TxContext) (k : Pubkey) (cfg : Config) (n : Node) (s : Session)
    (u : StateUpdate) : Failure → Prop
  | notOpen (h : s.status ≠ .open) : SettlementRefused ctx k cfg n s u (.custom .sessionNotOpen)
  | inTokens (h : s.mint ≠ none) : SettlementRefused ctx k cfg n s u (.custom .splUnsupported)
  | stale (h : ¬ s.lastNonce < u.nonce) : SettlementRefused ctx k cfg n s u (.custom .staleNonce)
  | domain (h : u.domain ≠ stateDomain) :
      SettlementRefused ctx k cfg n s u (.custom .domainMismatch)
  | session (h : u.session ≠ k) : SettlementRefused ctx k cfg n s u (.custom .signerMismatch)
  | uncovered (h : s.deposited.toNat < u.owedToProvider.toNat) :
      SettlementRefused ctx k cfg n s u (.custom .owedExceedsDeposit)
  | decreased (h : u.owedToProvider.toNat < s.settledToProvider.toNat) :
      SettlementRefused ctx k cfg n s u (.custom .owedDecreased)
  | unsigned (h : ¬ CarriesSignature ctx s.provider u.toMessageBytes ∨
        ¬ CarriesSignature ctx s.consumer u.toMessageBytes) :
      SettlementRefused ctx k cfg n s u (.custom .ed25519IxMissing)
  | trackers (settleable : Settleable ctx k s u) (h : ¬ UnitsFit n s u ∨ ¬ EarningsFit cfg n s u) :
      SettlementRefused ctx k cfg n s u (.custom .mathOverflow)

theorem verifyCosignedState_error {ctx : TxContext} {s : Session} {k : Pubkey} {u : StateUpdate}
    {cfg : Config} {n : Node} {e : Failure} (h : verifyCosignedState ctx s k u = .error e) :
    SettlementRefused ctx k cfg n s u e := by
  simp only [verifyCosignedState, bind_error, require_error, require_ok,
    StateUpdate.hasValidDomain, decide_eq_true_eq, UInt64.le_iff_toNat_le] at h
  rcases h with ⟨hd, rfl⟩ | ⟨_, hd, ⟨hd', rfl⟩ | ⟨_, _, ⟨hk, rfl⟩ | ⟨_, _, ⟨hle, rfl⟩ | ⟨_, _,
    ⟨hge, rfl⟩ | ⟨_, _, hp | ⟨_, _, hc⟩⟩⟩⟩⟩⟩
  · exact .domain hd
  · exact .domain hd'
  · exact .session hk
  · exact .uncovered (by omega)
  · exact .decreased (by omega)
  · obtain ⟨rfl, hmissing⟩ := verifyEd25519Signature_error hp
    exact .unsigned (.inl hmissing)
  · obtain ⟨rfl, hmissing⟩ := verifyEd25519Signature_error hc
    exact .unsigned (.inr hmissing)

theorem Settleable.verified {ctx : TxContext} {k : Pubkey} {s : Session} {u : StateUpdate}
    (h : Settleable ctx k s u) : verifyCosignedState ctx s k u = .ok () :=
  verifyCosignedState_ok.mpr ⟨h.domain, h.session, h.covered, h.keeps,
    verifyEd25519Signature_iff.mpr h.provider, verifyEd25519Signature_iff.mpr h.consumer⟩

theorem Settleable.of_verified {ctx : TxContext} {k : Pubkey} {s : Session} {u : StateUpdate}
    (hstatus : s.status = .open) (hmint : s.mint = none) (hnonce : s.lastNonce < u.nonce)
    (h : verifyCosignedState ctx s k u = .ok ()) : Settleable ctx k s u := by
  obtain ⟨hd, hk, hle, hge, hp, hc⟩ := verifyCosignedState_ok.mp h
  exact ⟨hstatus, hmint, hnonce, hd, hk, hle, hge, verifyEd25519Signature_iff.mp hp,
    verifyEd25519Signature_iff.mp hc⟩

/-- The steps of a settlement between its checks and its trackers: none of
them can fail. -/
structure PayoutRuns (l : Ledger) (k : Pubkey) (s : Session) (cfg : Config) (owed : UInt64)
    (isCheckpoint : Bool) (delta fee pa rem : UInt64) (l₁ l₂ l₃ : Ledger) : Prop where
  payout : checkedSub owed s.settledToProvider = some delta
  charge : feeFor delta cfg.feeBps = .ok fee
  share : checkedSub delta fee = some pa
  provider : pdaTransferLamports l k s.provider pa = .ok l₁
  feeVault : pdaTransferLamports l₁ k cfg.feeVault fee = .ok l₂
  refund : settlementRefund s owed isCheckpoint = .ok rem
  consumer : pdaTransferLamports l₂ k s.consumer rem = .ok l₃

/-- In an open session that holds its escrow, a covered payout runs through. -/
theorem IsOpen.payout_runs {rt : Runtime} {l : Ledger} {k x : Pubkey} {s : Session} {cfg : Config}
    {owed : UInt64} (h : IsOpen rt l k s) (hm : s.mint = none) (hc : (l x).data = .config cfg)
    (room : ∀ r, (l (s.payee cfg.feeVault r)).lamports.toNat + s.unsettled < 2 ^ 64)
    (hlo : s.settledToProvider.toNat ≤ owed.toNat) (hhi : owed.toNat ≤ s.deposited.toNat)
    (isCheckpoint : Bool) : ∃ delta fee pa rem l₁ l₂ l₃,
      PayoutRuns l k s cfg owed isCheckpoint delta fee pa rem l₁ l₂ l₃ ∧
        pa.toNat = netOf (owed.toNat - s.settledToProvider.toNat) cfg.feeBps := by
  have hfee := (h.inv.config x cfg hc).1.fee
  have hb : cfg.feeBps.toNat ≤ 10000 := by omega
  obtain ⟨delta, fee, pa, hdelta, hf, hpa⟩ := payout_exists hb hlo
  obtain ⟨rem, hrem⟩ := settlementRefund_exists hhi isCheckpoint
  have hd := checkedSub_some.mp hdelta
  have hp := checkedSub_some.mp hpa
  have hsum : pa.toNat + fee.toNat + rem.toNat ≤ s.unsettled :=
    settlement_covered hrem (by omega) hhi
  have hnet : pa.toNat = netOf (owed.toNat - s.settledToProvider.toNat) cfg.feeBps := by
    have he : owed.toNat - s.settledToProvider.toNat = delta.toNat := by omega
    rw [netOf, he, ← feeFor_ok hf hb]
    omega
  have alive : s.status.terminal = false := by simp [h.status, SessionStatus.terminal]
  obtain ⟨mid, hpaid⟩ := (h.inv.solEscrow h.data alive hm hc room).pays (sharesOf pa fee rem)
    (by rwa [total_sharesOf])
  obtain ⟨_, _, h₁, h₂, h₃⟩ := hpaid.three
  exact ⟨delta, fee, pa, rem, _, _, _, ⟨hdelta, hf, hpa, h₁, h₂, hrem, h₃⟩, hnet⟩

section
variable {rt : Runtime} {ctx : TxContext} {l : Ledger} {k : Pubkey} {s : Session} {cfg : Config}
  {n : Node} {a : Settle rt} {u : StateUpdate} {isCheckpoint : Bool}

theorem Settle.Own.loaded (own : a.Own l k s cfg) (hi : Inv rt l) (hs : (l k).data = .session s)
    (hn : (l s.node).data = .node n) : a.load rt l = .ok (cfg, n, s) := by
  obtain ⟨n', hn', hparties⟩ := own.parties.loaded hi hs
  obtain rfl : n = n' := by simpa [hn] using hn'
  exact Settle.load_ok.mpr ⟨hparties, own.feeVault, own.instructionsSysvar⟩

theorem Settleable.payout_runs (h : Settleable ctx k s u) (hi : Inv rt l)
    (hs : (l k).data = .session s) (own : a.Own l k s cfg) (isCheckpoint : Bool) :
    ∃ delta fee pa rem l₁ l₂ l₃,
      PayoutRuns l k s cfg u.owedToProvider isCheckpoint delta fee pa rem l₁ l₂ l₃ ∧
        pa.toNat = netOf (u.owedToProvider.toNat - s.settledToProvider.toNat) cfg.feeBps :=
  IsOpen.payout_runs ⟨hi, hs, h.status⟩ h.mint own.parties.config own.room h.keeps h.covered
    isCheckpoint

theorem applyState_exists (hi : Inv rt l) (hs : (l k).data = .session s)
    (own : a.Own l k s cfg) (hn : (l s.node).data = .node n) (h : Settleable ctx k s u)
    (hunits : UnitsFit n s u) (hearnings : EarningsFit cfg n s u) :
    ∃ r, applyState rt ctx l a u isCheckpoint = .ok r := by
  obtain ⟨delta, fee, pa, rem, l₁, l₂, l₃, runs, hnet⟩ := h.payout_runs hi hs own isCheckpoint
  obtain ⟨units, hu⟩ := checkedAdd_exists
    (show n.totalUnits.toNat + (saturatingSub u.unitsConsumed s.pendingUnits).toNat < 2 ^ 64 by
      rw [saturatingSub_toNat]
      exact hunits)
  obtain ⟨settled, hsettled⟩ := checkedAdd_exists
    (show n.totalSettled.toNat + pa.toNat < 2 ^ 64 by
      rw [hnet]
      exact hearnings)
  have hparties := own.parties
  have hpaid : LamportsPaid l (settlementTransfers a.session a.session a.provider a.feeVault
      a.consumer pa fee rem) l₃ := by
    rw [hparties.session, hparties.provider, own.feeVault, hparties.consumer]
    exact .cons runs.provider (.cons runs.feeVault (.cons runs.consumer (.nil l₃)))
  refine ⟨_, applyState_ok.mpr ⟨cfg, n, s, pa, fee, rem, units, settled, l₃, own.loaded hi hs hn,
    h.status, h.mint, h.newer, ?_, ⟨⟨delta, runs.payout, runs.charge, runs.share⟩, runs.refund, hu,
      hsettled⟩, rfl, hpaid, rfl⟩⟩
  rw [hparties.session]
  exact h.verified

theorem applyState_accepted (hi : Inv rt l) (hs : (l k).data = .session s)
    (own : a.Own l k s cfg) (hn : (l s.node).data = .node n) {r : Effect}
    (h : applyState rt ctx l a u isCheckpoint = .ok r) :
    Settleable ctx k s u ∧ UnitsFit n s u ∧ EarningsFit cfg n s u := by
  obtain ⟨cfg', n', s', pa, fee, rem, units, settled, mid, hload, hstatus, hmint, hnonce, hverify,
    amounts, _⟩ := applyState_ok.mp h
  cases (own.loaded hi hs hn).symm.trans hload
  rw [own.parties.session] at hverify
  have hfee := (hi.config _ cfg own.parties.config).1.fee
  have values := amounts.values (by omega)
  have hunits := values.units
  have hsettled := values.settled
  rw [saturatingSub_toNat] at hunits
  rw [values.net] at hsettled
  have hu := units.toNat_lt
  have ht := settled.toNat_lt
  exact ⟨.of_verified hstatus hmint hnonce hverify, by rw [UnitsFit]; omega,
    by rw [EarningsFit]; omega⟩

/-- A refusal has one of the listed reasons. None of the payout's own steps
can be one. -/
theorem applyState_refused (hi : Inv rt l) (hs : (l k).data = .session s)
    (own : a.Own l k s cfg) (hn : (l s.node).data = .node n) {e : Failure}
    (h : applyState rt ctx l a u isCheckpoint = .error e) :
    SettlementRefused ctx k cfg n s u e := by
  have hload := own.loaded hi hs hn
  have hparties := own.parties
  simp only [applyState, hload, bind_error, require_error, okOr_error, reduceCtorEq, false_or,
    Except.ok.injEq, exists_eq_left', require_ok, okOr_ok] at h
  rcases h with ⟨hstatus, rfl⟩ | ⟨_, hstatus, h⟩
  · exact .notOpen hstatus
  rcases h with ⟨hmint, rfl⟩ | ⟨_, hmint, h⟩
  · exact .inTokens hmint
  rcases h with ⟨hnonce, rfl⟩ | ⟨_, hnonce, h⟩
  · exact .stale hnonce
  rw [hparties.session] at h
  rcases h with hverify | ⟨_, hverify, h⟩
  · exact verifyCosignedState_error hverify
  have hsettleable : Settleable ctx k s u := .of_verified hstatus hmint hnonce hverify
  obtain ⟨delta, fee, pa, rem, l₁, l₂, l₃, runs, hnet⟩ :=
    hsettleable.payout_runs hi hs own isCheckpoint
  -- the steps of the payout have run, so only the trackers are left
  rw [hparties.provider, hparties.consumer, own.feeVault] at h
  simp only [runs.payout, runs.charge, runs.share, runs.provider, runs.feeVault, runs.refund,
    runs.consumer, reduceCtorEq, false_and, false_or, Option.some.injEq, Except.ok.injEq,
    exists_eq_left'] at h
  rcases h with ⟨hunits, rfl⟩ | ⟨units, _, ⟨hsettled, rfl⟩ | ⟨_, _, h⟩⟩
  · refine .trackers hsettleable (.inl fun hfit => ?_)
    rw [UnitsFit, ← saturatingSub_toNat] at hfit
    obtain ⟨units, hu⟩ := checkedAdd_exists hfit
    simp [hu] at hunits
  · refine .trackers hsettleable (.inr fun hfit => ?_)
    rw [EarningsFit, ← hnet] at hfit
    obtain ⟨settled, hs⟩ := checkedAdd_exists hfit
    simp [hs] at hsettled
  · cases h

end

/-- A checkpoint or settlement over the session's own accounts succeeds if and
only if the session is open and in lamports, the update is for it, is newer,
signed by both parties and within its bounds, and the node's trackers have
room. Whenever it is refused, one of these is the reason: the fee, the
transfers out of the escrow and the refund are always defined. -/
theorem settlement_accepted_iff {rt : Runtime} {start l : Ledger} {tr : History rt}
    (genesis : Genesis start) (run : Run (Step rt) start tr l) (k : Pubkey) (s : Session)
    (hs : (l k).data = .session s) (n : Node) (hn : (l s.node).data = .node n) (cfg : Config)
    (ctx : TxContext) (a : Settle rt) (own : a.Own l k s cfg) (u : StateUpdate) (c : Call rt)
    (hc : c = .checkpointSettle a u ∨ c = .settleSession a u) :
    ((∃ r, c.exec ctx l = .ok r) ↔
        Settleable ctx k s u ∧ UnitsFit n s u ∧ EarningsFit cfg n s u) ∧
      (∀ e, c.exec ctx l = .error e → SettlementRefused ctx k cfg n s u e) ∧
      (Settleable ctx k s u → ∀ isCheckpoint, ∃ delta fee pa rem l₁ l₂ l₃,
        PayoutRuns l k s cfg u.owedToProvider isCheckpoint delta fee pa rem l₁ l₂ l₃) := by
  have hi := run_inv genesis run
  obtain ⟨isCheckpoint, he⟩ : ∃ isCheckpoint,
      c.exec ctx l = applyState rt ctx l a u isCheckpoint := by
    rcases hc with rfl | rfl
    · exact ⟨true, rfl⟩
    · exact ⟨false, rfl⟩
  rw [he]
  refine ⟨⟨?_, ?_⟩, fun e h => applyState_refused hi hs own hn h, fun h isCheckpoint => ?_⟩
  · intro h
    obtain ⟨r, h⟩ := h
    exact applyState_accepted hi hs own hn h
  · intro h
    obtain ⟨h, hunits, hearnings⟩ := h
    exact applyState_exists hi hs own hn h hunits hearnings
  · obtain ⟨delta, fee, pa, rem, l₁, l₂, l₃, runs, _⟩ := h.payout_runs hi hs own isCheckpoint
    exact ⟨delta, fee, pa, rem, l₁, l₂, l₃, runs⟩

section
open Localnet Transaction

/-- The node of the small chain as it was registered. -/
def registeredNode : Node := ⟨16, 2, 1000, "geo", 0, 0, 0, 0, true, 255⟩

theorem settlement_accepted_iff_fresh :
    Settleable checkpointContext (session 7) (opened 7 1000000 none 0)
      (update 7 1 300000 1000) := by
  have run : Run (Step Localnet.rt) Localnet.start freshSession.2 freshSession.1 :=
    submit_run _ _
  obtain ⟨r, hok⟩ := exists_ok (by decide +kernel : ((Call.checkpointSettle (settleAccounts 7)
    (update 7 1 300000 1000)).exec checkpointContext freshSession.1).isOk = true)
  refine ((settlement_accepted_iff start_genesis run (session 7) (opened 7 1000000 none 0)
    (by decide +kernel) registeredNode (by decide +kernel) deployedConfig checkpointContext
    (settleAccounts 7) ⟨⟨by decide +kernel, rfl, rfl, rfl, rfl, rfl, rfl⟩, rfl, rfl, ?_⟩
    (update 7 1 300000 1000) _ (.inl rfl)).1.mp ⟨r, hok⟩).1
  intro role
  cases role <;> decide +kernel

end

end SolMesh
