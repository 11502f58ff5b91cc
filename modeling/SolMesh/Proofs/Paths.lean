import SolMesh.Model.Localnet
import SolMesh.Proofs.Twins

namespace SolMesh
open Outcome Words Runs

/-- The accounts that an instruction names alike on both paths. -/
structure PathAccounts (rt : Runtime) where
  config : Pubkey
  node : Pubkey
  provider : Pubkey
  consumer : Pubkey
  asset : Pubkey
  payer : Signer rt
  mplCoreProgram : Pubkey
  instructionsSysvar : Pubkey

namespace PathAccounts

variable {rt : Runtime} (a : PathAccounts rt) (k : Pubkey)

def settle (feeVault : Pubkey) : Settle rt :=
  ⟨a.config, a.node, k, a.provider, a.consumer, a.asset, feeVault, a.payer, a.mplCoreProgram,
    a.instructionsSysvar⟩

def finalizeClose (feeVault : Pubkey) : FinalizeClose rt :=
  ⟨a.config, a.node, k, a.provider, a.consumer, a.asset, feeVault, a.payer, a.mplCoreProgram⟩

def unilateralClose (caller : Signer rt) : UnilateralClose rt :=
  ⟨a.config, k, a.provider, a.consumer, caller, a.instructionsSysvar⟩

def payoutSpl (e : TokenEnds) : PayoutSpl rt :=
  ⟨a.config, a.node, k, a.provider, a.consumer, a.asset, e.vaultAuthority, e.vaultToken,
    e.dest .provider, e.dest .consumer, e.dest .fee, a.payer, a.mplCoreProgram⟩

def settleSpl (e : TokenEnds) : SettleSpl rt :=
  ⟨a.payoutSpl k e, a.instructionsSysvar⟩

def lifecycleSpl (e : TokenEnds) (consumer : Pubkey) (signer : Signer rt) : LifecycleSpl rt :=
  ⟨a.config, k, consumer, e.vaultAuthority, e.vaultToken, e.dest .consumer, signer⟩

end PathAccounts

/-- What can be asked of a session on either path, and by whom where the
program asks who it is. -/
inductive PathOp (rt : Runtime)
  | checkpoint (u : StateUpdate)
  | settle (u : StateUpdate)
  | finalize
  | cancel (caller : Signer rt)
  | expire
  | initiate (caller : Signer rt) (u : StateUpdate)
  | challenge (caller : Signer rt) (u : StateUpdate)

/-- The instruction of the path that pays in lamports. -/
def PathOp.sol {rt : Runtime} (a : PathAccounts rt) (k feeVault : Pubkey) : PathOp rt → Call rt
  | .checkpoint u => .checkpointSettle (a.settle k feeVault) u
  | .settle u => .settleSession (a.settle k feeVault) u
  | .finalize => .finalizeClose (a.finalizeClose k feeVault)
  | .cancel caller => .cancelSession ⟨a.config, k, caller⟩
  | .expire => .expireSession ⟨a.config, k, a.consumer, a.payer⟩
  | .initiate caller u => .initiateUnilateralClose (a.unilateralClose k caller) u
  | .challenge caller u => .challenge (a.unilateralClose k caller) u

/-- The instruction of the path that pays in tokens. The two that start and
contest a dispute are shared. -/
def PathOp.spl {rt : Runtime} (a : PathAccounts rt) (k : Pubkey) (e : TokenEnds) :
    PathOp rt → Call rt
  | .checkpoint u => .checkpointSettleSpl (a.settleSpl k e) u
  | .settle u => .settleSessionSpl (a.settleSpl k e) u
  | .finalize => .finalizeCloseSpl (a.payoutSpl k e)
  | .cancel caller => .cancelSessionSpl (a.lifecycleSpl k e caller.key caller)
  | .expire => .expireSessionSpl (a.lifecycleSpl k e a.consumer a.payer)
  | .initiate caller u => .initiateUnilateralClose (a.unilateralClose k caller) u
  | .challenge caller u => .challenge (a.unilateralClose k caller) u

/-- Two outcomes pay the same in every role and leave twins. -/
def SameOutcome (rt : Runtime) (k mint : Pubkey) (bump : UInt8) (feeVault : Pubkey)
    (e : TokenEnds) (r r' : Effect) : Prop :=
  (∀ role, received role r'.2 = received role r.2) ∧
    ∃ s, Twins rt k mint bump feeVault e r.1 r'.1 s

/-- Two instructions succeed or fail alike, and with the same outcome. -/
structure Alike (rt : Runtime) (k mint : Pubkey) (bump : UInt8) (feeVault : Pubkey)
    (e : TokenEnds) (x y : Outcome Effect) : Prop where
  forth : ∀ r, x = .ok r → ∃ r', y = .ok r' ∧ SameOutcome rt k mint bump feeVault e r r'
  back : ∀ r', y = .ok r' → ∃ r, x = .ok r ∧ SameOutcome rt k mint bump feeVault e r r'

section
variable {rt : Runtime} {ctx : TxContext} {k mint feeVault : Pubkey} {bump : UInt8}
  {e : TokenEnds} {l m : Ledger} {s : Session}

/-- Both succeed exactly under a condition, and under it alike. -/
theorem Alike.of_both {x y : Outcome Effect} {C : Prop} (hx : ∀ r, x = .ok r → C)
    (hy : ∀ r, y = .ok r → C)
    (both : C → ∃ r r', x = .ok r ∧ y = .ok r' ∧ SameOutcome rt k mint bump feeVault e r r') :
    Alike rt k mint bump feeVault e x y := by
  constructor
  · intro r hr
    obtain ⟨r₁, r₂, h₁, h₂, same⟩ := both (hx r hr)
    cases hr.symm.trans h₁
    exact ⟨r₂, h₂, same⟩
  · intro r hr
    obtain ⟨r₁, r₂, h₁, h₂, same⟩ := both (hy r hr)
    cases hr.symm.trans h₂
    exact ⟨r₁, h₁, same⟩

theorem Twins.session_eq (h : Twins rt k mint bump feeVault e l m s) {s₁ : Session}
    (hs : (l k).data = .session s₁) : s₁ = s := by
  simpa [h.sol] using hs.symm

theorem Twins.session_eq_spl (h : Twins rt k mint bump feeVault e l m s) {s₁ : Session}
    (hs : (m k).data = .session s₁) : s₁ = s.inTokens mint bump := by
  simpa [h.spl] using hs.symm

/-- The checks on the parties come out the same on both chains. -/
theorem Twins.parties (h : Twins rt k mint bump feeVault e l m s)
    {config node provider consumer asset mplCoreProgram : Pubkey} {cfg : Config} {n : Node} :
    PartiesLoaded rt l config node k provider consumer asset mplCoreProgram cfg n s ↔
      PartiesLoaded rt m config node k provider consumer asset mplCoreProgram cfg n
        (s.inTokens mint bump) := by
  constructor
  · intro hl
    exact ⟨h.registry.config.mp hl.configData, hl.configSeeds, h.registry.node.mp hl.nodeData,
      hl.nodeSeeds, h.spl, hl.hasNode, hl.hasProvider, hl.hasConsumer, hl.sessionSeeds, hl.hasAsset,
      hl.hasCore⟩
  · intro hl
    exact ⟨h.registry.config.mpr hl.configData, hl.configSeeds, h.registry.node.mpr hl.nodeData,
      hl.nodeSeeds, h.sol, hl.hasNode, hl.hasProvider, hl.hasConsumer, hl.sessionSeeds, hl.hasAsset,
      hl.hasCore⟩

theorem Twins.loaded (h : Twins rt k mint bump feeVault e l m s) {config : Pubkey}
    {cfg : Config} : SessionLoaded rt l config k cfg s ↔
      SessionLoaded rt m config k cfg (s.inTokens mint bump) := by
  constructor
  · intro hl
    exact ⟨h.registry.config.mp hl.configData, hl.configSeeds, h.spl, hl.sessionSeeds⟩
  · intro hl
    exact ⟨h.registry.config.mpr hl.configData, hl.configSeeds, h.sol, hl.sessionSeeds⟩

/-- The token accounts of the session pass the checks on them. -/
theorem Twins.tokensLoaded (h : Twins rt k mint bump feeVault e l m s)
    (alive : s.status.terminal = false) {a : PathAccounts rt} {cfg : Config} {n : Node}
    (hl : PartiesLoaded rt l a.config a.node k a.provider a.consumer a.asset a.mplCoreProgram
      cfg n s) : TokensLoaded rt m (a.payoutSpl k e) cfg := by
  have escrow := h.tokens alive
  obtain ⟨v, hv, _⟩ := escrow.vault
  have owned : ∀ r, ∃ t, (m (e.dest r)).data = .token t ∧ t.owner = s.payee feeVault r := by
    intro r
    obtain ⟨t, ht, _, ho, _⟩ := escrow.dest r
    exact ⟨t, ht, ho⟩
  have hfee := h.fees _ _ hl.configData
  refine ⟨⟨bump, escrow.authority⟩, ⟨v, hv⟩, ?_, ?_, ?_⟩
  · obtain ⟨t, ht, ho⟩ := owned .provider
    exact ⟨t, ht, ho.trans hl.hasProvider⟩
  · obtain ⟨t, ht, ho⟩ := owned .consumer
    exact ⟨t, ht, ho.trans hl.hasConsumer⟩
  · obtain ⟨t, ht, ho⟩ := owned .fee
    exact ⟨t, ht, ho.trans hfee.symm⟩

end

section
variable {cfg : Config} {n : Node} {s : Session} {mint : Pubkey} {bump : UInt8}
  {owed work : UInt64} {isCheckpoint : Bool} {pa fee rem units settled : UInt64}

/-- The amounts of a payout do not depend on the escrow kind. -/
theorem amounts_inTokens :
    Amounts cfg n (s.inTokens mint bump) owed work isCheckpoint pa fee rem units settled ↔
      Amounts cfg n s owed work isCheckpoint pa fee rem units settled :=
  ⟨fun h => ⟨h.payout, h.refund, h.units, h.settled⟩,
    fun h => ⟨h.payout, h.refund, h.units, h.settled⟩⟩

/-- A checkpoint leaves unsettled what it did not pay. -/
theorem Amounts.flow (h : Amounts cfg n s owed work true pa fee rem units settled)
    (hle : owed.toNat ≤ s.deposited.toNat) {s' : Session} (terms : s.SameTerms s')
    (hsettled : s'.settledToProvider = owed) :
    pa.toNat + fee.toNat + rem.toNat + s'.unsettled = s.unsettled := by
  have hsum := h.sum
  have hrem : rem.toNat = 0 := by rw [(settlementRefund_ok h.refund).1 rfl]; rfl
  simp only [Session.unsettled, terms.deposited, hsettled]
  omega

end

section
variable {rt : Runtime} {ctx : TxContext} {k mint feeVault : Pubkey} {bump : UInt8}
  {e : TokenEnds} {l m : Ledger} {s : Session}

theorem settlement_sol {config node provider consumer asset mplCoreProgram : Pubkey}
    {cfg : Config} {n : Node} (h : PartiesLoaded rt l config node k provider consumer asset
      mplCoreProgram cfg n s) (feeVault : Pubkey) (pa fee rem : UInt64) :
    settlementTransfers k k provider feeVault consumer pa fee rem =
      transfersTo k k (s.payee feeVault) (sharesOf pa fee rem) := by
  rw [← h.hasProvider, ← h.hasConsumer]
  rfl

/-- Both chains can pay the amounts of a settlement, and stay twins. -/
theorem Twins.payout (h : Twins rt k mint bump feeVault e l m s)
    (alive : s.status.terminal = false) {cfg : Config} {n : Node} {owed work : UInt64}
    {isCheckpoint : Bool} {pa fee rem units settled : UInt64}
    (ha : Amounts cfg n s owed work isCheckpoint pa fee rem units settled)
    (hle : owed.toNat ≤ s.deposited.toNat) (s' : Session) (terms : s.SameTerms s')
    (hsettled : s'.settledToProvider = owed)
    (kept : s'.status.terminal = false → isCheckpoint = true) {node : Pubkey}
    (hn : (l node).data = .node n) :
    ∃ midL midM, LamportsPaid l (transfersTo k k (s.payee feeVault) (sharesOf pa fee rem)) midL ∧
      TokensPaid rt e.vaultAuthority k bump m
        (transfersTo k e.vaultToken e.dest (sharesOf pa fee rem)) midM ∧
      ∀ n', Twins rt k mint bump feeVault e (writeRecords midL node n' k s')
        (writeRecords midM node n' k (s'.inTokens mint bump)) s' := by
  have covered := ha.covered hle
  have total := total_sharesOf pa fee rem
  obtain ⟨midL, hl⟩ := (h.lamports alive).pays (sharesOf pa fee rem) (by omega)
  obtain ⟨midM, hm⟩ := (h.tokens alive).pays (sharesOf pa fee rem) (by omega)
  refine ⟨midL, midM, hl, hm, fun n' => ?_⟩
  have paid := h.paid alive _ hl hm terms fun hs' => by
    obtain rfl := kept hs'
    have := ha.flow hle terms hsettled
    omega
  have hne : node ≠ k := ne_of_data hn h.sol (by simp)
  have written : ((midL.setData k (.session s')) node).data = .node n := by
    rw [Ledger.setData_data, if_neg hne, hl.moves.data, hn]
  have twins := paid.setNode written n'
  rwa [Ledger.setData_comm _ (Ne.symm hne), Ledger.setData_comm _ (Ne.symm hne)] at twins

/-- Both chains can pay the consumer what is unsettled, and close the session. -/
theorem Twins.refund (h : Twins rt k mint bump feeVault e l m s)
    (alive : s.status.terminal = false) {rem : UInt64}
    (hrem : checkedSub s.deposited s.settledToProvider = some rem) {status : SessionStatus}
    (closed : status.terminal = true) :
    ∃ midL midM, LamportsPaid l (transfersTo k k (s.payee feeVault) [(.consumer, rem)]) midL ∧
      TokensPaid rt e.vaultAuthority k bump m
        (transfersTo k e.vaultToken e.dest [(.consumer, rem)]) midM ∧
      Twins rt k mint bump feeVault e (midL.setData k (.session (s.close status)))
        (midM.setData k (.session ((s.close status).inTokens mint bump))) (s.close status) := by
  have hle : ([(Role.consumer, rem)].map fun x => x.2.toNat).sum ≤ s.unsettled := by
    have := checkedSub_some.mp hrem
    simp [Session.unsettled]
    omega
  obtain ⟨midL, hl⟩ := (h.lamports alive).pays _ hle
  obtain ⟨midM, hm⟩ := (h.tokens alive).pays _ hle
  refine ⟨midL, midM, hl, hm, h.paid alive _ hl hm (by constructor <;> rfl) fun ha => ?_⟩
  simp [Session.close, closed] at ha

/-- A co-signed update is paid out on both chains or on neither. -/
theorem Twins.settle_alike (h : Twins rt k mint bump feeVault e l m s) (a : PathAccounts rt)
    (u : StateUpdate) (isCheckpoint : Bool) : Alike rt k mint bump feeVault e
      (applyState rt ctx l (a.settle k feeVault) u isCheckpoint)
      (applyStateSpl rt ctx m (a.settleSpl k e) u isCheckpoint) := by
  refine Alike.of_both (C := ∃ cfg n pa fee rem units settled,
    PartiesLoaded rt l a.config a.node k a.provider a.consumer a.asset a.mplCoreProgram cfg n s ∧
      a.instructionsSysvar = ixSysvarId ∧ s.status = .open ∧ s.lastNonce < u.nonce ∧
      verifyCosignedState ctx s k u = .ok () ∧
      Amounts cfg n s u.owedToProvider (saturatingSub u.unitsConsumed s.pendingUnits)
        isCheckpoint pa fee rem units settled) ?_ ?_ ?_
  · intro (l', ts) hr
    obtain ⟨cfg, n, s₁, pa, fee, rem, units, settled, _, hload, hstatus, _, hnonce, hverify, ha,
      _⟩ := applyState_ok.mp hr
    obtain ⟨hp, _, hsysvar⟩ := Settle.load_ok.mp hload
    obtain rfl := h.session_eq hp.sessionData
    exact ⟨cfg, n, pa, fee, rem, units, settled, hp, hsysvar, hstatus, hnonce, hverify, ha⟩
  · intro (m', ts) hr
    obtain ⟨cfg, n, s₁, pa, fee, rem, units, settled, _, hload, hstatus, _, hnonce, hverify, ha,
      _⟩ := applyStateSpl_ok.mp hr
    obtain ⟨hp, _, hsysvar⟩ := SettleSpl.load_ok.mp hload
    obtain rfl := h.session_eq_spl hp.sessionData
    exact ⟨cfg, n, pa, fee, rem, units, settled, h.parties.mpr hp, hsysvar, hstatus, hnonce,
      hverify, amounts_inTokens.mp ha⟩
  · intro ⟨cfg, n, pa, fee, rem, units, settled, hp, hsysvar, hstatus, hnonce, hverify, ha⟩
    have alive : s.status.terminal = false := by simp [hstatus, SessionStatus.terminal]
    obtain ⟨_, _, hle, _⟩ := verifyCosignedState_ok.mp hverify
    obtain ⟨midL, midM, hl, hm, twins⟩ := h.payout alive ha hle (s.settle u isCheckpoint)
      (by constructor <;> rfl) rfl
      (by cases isCheckpoint <;> simp [Session.settle, SessionStatus.terminal]) hp.nodeData
    refine ⟨_, _, applyState_ok.mpr ⟨cfg, n, s, pa, fee, rem, units, settled, midL,
      Settle.load_ok.mpr ⟨hp, (h.fees _ _ hp.configData).symm, hsysvar⟩, hstatus, h.inLamports,
      hnonce, hverify, ha, rfl, ?_, rfl⟩, applyStateSpl_ok.mpr ⟨cfg, n, s.inTokens mint bump, pa,
      fee, rem, units, settled, midM,
      SettleSpl.load_ok.mpr ⟨h.parties.mp hp, h.tokensLoaded alive hp, hsysvar⟩, hstatus,
      by simp [Session.inTokens], hnonce, hverify, amounts_inTokens.mpr ha, rfl, ?_, rfl⟩, ?_⟩
    · exact (settlement_sol hp feeVault pa fee rem).symm ▸ hl
    · exact hm
    · exact ⟨fun _ => rfl, _, twins _⟩

/-- A dispute is paid out on both chains or on neither. -/
theorem Twins.finalize_alike (h : Twins rt k mint bump feeVault e l m s) (a : PathAccounts rt) :
    Alike rt k mint bump feeVault e (finalizeHandler rt ctx l (a.finalizeClose k feeVault))
      (finalizeCloseSplHandler rt ctx m (a.payoutSpl k e)) := by
  refine Alike.of_both (C := ∃ cfg n pa fee rem units settled,
    PartiesLoaded rt l a.config a.node k a.provider a.consumer a.asset a.mplCoreProgram cfg n s ∧
      s.status = .closing ∧ s.challengeDeadline < ctx.unixTimestamp ∧
      Amounts cfg n s s.pendingPayout s.pendingUnits false pa fee rem units settled) ?_ ?_ ?_
  · intro (l', ts) hr
    obtain ⟨cfg, n, s₁, pa, fee, rem, units, settled, _, hload, hstatus, late, ha, _⟩ :=
      finalizeHandler_ok.mp hr
    obtain ⟨hp, _⟩ := FinalizeClose.load_ok.mp hload
    obtain rfl := h.session_eq hp.sessionData
    exact ⟨cfg, n, pa, fee, rem, units, settled, hp, hstatus, late, ha⟩
  · intro (m', ts) hr
    obtain ⟨cfg, n, s₁, pa, fee, rem, units, settled, _, hload, hstatus, _, late, ha, _⟩ :=
      finalizeCloseSplHandler_ok.mp hr
    obtain ⟨hp, _⟩ := PayoutSpl.load_ok.mp hload
    obtain rfl := h.session_eq_spl hp.sessionData
    exact ⟨cfg, n, pa, fee, rem, units, settled, h.parties.mpr hp, hstatus, late,
      amounts_inTokens.mp ha⟩
  · intro ⟨cfg, n, pa, fee, rem, units, settled, hp, hstatus, late, ha⟩
    have alive : s.status.terminal = false := by simp [hstatus, SessionStatus.terminal]
    have hle : s.pendingPayout.toNat ≤ s.deposited.toNat := by
      have := (settlementRefund_ok ha.refund).2 rfl
      omega
    obtain ⟨midL, midM, hl, hm, twins⟩ := h.payout alive ha hle s.finalize
      (by constructor <;> rfl) rfl (by simp [Session.finalize, SessionStatus.terminal]) hp.nodeData
    refine ⟨_, _, finalizeHandler_ok.mpr ⟨cfg, n, s, pa, fee, rem, units, settled, midL,
      FinalizeClose.load_ok.mpr ⟨hp, (h.fees _ _ hp.configData).symm⟩, hstatus, late, ha, rfl, ?_,
      rfl⟩, finalizeCloseSplHandler_ok.mpr ⟨cfg, n, s.inTokens mint bump, pa, fee, rem, units,
      settled, midM, PayoutSpl.load_ok.mpr ⟨h.parties.mp hp, h.tokensLoaded alive hp⟩, hstatus,
      by simp [Session.inTokens], late, amounts_inTokens.mpr ha, rfl, ?_, rfl⟩, ?_⟩
    · exact (settlement_sol hp feeVault pa fee rem).symm ▸ hl
    · exact hm
    · exact ⟨fun _ => rfl, _, twins _⟩

/-- The consumer is refunded on both chains. -/
theorem Twins.refund_both (h : Twins rt k mint bump feeVault e l m s)
    (alive : s.status.terminal = false) {rem : UInt64}
    (hrem : checkedSub s.deposited s.settledToProvider = some rem) (status : SessionStatus)
    (closed : status.terminal = true) (a : PathAccounts rt) {consumer : Pubkey}
    (hc : s.consumer = consumer) (signer : Signer rt) :
    ∃ r r', refundConsumer l s k consumer status = .ok r ∧
      refundConsumerSpl rt m (a.lifecycleSpl k e consumer signer) (s.inTokens mint bump) status =
        .ok r' ∧ SameOutcome rt k mint bump feeVault e r r' := by
  subst hc
  obtain ⟨midL, midM, hl, hm, twins⟩ := h.refund alive hrem closed
  exact ⟨_, _, refundConsumer_ok.mpr ⟨rem, midL, hrem, rfl, hl, rfl⟩,
    refundConsumerSpl_ok.mpr ⟨rem, midM, hrem, rfl, hm, rfl⟩,
    fun _ => rfl, _, twins⟩

/-- The token accounts of the consumer's refund pass the checks on them. -/
theorem Twins.lifecycleLoaded (h : Twins rt k mint bump feeVault e l m s)
    (alive : s.status.terminal = false) {a : PathAccounts rt} {consumer : Pubkey}
    {signer : Signer rt} {cfg : Config} (hl : SessionLoaded rt l a.config k cfg s)
    (hc : s.consumer = consumer) :
    (a.lifecycleSpl k e consumer signer).load rt m = .ok (s.inTokens mint bump) := by
  have escrow := h.tokens alive
  obtain ⟨v, hv, _⟩ := escrow.vault
  obtain ⟨t, ht, _, ho, _⟩ := escrow.dest .consumer
  exact LifecycleSpl.load_ok.mpr ⟨⟨cfg, h.loaded.mp hl⟩, hc, ⟨bump, escrow.authority⟩, ⟨v, hv⟩, t,
    ht, ho.trans hc⟩

/-- An unused session is cancelled on both chains or on neither. -/
theorem Twins.cancel_alike (h : Twins rt k mint bump feeVault e l m s) (a : PathAccounts rt)
    (caller : Signer rt) : Alike rt k mint bump feeVault e
      (cancelHandler rt l ⟨a.config, k, caller⟩)
      (cancelSessionSplHandler rt m (a.lifecycleSpl k e caller.key caller)) := by
  refine Alike.of_both (C := ∃ cfg rem, SessionLoaded rt l a.config k cfg s ∧
    s.consumer = caller.key ∧ s.status = .open ∧ s.lastNonce = 0 ∧
    checkedSub s.deposited s.settledToProvider = some rem) ?_ ?_ ?_
  · intro (l', ts) hr
    obtain ⟨s₁, hload, hstatus, unused, hr⟩ := cancelHandler_ok.mp hr
    obtain ⟨⟨cfg, hs⟩, hc⟩ := CancelSession.load_ok.mp hload
    obtain rfl := h.session_eq hs.sessionData
    obtain ⟨rem, _, hrem, _⟩ := refundConsumer_ok.mp hr
    exact ⟨cfg, rem, hs, hc, hstatus, unused, hrem⟩
  · intro (m', ts) hr
    obtain ⟨s₁, hload, hstatus, _, unused, _, hr⟩ := cancelSessionSplHandler_ok.mp hr
    obtain ⟨⟨cfg, hs⟩, hc, _⟩ := LifecycleSpl.load_ok.mp hload
    obtain rfl := h.session_eq_spl hs.sessionData
    obtain ⟨rem, _, hrem, _⟩ := refundConsumerSpl_ok.mp hr
    exact ⟨cfg, rem, h.loaded.mpr hs, hc, hstatus, unused, hrem⟩
  · intro ⟨cfg, rem, hs, hc, hstatus, unused, hrem⟩
    have alive : s.status.terminal = false := by simp [hstatus, SessionStatus.terminal]
    obtain ⟨r, r', hsol, hspl, same⟩ := h.refund_both alive hrem .cancelled rfl a hc caller
    exact ⟨r, r', cancelHandler_ok.mpr ⟨s, CancelSession.load_ok.mpr ⟨⟨cfg, hs⟩, hc⟩, hstatus,
      unused, hsol⟩, cancelSessionSplHandler_ok.mpr ⟨_, h.lifecycleLoaded alive hs hc, hstatus,
      by simp [Session.inTokens], unused, hc.symm, hspl⟩, same⟩

/-- A session expires on both chains or on neither. -/
theorem Twins.expire_alike (h : Twins rt k mint bump feeVault e l m s) (a : PathAccounts rt) :
    Alike rt k mint bump feeVault e
      (expireHandler rt ctx l ⟨a.config, k, a.consumer, a.payer⟩)
      (expireSessionSplHandler rt ctx m (a.lifecycleSpl k e a.consumer a.payer)) := by
  refine Alike.of_both (C := ∃ cfg rem, SessionLoaded rt l a.config k cfg s ∧
    s.consumer = a.consumer ∧ s.status = .open ∧ s.expiry < ctx.unixTimestamp ∧
    checkedSub s.deposited s.settledToProvider = some rem) ?_ ?_ ?_
  · intro (l', ts) hr
    obtain ⟨s₁, hload, hstatus, late, hr⟩ := expireHandler_ok.mp hr
    obtain ⟨⟨cfg, hs⟩, hc⟩ := ExpireSession.load_ok.mp hload
    obtain rfl := h.session_eq hs.sessionData
    obtain ⟨rem, _, hrem, _⟩ := refundConsumer_ok.mp hr
    exact ⟨cfg, rem, hs, hc, hstatus, late, hrem⟩
  · intro (m', ts) hr
    obtain ⟨s₁, hload, hstatus, _, late, hr⟩ := expireSessionSplHandler_ok.mp hr
    obtain ⟨⟨cfg, hs⟩, hc, _⟩ := LifecycleSpl.load_ok.mp hload
    obtain rfl := h.session_eq_spl hs.sessionData
    obtain ⟨rem, _, hrem, _⟩ := refundConsumerSpl_ok.mp hr
    exact ⟨cfg, rem, h.loaded.mpr hs, hc, hstatus, late, hrem⟩
  · intro ⟨cfg, rem, hs, hc, hstatus, late, hrem⟩
    have alive : s.status.terminal = false := by simp [hstatus, SessionStatus.terminal]
    obtain ⟨r, r', hsol, hspl, same⟩ := h.refund_both alive hrem .expired rfl a hc a.payer
    exact ⟨r, r', expireHandler_ok.mpr ⟨s, ExpireSession.load_ok.mpr ⟨⟨cfg, hs⟩, hc⟩, hstatus,
      late, hsol⟩, expireSessionSplHandler_ok.mpr ⟨_, h.lifecycleLoaded alive hs hc, hstatus,
      by simp [Session.inTokens], late, hspl⟩, same⟩

/-- A new record with nothing paid keeps the twins. -/
theorem Twins.rewrite (h : Twins rt k mint bump feeVault e l m s)
    (alive : s.status.terminal = false) {s' : Session} (terms : s.SameTerms s')
    (hsettled : s'.settledToProvider = s.settledToProvider) :
    Twins rt k mint bump feeVault e (l.setData k (.session s'))
      (m.setData k (.session (s'.inTokens mint bump))) s' := by
  refine h.paid alive [] (.nil l) (.nil m) terms fun _ => ?_
  simp [Session.unsettled, terms.deposited, hsettled]

theorem Twins.unilateralLoaded (h : Twins rt k mint bump feeVault e l m s)
    {a : UnilateralClose rt} (ha : a.session = k) {cfg : Config} :
    a.load rt l = .ok (cfg, s) ↔ a.load rt m = .ok (cfg, s.inTokens mint bump) := by
  subst ha
  rw [UnilateralClose.load_ok, UnilateralClose.load_ok, h.loaded]
  rfl

/-- A dispute starts on both chains or on neither. -/
theorem Twins.initiate_alike (h : Twins rt k mint bump feeVault e l m s) (a : PathAccounts rt)
    (caller : Signer rt) (u : StateUpdate) : Alike rt k mint bump feeVault e
      (initiateHandler rt ctx l (a.unilateralClose k caller) u)
      (initiateHandler rt ctx m (a.unilateralClose k caller) u) := by
  refine Alike.of_both (C := ∃ cfg deadline, (a.unilateralClose k caller).load rt l = .ok (cfg, s) ∧
    (caller.key = s.provider ∨ caller.key = s.consumer) ∧ s.status = .open ∧
    s.lastNonce < u.nonce ∧ verifyCosignedState ctx s k u = .ok () ∧
    checkedAddInt ctx.unixTimestamp cfg.challengeWindowSecs = some deadline) ?_ ?_ ?_
  · intro (l', ts) hr
    obtain ⟨cfg, s₁, deadline, hload, hcaller, hstatus, hnonce, hverify, hdeadline, _⟩ :=
      initiateHandler_ok.mp hr
    obtain rfl := h.session_eq (UnilateralClose.load_ok.mp hload).1.sessionData
    exact ⟨cfg, deadline, hload, hcaller, hstatus, hnonce, hverify, hdeadline⟩
  · intro (m', ts) hr
    obtain ⟨cfg, s₁, deadline, hload, hcaller, hstatus, hnonce, hverify, hdeadline, _⟩ :=
      initiateHandler_ok.mp hr
    obtain rfl := h.session_eq_spl (UnilateralClose.load_ok.mp hload).1.sessionData
    exact ⟨cfg, deadline, (h.unilateralLoaded rfl).mpr hload, hcaller, hstatus, hnonce, hverify,
      hdeadline⟩
  · intro ⟨cfg, deadline, hload, hcaller, hstatus, hnonce, hverify, hdeadline⟩
    have alive : s.status.terminal = false := by simp [hstatus, SessionStatus.terminal]
    refine ⟨_, _, initiateHandler_ok.mpr ⟨cfg, s, deadline, hload, hcaller, hstatus, hnonce,
      hverify, hdeadline, rfl, rfl⟩, initiateHandler_ok.mpr ⟨cfg, s.inTokens mint bump, deadline,
      (h.unilateralLoaded rfl).mp hload, hcaller, hstatus, hnonce, hverify, hdeadline, rfl, rfl⟩,
      fun _ => rfl, _, h.rewrite alive ?_ rfl⟩
    constructor <;> rfl

/-- A dispute is contested on both chains or on neither. -/
theorem Twins.challenge_alike (h : Twins rt k mint bump feeVault e l m s) (a : PathAccounts rt)
    (caller : Signer rt) (u : StateUpdate) : Alike rt k mint bump feeVault e
      (challengeHandler rt ctx l (a.unilateralClose k caller) u)
      (challengeHandler rt ctx m (a.unilateralClose k caller) u) := by
  refine Alike.of_both (C := ∃ cfg, (a.unilateralClose k caller).load rt l = .ok (cfg, s) ∧
    s.status = .closing ∧ ctx.unixTimestamp ≤ s.challengeDeadline ∧ s.lastNonce < u.nonce ∧
    verifyCosignedState ctx s k u = .ok ()) ?_ ?_ ?_
  · intro (l', ts) hr
    obtain ⟨cfg, s₁, hload, hstatus, early, hnonce, hverify, _⟩ := challengeHandler_ok.mp hr
    obtain rfl := h.session_eq (UnilateralClose.load_ok.mp hload).1.sessionData
    exact ⟨cfg, hload, hstatus, early, hnonce, hverify⟩
  · intro (m', ts) hr
    obtain ⟨cfg, s₁, hload, hstatus, early, hnonce, hverify, _⟩ := challengeHandler_ok.mp hr
    obtain rfl := h.session_eq_spl (UnilateralClose.load_ok.mp hload).1.sessionData
    exact ⟨cfg, (h.unilateralLoaded rfl).mpr hload, hstatus, early, hnonce, hverify⟩
  · intro ⟨cfg, hload, hstatus, early, hnonce, hverify⟩
    have alive : s.status.terminal = false := by simp [hstatus, SessionStatus.terminal]
    refine ⟨_, _, challengeHandler_ok.mpr ⟨cfg, s, hload, hstatus, early, hnonce, hverify, rfl,
      rfl⟩, challengeHandler_ok.mpr ⟨cfg, s.inTokens mint bump, (h.unilateralLoaded rfl).mp hload,
      hstatus, early, hnonce, hverify, rfl, rfl⟩, fun _ => rfl, _, h.rewrite alive ?_ rfl⟩
    constructor <;> rfl

/-- Whatever is asked of twins, both do it with the same outcome or neither
does it. -/
theorem Twins.alike (h : Twins rt k mint bump feeVault e l m s) (ctx : TxContext)
    (a : PathAccounts rt) (op : PathOp rt) : Alike rt k mint bump feeVault e
      ((op.sol a k feeVault).exec ctx l) ((op.spl a k e).exec ctx m) := by
  cases op with
  | checkpoint u => exact h.settle_alike a u true
  | settle u => exact h.settle_alike a u false
  | finalize => exact h.finalize_alike a
  | cancel caller => exact h.cancel_alike a caller
  | expire => exact h.expire_alike a
  | initiate caller u => exact h.initiate_alike a caller u
  | challenge caller u => exact h.challenge_alike a caller u

end

/-- What happens to a session on its path: an instruction with what it paid in
each role, or somebody else's change to the registry that both chains share. -/
inductive PathLabel (rt : Runtime)
  | op (ctx : TxContext) (a : PathAccounts rt) (op : PathOp rt) (paid : Role → Nat)
  | config (x : Pubkey) (c : Config)
  | node (x : Pubkey) (n : Node)

/-- The steps of a path, given the instruction it uses for each operation. -/
inductive PathStep (rt : Runtime) (call : PathAccounts rt → PathOp rt → Call rt) :
    Ledger → PathLabel rt → Ledger → Prop
  | op {ctx : TxContext} {a : PathAccounts rt} {op : PathOp rt} {l l' : Ledger}
      {ts : List Transfer} (ok : (call a op).exec ctx l = .ok (l', ts)) :
      PathStep rt call l (.op ctx a op fun r => received r ts) l'
  | config {l : Ledger} {x : Pubkey} {c c' : Config} (old : (l x).data = .config c)
      (feeVault : c'.feeVault = c.feeVault) :
      PathStep rt call l (.config x c') (l.setData x (.config c'))
  | node {l : Ledger} {x : Pubkey} {n n' : Node} (old : (l x).data = .node n) :
      PathStep rt call l (.node x n') (l.setData x (.node n'))

abbrev SolStep (rt : Runtime) (k feeVault : Pubkey) :
    Ledger → PathLabel rt → Ledger → Prop :=
  PathStep rt fun a op => op.sol a k feeVault

abbrev SplStep (rt : Runtime) (k : Pubkey) (e : TokenEnds) :
    Ledger → PathLabel rt → Ledger → Prop :=
  PathStep rt fun a op => op.spl a k e

section
variable {rt : Runtime} {k mint feeVault : Pubkey} {bump : UInt8} {e : TokenEnds}
  {l l' m m' : Ledger} {s : Session} {label : PathLabel rt}

/-- The chain with tokens follows the chain with lamports. -/
theorem Twins.follow (h : Twins rt k mint bump feeVault e l m s)
    (hstep : SolStep rt k feeVault l label l') :
    ∃ m', SplStep rt k e m label m' ∧ ∃ s', Twins rt k mint bump feeVault e l' m' s' := by
  cases hstep with
  | @op ctx a op _ _ ts ok =>
    obtain ⟨⟨m', ts'⟩, ok', paid, twins⟩ := (h.alike ctx a op).forth _ ok
    refine ⟨m', ?_, twins⟩
    rw [← funext paid]
    exact .op ok'
  | config old fee => exact ⟨_, .config (h.registry.config.mp old) fee, s, h.setConfig old fee⟩
  | node old => exact ⟨_, .node (h.registry.node.mp old), s, h.setNode old _⟩

/-- The chain with lamports follows the chain with tokens. -/
theorem Twins.follow_back (h : Twins rt k mint bump feeVault e l m s)
    (hstep : SplStep rt k e m label m') :
    ∃ l', SolStep rt k feeVault l label l' ∧ ∃ s', Twins rt k mint bump feeVault e l' m' s' := by
  cases hstep with
  | @op ctx a op _ _ ts ok =>
    obtain ⟨⟨l', ts'⟩, ok', paid, twins⟩ := (h.alike ctx a op).back _ ok
    refine ⟨l', ?_, twins⟩
    rw [funext paid]
    exact .op ok'
  | config old fee =>
    have old' := h.registry.config.mpr old
    exact ⟨_, .config old' fee, s, h.setConfig old' fee⟩
  | node old =>
    have old' := h.registry.node.mpr old
    exact ⟨_, .node old', s, h.setNode old' _⟩

end

section
open Localnet

/-- The small chain with a session that escrows lamports. -/
def solChain : Ledger :=
  (((start.setData config (.config deployedConfig)).setData node (.node
    ⟨16, 2, 1000, "geo", 0, 0, 0, 0, true, 255⟩)).setData (session 7)
    (.session (opened 7 1000000 none 0))).setLamports (session 7) 5000000

/-- The same chain with the session's escrow in tokens. -/
def splChain : Ledger :=
  (solChain.setData (session 7) (.session (opened 7 1000000 (some mint) 255))).setData
    (vaultToken 7) (.token ⟨mint, vaultAuthority 7, 1000000⟩)

def pathEnds : TokenEnds where
  vaultAuthority := vaultAuthority 7
  vaultToken := vaultToken 7
  dest
    | .provider => providerToken
    | .fee => feeToken
    | .consumer => consumerToken

theorem chains_twins :
    Twins Localnet.rt (session 7) mint 255 feeVault pathEnds solChain splChain
      (opened 7 1000000 none 0) := by
  refine ⟨?_, ?_, rfl, by decide +kernel, by decide +kernel, fun _ => ⟨by decide +kernel, ?_, ?_⟩,
    fun _ => ⟨find_eq _, ⟨⟨mint, vaultAuthority 7, 1000000⟩, by decide +kernel⟩, ?_, ?_⟩⟩
  · intro x
    unfold splChain
    rw [Ledger.setData_data, Ledger.setData_data]
    split_ifs with hv hs
    · subst hv
      decide +kernel
    · subst hs
      decide +kernel
    · rfl
  · intro x c hc
    have hstart := start_genesis x
    simp only [solChain, Ledger.setLamports_data, Ledger.setData_data] at hc
    split_ifs at hc
    · obtain rfl := AccountData.config.inj hc
      rfl
    · simp [hc, AccountData.ownedByProgram] at hstart
  · intro r
    cases r <;> decide +kernel
  · intro r
    cases r <;> decide +kernel
  · intro r
    cases r <;> decide +kernel
  · intro r
    cases r with
    | provider => exact ⟨⟨mint, 2, 0⟩, by decide +kernel⟩
    | fee => exact ⟨⟨mint, feeVault, 0⟩, by decide +kernel⟩
    | consumer => exact ⟨⟨mint, 3, 1000000000⟩, by decide +kernel⟩

def pathAccounts : PathAccounts Localnet.rt :=
  ⟨config, node, 2, 3, 16, stranger, mplCore, ixSysvarId⟩

end

end SolMesh
