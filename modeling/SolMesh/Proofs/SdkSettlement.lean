import SolMesh.Proofs.Acceptance
import SolMesh.Proofs.MessageParity
import SolMesh.Proofs.Replay
import SolMesh.Proofs.SdkTransactions

namespace SolMesh.Sdk
open Outcome Words Client Runs

section
variable {rt : Runtime}

/-- The options name the session and its own accounts, and no receiver can
overflow. -/
structure SettleOpts.For (l : Ledger) (k : Pubkey) (s : Session) (cfg : Config)
    (opts : SettleOpts rt) : Prop where
  node : opts.node = s.node
  asset : opts.asset = s.asset
  provider : opts.provider = s.provider
  consumer : opts.consumer = s.consumer
  session : opts.session = k
  mplCore : opts.mplCore = cfg.mplCoreProgram
  room : ∀ r, (l (s.payee cfg.feeVault r)).lamports.toNat + s.unsettled < 2 ^ 64

/-- What the chain asks of the client's state, for a session in the given money. -/
structure Payable (mint : Option Pubkey) (k : Pubkey) (s : Session) (cfg : Config) (n : Node)
    (state : Client.StateUpdate) : Prop where
  status : s.status = .open
  mint : s.mint = mint
  session : state.session = k
  newer : (s.lastNonce.toNat : Int) < state.nonce
  covered : state.owedToProvider ≤ s.deposited.toNat
  keeps : (s.settledToProvider.toNat : Int) ≤ state.owedToProvider
  units : n.totalUnits.toNat + (state.unitsConsumed.toNat - s.pendingUnits.toNat) < 2 ^ 64
  earnings : n.totalSettled.toNat +
    netOf (state.owedToProvider.toNat - s.settledToProvider.toNat) cfg.feeBps < 2 ^ 64

/-- The program's settlement that the client asks for. -/
def SettleOpts.call (opts : SettleOpts rt) (config feeVault : Pubkey) (u : SolMesh.StateUpdate) :
    Call rt :=
  let a : Settle rt := ⟨config, opts.node, opts.session, opts.provider, opts.consumer, opts.asset,
    feeVault, opts.payer, opts.mplCore, ixSysvarId⟩
  if opts.checkpoint then .checkpointSettle a u else .settleSession a u

variable {l : Ledger} {k x : Pubkey} {s : Session} {cfg : Config} {n : Node}
  {opts : SettleOpts rt} {discriminator : String → List UInt8} {ixs : List (Instruction rt)}

theorem configPda_of (hi : Inv rt l) (hc : (l x).data = .config cfg) : configPda rt = some x := by
  rw [configPda, pda, (hi.config x cfg hc).1.address]
  rfl

theorem feeVaultPda_of (hi : Inv rt l) (hc : (l x).data = .config cfg) :
    feeVaultPda rt = some cfg.feeVault := by
  obtain ⟨b, hb⟩ := (hi.config x cfg hc).1.feeVault
  rw [feeVaultPda, pda, hb]
  rfl

theorem setComputeUnitLimit_idle : Idle [setComputeUnitLimit rt] := by
  have hne : computeBudgetProgramId ≠ ed25519ProgramId := by decide
  intro ix hix
  obtain rfl := List.mem_singleton.mp hix
  exact ⟨rfl, hne⟩

theorem settle_method (hi : Inv rt l) (hc : (l x).data = .config cfg) :
    CosignedMethod (settle discriminator opts) opts.state ⟨opts.provider, opts.providerSig⟩
      ⟨opts.consumer, opts.consumerSig⟩ True [setComputeUnitLimit rt] discriminator
      (if opts.checkpoint then "checkpoint_settle" else "settle_session")
      (opts.call x cfg.feeVault) := by
  refine ⟨setComputeUnitLimit_idle, fun ixs => ?_⟩
  rw [settle]
  simp only [Option.bind_eq_bind, bundle_bind, configPda_of hi hc, feeVaultPda_of hi hc,
    Option.bind_some, Option.pure_def, Option.some.injEq, true_and, eq_comm (b := ixs)]
  cases hcheck : opts.checkpoint <;> simp [SettleOpts.call, hcheck]

theorem SettleOpts.For.own (h : opts.For l k s cfg) (hc : (l x).data = .config cfg) :
    (⟨x, opts.node, opts.session, opts.provider, opts.consumer, opts.asset, cfg.feeVault,
      opts.payer, opts.mplCore, ixSysvarId⟩ : Settle rt).Own l k s cfg :=
  ⟨⟨hc, h.node, h.session, h.provider, h.consumer, h.asset, h.mplCore⟩, rfl, rfl, h.room⟩

/-- The call runs the settlement with the session's accounts. -/
theorem SettleOpts.exec_call (opts : SettleOpts rt) (x feeVault : Pubkey) (u : SolMesh.StateUpdate)
    (ctx : TxContext) (l : Ledger) : (opts.call x feeVault u).exec ctx l =
      applyState rt ctx l ⟨x, opts.node, opts.session, opts.provider, opts.consumer, opts.asset,
        feeVault, opts.payer, opts.mplCore, ixSysvarId⟩ u opts.checkpoint := by
  unfold SettleOpts.call
  cases opts.checkpoint <;> rfl

/-- What an update has to pass behind the client's signatures, in the client's
numbers. -/
theorem Bundle.payable {state : Client.StateUpdate} {provider consumer : Cosigner}
    {u : SolMesh.StateUpdate} {cosigns : List InstructionData} {ctx : TxContext}
    {mint : Option Pubkey} (hb : Bundle state provider consumer u cosigns)
    (hp : provider.publicKey = s.provider) (hc : consumer.publicKey = s.consumer)
    (carries : CarriesSignature ctx provider.publicKey u.toMessageBytes ∧
      CarriesSignature ctx consumer.publicKey u.toMessageBytes) :
    (s.status = .open ∧ s.mint = mint ∧ s.lastNonce < u.nonce ∧
        verifyCosignedState ctx s k u = .ok ()) ∧ UnitsFit n s u ∧ EarningsFit cfg n s u ↔
      Payable mint k s cfg n state := by
  have hnonce := hb.same.nonce
  have howed := hb.same.owedToProvider
  have hunits := hb.same.unitsConsumed
  have howed' : state.owedToProvider.toNat = u.owedToProvider.toNat := by omega
  have hunits' : state.unitsConsumed.toNat = u.unitsConsumed.toNat := by omega
  rw [hb.verified hp hc carries, UnitsFit, EarningsFit, ← hunits', ← howed',
    UInt64.lt_iff_toNat_lt]
  constructor
  · intro h
    obtain ⟨⟨status, money, newer, session, covered, keeps⟩, units, earnings⟩ := h
    exact ⟨status, money, session, by omega, covered, keeps, units, earnings⟩
  · intro h
    have newer := h.newer
    exact ⟨⟨h.status, h.mint, by omega, h.session, h.covered, h.keeps⟩, h.units, h.earnings⟩

/-- What the settlement leaves on the chain. -/
structure Paid (rt : Runtime) (l' : Ledger) (tr : History rt) (k : Pubkey) (s : Session)
    (cfg : Config) (n : Node) (state : Client.StateUpdate) (isCheckpoint : Bool) : Prop where
  session : ∃ s', (l' k).data = .session s' ∧
    s'.status = (if isCheckpoint then .open else .settled) ∧
    (s'.lastNonce.toNat : Int) = state.nonce ∧
    (s'.settledToProvider.toNat : Int) = state.owedToProvider ∧
    (s'.pendingUnits.toNat : Int) = state.unitsConsumed
  node : ∃ n', (l' s.node).data = .node n' ∧
    n'.totalUnits.toNat =
      n.totalUnits.toNat + (state.unitsConsumed.toNat - s.pendingUnits.toNat) ∧
    n'.totalSettled.toNat = n.totalSettled.toNat + paidTo k .provider tr
  earned : ((paidTo k .provider tr + paidTo k .fee tr + s.settledToProvider.toNat : Nat) : Int) =
    state.owedToProvider
  fee : paidTo k .fee tr =
    (state.owedToProvider.toNat - s.settledToProvider.toNat) * cfg.feeBps.toNat / 10000
  refund : ((paidTo k .consumer tr : Nat) : Int) =
    if isCheckpoint then 0 else s.deposited.toNat - state.owedToProvider

/-- What a transaction with one call has paid. -/
theorem paidTo_call {ctx : TxContext} {c : Call rt} {ts : List Transfer} {mid : Ledger} (r : Role)
    (hk : c.session? = some k) :
    paidTo k r [⟨l, .call ctx c ts, mid⟩, ⟨mid, .commit, mid.purge⟩] = received r ts := by
  simp [paidTo, total, Event.transfers, hk]

/-- Where the numbers of a settlement end up, whatever it pays in. -/
theorem paid_of_records {ctx : TxContext} {c : Call rt} {mid paid : Ledger} {ts : List Transfer}
    {u : SolMesh.StateUpdate} {state : Client.StateUpdate} {isCheckpoint : Bool}
    {src toProvider toFee toConsumer : Pubkey} {pa fee rem units settled : UInt64}
    (hi : Inv rt l) (hs : (l k).data = .session s) (hn : (l s.node).data = .node n)
    (hc : (l x).data = .config cfg) (hk : c.session? = some k) (ho : c.opens = false)
    (undrained : ¬ Drains l c) (hp : ctx.precompiled rt = true) (ok : c.exec ctx l = .ok (mid, ts))
    (hstatus : s.status = .open) (same : state.Same u)
    (amounts : Amounts cfg n s u.owedToProvider (saturatingSub u.unitsConsumed s.pendingUnits)
      isCheckpoint pa fee rem units settled)
    (hts : ts = settlementTransfers k src toProvider toFee toConsumer pa fee rem)
    (hmid : mid = writeRecords paid s.node (n.credit (saturatingAdd n.reputation
      (reputationReward u.unitsConsumed)) units settled) k (s.settle u isCheckpoint)) :
    Paid rt mid.purge [⟨l, .call ctx c ts, mid⟩, ⟨mid, .commit, mid.purge⟩] k s cfg n state
      isCheckpoint := by
  have hi' := Step.inv hi (.call hp ok)
  obtain ⟨s₁, s₂, mv, called⟩ := Call.session_call hp ok hk ho
  have alive := called.lamports_pos hi hk undrained
  have hfee := (hi.config x cfg hc).1.fee
  have values := amounts.values (by omega)
  have apart : s.node ≠ k := by
    intro he
    rw [he, hs] at hn
    cases hn
  have hsession : (mid k).data = .session (s.settle u isCheckpoint) := by
    rw [hmid, writeRecords, Ledger.setData_self]
  have hnode : (mid s.node).data = .node (n.credit
      (saturatingAdd n.reputation (reputationReward u.unitsConsumed)) units settled) := by
    rw [hmid, writeRecords, Ledger.setData_data, if_neg apart, Ledger.setData_self]
  have sessionKept : (mid.purge k).data = .session (s.settle u isCheckpoint) := by
    rw [mid.purge_of_pos k alive, hsession]
  have nodeKept : (mid.purge s.node).data = .node (n.credit
      (saturatingAdd n.reputation (reputationReward u.unitsConsumed)) units settled) := by
    rw [mid.purge_of_pos s.node (hi'.node _ _ hnode).2, hnode]
  have hsame := same.owedToProvider
  have hworked := same.unitsConsumed
  have hwork := values.units
  rw [saturatingSub_toNat] at hwork
  refine ⟨⟨_, sessionKept, ?_, same.nonce, hsame, hworked⟩, ⟨_, nodeKept, ?_, ?_⟩, ?_, ?_, ?_⟩
  · rw [Session.settle, hstatus]
  · simp only [Node.credit, hwork]
    omega
  · rw [paidTo_call .provider hk, hts, received_provider_settlement]
    exact values.settled
  · have hdelta := values.delta
    rw [paidTo_call .provider hk, paidTo_call .fee hk, hts, received_provider_settlement,
      received_fee_settlement]
    omega
  · have howed : state.owedToProvider.toNat = u.owedToProvider.toNat := by omega
    rw [paidTo_call .fee hk, hts, received_fee_settlement, values.fee, howed]
  · rw [paidTo_call .consumer hk, hts, received_consumer_settlement]
    cases hcheck : isCheckpoint with
    | true =>
      rw [values.kept hcheck]
      rfl
    | false =>
      have hrest := values.rest hcheck
      simp only [Bool.false_eq_true, if_false]
      omega

theorem paid_of_exec {ctx : TxContext} {mid : Ledger} {ts : List Transfer}
    {u : SolMesh.StateUpdate} (hi : Inv rt l) (hs : (l k).data = .session s)
    (hn : (l s.node).data = .node n) (hc : (l x).data = .config cfg) (own : opts.For l k s cfg)
    (same : opts.state.Same u) (hp : ctx.precompiled rt = true)
    (ok : (opts.call x cfg.feeVault u).exec ctx l = .ok (mid, ts)) :
    Paid rt mid.purge [⟨l, .call ctx (opts.call x cfg.feeVault u) ts, mid⟩,
      ⟨mid, .commit, mid.purge⟩] k s cfg n opts.state opts.checkpoint := by
  have hk : (opts.call x cfg.feeVault u).session? = some k := by
    rw [← own.session, SettleOpts.call]
    cases opts.checkpoint <;> rfl
  have undrained : ¬ Drains l (opts.call x cfg.feeVault u) := by
    intro hd
    have hignores := hd.1
    rw [SettleOpts.call] at hignores
    cases hcheck : opts.checkpoint <;> simp [hcheck, Call.ignoresMint] at hignores
  have ho : (opts.call x cfg.feeVault u).opens = false := by
    rw [SettleOpts.call]
    cases opts.checkpoint <;> rfl
  have applied := ok
  rw [opts.exec_call] at applied
  obtain ⟨cfg', n', s', pa, fee, rem, units, settled, paid, hload, hstatus, _, _, _, amounts, hts,
    _, hmid⟩ := applyState_ok.mp applied
  cases ((own.own hc).loaded hi hs hn).symm.trans hload
  rw [own.session] at hts hmid
  rw [own.node] at hmid
  exact paid_of_records hi hs hn hc hk ho undrained hp ok hstatus same amounts hts hmid

/-- A settlement that runs keeps the rent rule where its receivers can hold it. -/
theorem settle_rentKept {u : SolMesh.StateUpdate} {ctx : TxContext} {mid : Ledger}
    {ts : List Transfer} (hi : Inv rt l) (hs : (l k).data = .session s)
    (hn : (l s.node).data = .node n) (hc : (l x).data = .config cfg) (own : opts.For l k s cfg)
    (same : opts.state.Same u) (ok : (opts.call x cfg.feeVault u).exec ctx l = .ok (mid, ts)) :
    RentKept rt l mid ↔
      Receivable rt l s cfg opts.state.owedToProvider.toNat opts.checkpoint := by
  rw [opts.exec_call] at ok
  obtain ⟨cfg', n', s', pa, fee, rem, units, settled, paid, hload, hstatus, hmint, _, hverify,
    amounts, rfl, moved, rfl⟩ := applyState_ok.mp ok
  cases ((own.own hc).loaded hi hs hn).symm.trans hload
  obtain ⟨_, _, covered, _⟩ := verifyCosignedState_ok.mp hverify
  have alive : s.status.terminal = false := by simp [hstatus, SessionStatus.terminal]
  have howed : opts.state.owedToProvider.toNat = u.owedToProvider.toNat := by
    have := same.owedToProvider
    omega
  rw [howed]
  rw [own.session, own.provider, own.consumer] at moved
  rw [own.session, own.node]
  exact rentKept_settlement hi hs alive hmint hn hc amounts covered moved _ _

/-- Behind the client's signatures the program asks for nothing else, and the
runtime that the receivers can hold what they get. -/
theorem settle_accepts {now : Int64} {u : SolMesh.StateUpdate} {ctx : TxContext} (hi : Inv rt l)
    (hs : (l k).data = .session s) (hn : (l s.node).data = .node n) (hc : (l x).data = .config cfg)
    (own : opts.For l k s cfg) (received : Received rt opts.state ⟨opts.provider, opts.providerSig⟩
      ⟨opts.consumer, opts.consumerSig⟩ now u ctx) :
    (∃ mid ts, (opts.call x cfg.feeVault u).exec ctx l = .ok (mid, ts) ∧ RentKept rt l mid) ↔
      Payable none k s cfg n opts.state ∧
        Receivable rt l s cfg opts.state.owedToProvider.toNat opts.checkpoint := by
  obtain ⟨_, hb⟩ := received.bundle
  rw [← hb.payable own.provider own.consumer received.carries]
  constructor
  · intro executes
    obtain ⟨mid, ts, ok, kept⟩ := executes
    refine ⟨?_, (settle_rentKept hi hs hn hc own hb.same ok).mp kept⟩
    rw [opts.exec_call] at ok
    obtain ⟨h, fit⟩ := applyState_accepted hi hs (own.own hc) hn ok
    exact ⟨⟨h.status, h.mint, h.newer, h.verified⟩, fit⟩
  · intro h
    obtain ⟨⟨⟨status, mint, newer, verified⟩, units, earnings⟩, receivable⟩ := h
    obtain ⟨⟨mid, ts⟩, ok⟩ : ∃ r, (opts.call x cfg.feeVault u).exec ctx l = .ok r := by
      rw [opts.exec_call]
      exact applyState_exists hi hs (own.own hc) hn (.of_verified status mint newer verified)
        units earnings
    exact ⟨mid, ts, ok, (settle_rentKept hi hs hn hc own hb.same ok).mpr receivable⟩

/-- A state is settled if and only if it is countersigned, the session can pay it
and its receivers can hold it. -/
theorem settle_executes {now : Int64} (hi : Inv rt l) (hs : (l k).data = .session s)
    (hn : (l s.node).data = .node n) (hc : (l x).data = .config cfg) (own : opts.For l k s cfg) :
    (∃ ixs l' tr, settle discriminator opts = some ixs ∧
        (Transaction.mk ixs now).exec l = .ok (l', tr)) ↔
      Countersigned rt opts.state ⟨opts.provider, opts.providerSig⟩
        ⟨opts.consumer, opts.consumerSig⟩ ∧ Payable none k s cfg n opts.state ∧
      Receivable rt l s cfg opts.state.owedToProvider.toNat opts.checkpoint :=
  (settle_method hi hc).executes_iff
    (fun _ _ received _ => settle_accepts hi hs hn hc own received) fun _ => trivial

/-- The chain then has its numbers. -/
theorem settle_paid {now : Int64} {l' : Ledger} {tr : History rt} (hi : Inv rt l)
    (hs : (l k).data = .session s) (hn : (l s.node).data = .node n)
    (hc : (l x).data = .config cfg) (own : opts.For l k s cfg)
    (made : settle discriminator opts = some ixs)
    (exec : (Transaction.mk ixs now).exec l = .ok (l', tr)) :
    Paid rt l' tr k s cfg n opts.state opts.checkpoint := by
  obtain ⟨_, _, u, ctx, mid, ts, received, ok, _, rfl, rfl⟩ :=
    (settle_method hi hc).executed made exec
  obtain ⟨_, hb⟩ := received.bundle
  exact paid_of_exec hi hs hn hc own hb.same received.precompiled ok

end

/-- The client's settlement and checkpoint go through if and only if both
parties have signed the state, the session can pay it and the rent rule lets the
receivers hold it, and then the chain has the numbers of the client's state. -/
theorem settle_executes_iff {rt : Runtime} {start l : Ledger} {tr : History rt}
    (genesis : Genesis start) (run : Run (Step rt) start tr l) {k x : Pubkey} {s : Session}
    {n : Node} {cfg : Config} (hs : (l k).data = .session s) (hn : (l s.node).data = .node n)
    (hc : (l x).data = .config cfg) (opts : SettleOpts rt) (own : opts.For l k s cfg)
    (discriminator : String → List UInt8) (now : Int64) :
    ((∃ ixs l' tr', settle discriminator opts = some ixs ∧
        (Transaction.mk ixs now).exec l = .ok (l', tr')) ↔
      Countersigned rt opts.state ⟨opts.provider, opts.providerSig⟩
        ⟨opts.consumer, opts.consumerSig⟩ ∧ Payable none k s cfg n opts.state ∧
      Receivable rt l s cfg opts.state.owedToProvider.toNat opts.checkpoint) ∧
    ∀ ixs l' tr', settle discriminator opts = some ixs →
      (Transaction.mk ixs now).exec l = .ok (l', tr') →
        Paid rt l' tr' k s cfg n opts.state opts.checkpoint := by
  have hi := run_inv genesis run
  exact ⟨settle_executes hi hs hn hc own,
    fun ixs l' tr' made exec => settle_paid hi hs hn hc own made exec⟩

section
open Localnet Transaction

/-- The provider's client settles a state for session 7. -/
def settleOpts : SettleOpts Localnet.rt where
  payer := Localnet.provider
  node := Localnet.node
  asset := 16
  provider := 2
  consumer := 3
  session := Localnet.session 7
  mplCore := Localnet.mplCore
  state := clientState
  providerSig := 2
  consumerSig := 3
  checkpoint := false

theorem settle_executes_iff_fresh : ∃ ixs l' tr',
    settle (fun _ => []) settleOpts = some ixs ∧
      (Transaction.mk ixs 5).exec freshSession.1 = .ok (l', tr') ∧
      paidTo (Localnet.session 7) .consumer tr' = 700000 := by
  have run : Run (Step Localnet.rt) Localnet.start freshSession.2 freshSession.1 :=
    submit_run _ _
  have hs : (freshSession.1 (Localnet.session 7)).data =
      .session (opened 7 1000000 none 0) := by decide +kernel
  have hn : (freshSession.1 (opened 7 1000000 none 0).node).data = .node registeredNode := by
    decide +kernel
  have hc : (freshSession.1 Localnet.config).data = .config deployedConfig := by decide +kernel
  have own : settleOpts.For freshSession.1 (Localnet.session 7) (opened 7 1000000 none 0)
      deployedConfig := by
    refine ⟨rfl, rfl, rfl, rfl, rfl, rfl, ?_⟩
    intro role
    cases role <;> decide +kernel
  have receivable : Receivable Localnet.rt freshSession.1 (opened 7 1000000 none 0) deployedConfig
      settleOpts.state.owedToProvider.toNat settleOpts.checkpoint := by
    intro role
    cases role <;> exact mayHold_wallet (by decide +kernel) (by decide +kernel)
  obtain ⟨executes, paid⟩ :=
    settle_executes_iff start_genesis run hs hn hc settleOpts own (fun _ => []) 5
  obtain ⟨u, _, hmsg⟩ := serializeState_exists (s := clientState) (by constructor <;> decide)
  obtain ⟨ixs, l', tr', made, exec⟩ := executes.mpr
    ⟨⟨_, hmsg, cosigners_signed _⟩, (by constructor <;> decide +kernel), receivable⟩
  have refund := (paid ixs l' tr' made exec).refund
  exact ⟨ixs, l', tr', made, exec, Int.ofNat.inj refund⟩

end

end SolMesh.Sdk
