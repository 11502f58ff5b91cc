import SolMesh.Proofs.SdkSettlement
import SolMesh.Proofs.Twins

namespace SolMesh
open Outcome Words Runs

section
variable {rt : Runtime} {ctx : TxContext} {l : Ledger} {k m x : Pubkey} {s : Session}
  {cfg : Config} {n : Node} {a : SettleSpl rt} {u : StateUpdate} {isCheckpoint : Bool}

/-- A session that is not over has its escrow in tokens when its receivers'
accounts have room. -/
theorem Inv.splEscrow (hi : Inv rt l) (hs : (l k).data = .session s)
    (alive : s.status.terminal = false) (hm : s.mint = some m) (hc : (l x).data = .config cfg)
    {dest : Role → Pubkey} (receives : ∀ r, OwnedBy l (dest r) (s.payee cfg.feeVault r) ∧
      TakesTokens l (dest r) m s.unsettled) :
    SplEscrow rt k s m s.vaultBump cfg.feeVault
      ⟨rt.vaultAuthority k, rt.vaultAta k m, dest⟩ l := by
  have escrowed := (hi.session k s hs).escrow alive
  have authority := escrowed.authority m hm
  obtain ⟨_, vault⟩ := escrowed.vault m hm
  refine ⟨authority, vault, fun r he => ?_, fun r => ?_⟩
  · -- the receivers are wallets, and the vault belongs to a derived address
    obtain ⟨t, ht, _, hto, _⟩ := vault
    obtain ⟨t', ht', hto'⟩ := (receives r).1
    change dest r = rt.vaultAta k m at he
    rw [he, ht] at ht'
    cases ht'
    exact hi.payee_ne_vault hs hc authority r (hto'.symm.trans hto)
  · obtain ⟨⟨t, ht, hto⟩, t', ht', htm, room⟩ := receives r
    rw [ht] at ht'
    cases ht'
    exact ⟨t, ht, htm, hto, room⟩

/-- A settlement in tokens is called with the session's own accounts. -/
structure SettleSpl.Own (l : Ledger) (k m : Pubkey) (s : Session) (cfg : Config)
    (a : SettleSpl rt) : Prop where
  payout : a.toPayoutSpl.Own l k m s cfg
  instructionsSysvar : a.instructionsSysvar = ixSysvarId

theorem SettleSpl.Own.loaded (own : a.Own l k m s cfg) (hi : Inv rt l)
    (hs : (l k).data = .session s) (hn : (l s.node).data = .node n) (hm : s.mint = some m)
    (alive : s.status.terminal = false) : a.load rt l = .ok (cfg, n, s) := by
  obtain ⟨n', hn', hparties⟩ := own.payout.parties.loaded hi hs
  obtain rfl : n = n' := by simpa [hn] using hn'
  have escrow := hi.splEscrow hs alive hm own.payout.parties.config own.payout.dest
  obtain ⟨t, ht, _⟩ := escrow.vault
  have hp := own.payout
  refine SettleSpl.load_ok.mpr ⟨hparties, ⟨⟨s.vaultBump, ?_⟩, ⟨t, hp.vaultToken ▸ ht⟩, ?_, ?_,
    hp.fee.1⟩, own.instructionsSysvar⟩
  · rw [hp.parties.session, hp.vaultAuthority]
    exact escrow.authority
  · exact hp.parties.provider ▸ hp.provider.1
  · exact hp.parties.consumer ▸ hp.consumer.1

/-- The payouts of a settlement in tokens cannot fail. -/
theorem SettleSpl.Own.pays (own : a.Own l k m s cfg) (hi : Inv rt l)
    (hs : (l k).data = .session s) (hm : s.mint = some m) (alive : s.status.terminal = false)
    {pa fee rem : UInt64} (covered : pa.toNat + fee.toNat + rem.toNat ≤ s.unsettled) :
    ∃ mid, TokensPaid rt a.vaultAuthority a.session s.vaultBump l (settlementTransfers a.session
      a.vaultToken a.providerToken a.feeToken a.consumerToken pa fee rem) mid := by
  have hp := own.payout
  have escrow := hi.splEscrow hs alive hm hp.parties.config hp.dest
  rw [hp.vaultAuthority, hp.vaultToken, hp.parties.session]
  exact escrow.pays (sharesOf pa fee rem) (by rwa [total_sharesOf])

/-- A settlement in tokens asks for what one in lamports does. -/
theorem applyStateSpl_iff (hi : Inv rt l) (hs : (l k).data = .session s) (hm : s.mint = some m)
    (own : a.Own l k m s cfg) (hn : (l s.node).data = .node n) :
    (∃ r, applyStateSpl rt ctx l a u isCheckpoint = .ok r) ↔
      (s.status = .open ∧ s.mint = some m ∧ s.lastNonce < u.nonce ∧
        verifyCosignedState ctx s k u = .ok ()) ∧ UnitsFit n s u ∧ EarningsFit cfg n s u := by
  have hfee := (hi.config _ cfg own.payout.parties.config).1.fee
  constructor
  · intro h
    obtain ⟨r, h⟩ := h
    obtain ⟨cfg', n', s', pa, fee, rem, units, settled, mid, hload, hstatus, _, hnonce, hverify,
      amounts, _⟩ := applyStateSpl_ok.mp h
    obtain ⟨hl, _⟩ := SettleSpl.load_ok.mp hload
    obtain rfl : s = s' := by simpa [own.payout.parties.session, hs] using hl.sessionData
    have alive : s.status.terminal = false := by simp [hstatus, SessionStatus.terminal]
    cases (own.loaded hi hs hn hm alive).symm.trans hload
    have values := amounts.values (by omega)
    have hunits := values.units
    have hsettled := values.settled
    rw [saturatingSub_toNat] at hunits
    rw [values.net] at hsettled
    have hu := units.toNat_lt
    have ht := settled.toNat_lt
    exact ⟨⟨hstatus, hm, hnonce, own.payout.parties.session ▸ hverify⟩, by rw [UnitsFit]; omega,
      by rw [EarningsFit]; omega⟩
  · intro h
    obtain ⟨⟨hstatus, _, hnonce, hverify⟩, hunits, hearnings⟩ := h
    obtain ⟨_, _, hhi, hlo, _⟩ := verifyCosignedState_ok.mp hverify
    have alive : s.status.terminal = false := by simp [hstatus, SessionStatus.terminal]
    rw [UnitsFit, ← saturatingSub_toNat] at hunits
    obtain ⟨pa, fee, rem, units, settled, amounts⟩ : ∃ pa fee rem units settled,
        Amounts cfg n s u.owedToProvider (saturatingSub u.unitsConsumed s.pendingUnits)
          isCheckpoint pa fee rem units settled :=
      Amounts.exists (by omega) hlo hhi hunits hearnings
    obtain ⟨mid, hpaid⟩ := own.pays hi hs hm alive (amounts.covered hhi)
    exact ⟨_, applyStateSpl_ok.mpr ⟨cfg, n, s, pa, fee, rem, units, settled, mid,
      own.loaded hi hs hn hm alive, hstatus, by simp [hm], hnonce,
      own.payout.parties.session.symm ▸ hverify, amounts, rfl, hpaid, rfl⟩⟩

end

namespace Sdk
open Client

section
variable {rt : Runtime}

/-- The accounts the caller names for the receivers. -/
def SettleSplOpts.dest (opts : SettleSplOpts rt) : Role → Pubkey
  | .provider => opts.providerToken
  | .fee => opts.feeToken
  | .consumer => opts.consumerToken

/-- The options name the session, its vault and its own accounts, and no
receiver can overflow. -/
structure SettleSplOpts.For (l : Ledger) (k m : Pubkey) (s : Session) (cfg : Config)
    (opts : SettleSplOpts rt) : Prop where
  node : opts.node = s.node
  asset : opts.asset = s.asset
  provider : opts.provider = s.provider
  consumer : opts.consumer = s.consumer
  session : opts.session = k
  mplCore : opts.mplCore = cfg.mplCoreProgram
  vaultToken : opts.vaultToken = rt.vaultAta k m
  receives : ∀ r, OwnedBy l (opts.dest r) (s.payee cfg.feeVault r) ∧
    TakesTokens l (opts.dest r) m s.unsettled

/-- The program's settlement in tokens that the client asks for. -/
def SettleSplOpts.call (opts : SettleSplOpts rt) (config vaultAuthority : Pubkey)
    (u : SolMesh.StateUpdate) : Call rt :=
  let a : SettleSpl rt :=
    ⟨⟨config, opts.node, opts.session, opts.provider, opts.consumer, opts.asset, vaultAuthority,
      opts.vaultToken, opts.providerToken, opts.consumerToken, opts.feeToken, opts.payer,
      opts.mplCore⟩, ixSysvarId⟩
  if opts.checkpoint then .checkpointSettleSpl a u else .settleSessionSpl a u

/-- The tokens that the roles were paid for session `k` have left the vault `v`
for the receivers' accounts, and no other tokens have moved. -/
def Moved (l l' : Ledger) (k v : Pubkey) (dest : Role → Pubkey) (tr : History rt) : Prop :=
  ∀ y t, (l y).data = .token t → 0 < (l y).lamports.toNat → ∃ t', (l' y).data = .token t' ∧
    t'.mint = t.mint ∧ t'.owner = t.owner ∧
    t'.amount.toNat + (if y = v then ([Role.provider, .fee, .consumer].map (paidTo k · tr)).sum
      else 0) = t.amount.toNat +
        ([Role.provider, .fee, .consumer].map fun r => if y = dest r then paidTo k r tr else 0).sum

variable {l : Ledger} {k m x : Pubkey} {s : Session} {cfg : Config} {n : Node}
  {opts : SettleSplOpts rt} {discriminator : String → List UInt8} {ixs : List (Instruction rt)}

variable (opts discriminator) in
theorem settleSpl_method (hi : Inv rt l) (hc : (l x).data = .config cfg) :
    CosignedMethod (settleSpl discriminator opts) opts.state ⟨opts.provider, opts.providerSig⟩
      ⟨opts.consumer, opts.consumerSig⟩
      (vaultAuthority rt opts.session = some (rt.vaultAuthority opts.session))
      [setComputeUnitLimit rt] discriminator
      (if opts.checkpoint then "checkpoint_settle_spl" else "settle_session_spl")
      (opts.call x (rt.vaultAuthority opts.session)) := by
  refine ⟨setComputeUnitLimit_idle, fun ixs => ?_⟩
  rw [settleSpl]
  simp only [Option.bind_eq_bind, bundle_bind, configPda_of hi hc, Option.bind_some]
  simp only [Option.bind_eq_some_iff, Option.pure_def, Option.some.injEq, eq_comm (b := ixs)]
  constructor
  · intro h
    obtain ⟨u, cosigns, hb, v, hv, rfl⟩ := h
    obtain ⟨rfl, _⟩ := vaultAuthority_some.mp hv
    refine ⟨hv, u, cosigns, hb, ?_⟩
    cases hcheck : opts.checkpoint <;> simp [SettleSplOpts.call, hcheck]
  · intro h
    obtain ⟨hv, u, cosigns, hb, rfl⟩ := h
    refine ⟨u, cosigns, hb, _, hv, ?_⟩
    cases hcheck : opts.checkpoint <;> simp [SettleSplOpts.call, hcheck]

theorem SettleSplOpts.For.own (h : opts.For l k m s cfg) (hc : (l x).data = .config cfg) :
    (⟨⟨x, opts.node, opts.session, opts.provider, opts.consumer, opts.asset,
      rt.vaultAuthority k, opts.vaultToken, opts.providerToken, opts.consumerToken, opts.feeToken,
      opts.payer, opts.mplCore⟩, ixSysvarId⟩ : SettleSpl rt).Own l k m s cfg :=
  ⟨⟨⟨hc, h.node, h.session, h.provider, h.consumer, h.asset, h.mplCore⟩, rfl, h.vaultToken,
    h.receives .provider, h.receives .consumer, h.receives .fee⟩, rfl⟩

/-- The call runs the settlement with the accounts of the options. -/
theorem SettleSplOpts.exec_call (opts : SettleSplOpts rt) (x v : Pubkey) (u : SolMesh.StateUpdate)
    (ctx : TxContext) (l : Ledger) : (opts.call x v u).exec ctx l =
      applyStateSpl rt ctx l ⟨⟨x, opts.node, opts.session, opts.provider, opts.consumer,
        opts.asset, v, opts.vaultToken, opts.providerToken, opts.consumerToken, opts.feeToken,
        opts.payer, opts.mplCore⟩, ixSysvarId⟩ u opts.checkpoint := by
  unfold SettleSplOpts.call
  cases opts.checkpoint <;> rfl

/-- Behind payouts in tokens and the writing of the records, the tokens have
moved as the receivers were paid. -/
theorem moved_of_paid {ctx : TxContext} {c : Call rt} {mid paid : Ledger} {authority v : Pubkey}
    {b : UInt8} {dest : Role → Pubkey} {pa fee rem : UInt64} {n' : Node} {s' : Session}
    (hk : c.session? = some k) (hs : (l k).data = .session s) (hn : (l s.node).data = .node n)
    (hpaid : TokensPaid rt authority k b l (settlementTransfers k v (dest .provider) (dest .fee)
      (dest .consumer) pa fee rem) paid)
    (hmid : mid = writeRecords paid s.node n' k s') :
    Moved l mid.purge k v dest [⟨l, .call ctx c (settlementTransfers k v (dest .provider)
      (dest .fee) (dest .consumer) pa fee rem), mid⟩, ⟨mid, .commit, mid.purge⟩] := by
  have moves := hpaid.moves
  intro y t ht alive
  obtain ⟨t', ht', mint, owner, amount⟩ := moves.token y t ht
  have apart : y ≠ k ∧ y ≠ s.node := by
    constructor
    · intro he
      rw [he, hs] at ht
      cases ht
    · intro he
      rw [he, hn] at ht
      cases ht
  have lamports : (mid y).lamports = (l y).lamports := by
    rw [hmid, writeRecords, Ledger.setData_lamports, Ledger.setData_lamports, moves.lamports]
  have data : (mid y).data = .token t' := by
    rw [hmid, writeRecords, Ledger.setData_data, if_neg apart.1, Ledger.setData_data,
      if_neg apart.2, ht']
  refine ⟨t', ?_, mint, owner, ?_⟩
  · rw [mid.purge_of_pos y (lamports ▸ alive), data]
  · simp only [List.map_cons, List.map_nil, List.sum_cons, List.sum_nil, paidTo_call _ hk,
      received_provider_settlement, received_fee_settlement, received_consumer_settlement]
    simp only [settlementTransfers, debit_cons, debit_nil, credit_cons, credit_nil] at amount
    by_cases hv : y = v <;> simpa [hv] using amount

theorem settleSpl_rentKept {ctx : TxContext} {mid : Ledger} {ts : List Transfer} {v : Pubkey}
    {u : SolMesh.StateUpdate} (ok : (opts.call x v u).exec ctx l = .ok (mid, ts)) :
    RentKept rt l mid := by
  rw [opts.exec_call] at ok
  obtain ⟨_, _, _, _, _, _, _, _, _, hload, _, _, _, _, _, _, hpaid, rfl⟩ :=
    applyStateSpl_ok.mp ok
  obtain ⟨hl, _⟩ := SettleSpl.load_ok.mp hload
  exact hpaid.rentKept hl.nodeData hl.sessionData _ _

/-- What a settlement in tokens has paid, and where it went. -/
theorem paidSpl_of_exec {ctx : TxContext} {mid : Ledger} {ts : List Transfer}
    {u : SolMesh.StateUpdate} (hi : Inv rt l) (hs : (l k).data = .session s)
    (hm : s.mint = some m) (hn : (l s.node).data = .node n) (hc : (l x).data = .config cfg)
    (own : opts.For l k m s cfg) (same : opts.state.Same u) (hp : ctx.precompiled rt = true)
    (ok : (opts.call x (rt.vaultAuthority k) u).exec ctx l = .ok (mid, ts)) :
    let tr : History rt := [⟨l, .call ctx (opts.call x (rt.vaultAuthority k) u) ts, mid⟩,
      ⟨mid, .commit, mid.purge⟩]
    Paid rt mid.purge tr k s cfg n opts.state opts.checkpoint ∧
      Moved l mid.purge k opts.vaultToken opts.dest tr := by
  have hk : (opts.call x (rt.vaultAuthority k) u).session? = some k := by
    rw [← own.session, SettleSplOpts.call]
    cases opts.checkpoint <;> rfl
  have undrained : ¬ Drains l (opts.call x (rt.vaultAuthority k) u) := by
    intro hd
    have hignores := hd.1
    rw [SettleSplOpts.call] at hignores
    cases hcheck : opts.checkpoint <;> simp [hcheck, Call.ignoresMint] at hignores
  have ho : (opts.call x (rt.vaultAuthority k) u).opens = false := by
    rw [SettleSplOpts.call]
    cases opts.checkpoint <;> rfl
  have applied := ok
  rw [opts.exec_call] at applied
  obtain ⟨cfg', n', s', pa, fee, rem, units, settled, paid, hload, hstatus, _, _, _, amounts, hts,
    hpaid, hmid⟩ := applyStateSpl_ok.mp applied
  obtain ⟨hl, _⟩ := SettleSpl.load_ok.mp hload
  obtain rfl : s = s' := by simpa [own.session, hs] using hl.sessionData
  have alive : s.status.terminal = false := by simp [hstatus, SessionStatus.terminal]
  cases ((own.own hc).loaded hi hs hn hm alive).symm.trans hload
  rw [own.session] at hts hmid hpaid
  rw [own.node] at hmid
  refine ⟨paid_of_records hi hs hn hc hk ho undrained hp ok hstatus same amounts hts hmid, ?_⟩
  subst hts
  exact moved_of_paid hk hs hn hpaid hmid

end

/-- The client's settlement and checkpoint in tokens go through if and only if
both parties have signed the state and the session can pay it. Then the chain
has the numbers of the client's state, and exactly the tokens they say have left
the vault for the accounts that the client named. -/
theorem settleSpl_executes_iff {rt : Runtime} {start l : Ledger} {tr : History rt}
    (genesis : Genesis start) (run : Run (Step rt) start tr l) {k m x : Pubkey} {s : Session}
    {n : Node} {cfg : Config} (hs : (l k).data = .session s) (hm : s.mint = some m)
    (hn : (l s.node).data = .node n) (hc : (l x).data = .config cfg) (opts : SettleSplOpts rt)
    (own : opts.For l k m s cfg) (discriminator : String → List UInt8) (now : Int64) :
    ((∃ ixs l' tr', settleSpl discriminator opts = some ixs ∧
        (Transaction.mk ixs now).exec l = .ok (l', tr')) ↔
      Countersigned rt opts.state ⟨opts.provider, opts.providerSig⟩
        ⟨opts.consumer, opts.consumerSig⟩ ∧ Payable (some m) k s cfg n opts.state) ∧
    ∀ ixs l' tr', settleSpl discriminator opts = some ixs →
      (Transaction.mk ixs now).exec l = .ok (l', tr') →
        Paid rt l' tr' k s cfg n opts.state opts.checkpoint ∧
          Moved l l' k opts.vaultToken opts.dest tr' := by
  have hi := run_inv genesis run
  have sent := settleSpl_method opts discriminator hi hc
  rw [own.session] at sent
  refine ⟨sent.executes_iff (fun u ctx received _ => ?_) fun payable => ?_,
    fun ixs l' tr' made exec => ?_⟩
  · obtain ⟨_, hb⟩ := received.bundle
    have accepted : (∃ r, (opts.call x (rt.vaultAuthority k) u).exec ctx l = .ok r) ↔
        Payable (some m) k s cfg n opts.state := by
      rw [opts.exec_call, applyStateSpl_iff hi hs hm (own.own hc) hn,
        hb.payable own.provider own.consumer received.carries]
    rw [← accepted]
    constructor
    · intro executes
      obtain ⟨mid, ts, ok, _⟩ := executes
      exact ⟨_, ok⟩
    · intro executes
      obtain ⟨⟨mid, ts⟩, ok⟩ := executes
      exact ⟨mid, ts, ok, settleSpl_rentKept ok⟩
  · have alive : s.status.terminal = false := by simp [payable.status, SessionStatus.terminal]
    rw [vaultAuthority, pda, ((hi.session k s hs).escrow alive).authority m hm]
    rfl
  · obtain ⟨_, _, u, ctx, mid, ts, received, ok, _, rfl, rfl⟩ := sent.executed made exec
    obtain ⟨_, hb⟩ := received.bundle
    exact paidSpl_of_exec hi hs hm hn hc own hb.same received.precompiled ok

section
open Localnet Transaction

/-- A session in tokens that nobody has used yet. -/
def freshSplSession : Ledger × History Localnet.rt :=
  submit Localnet.start (deploy ++ [openSpl 7 1000000])

def settleSplOpts : SettleSplOpts Localnet.rt where
  payer := Localnet.provider
  node := Localnet.node
  asset := 16
  provider := 2
  consumer := 3
  session := Localnet.session 7
  mplCore := Localnet.mplCore
  state := clientState
  providerSig := 2
  consumerSig := 3
  vaultToken := Localnet.vaultToken 7
  providerToken := Localnet.providerToken
  consumerToken := Localnet.consumerToken
  feeToken := Localnet.feeToken
  checkpoint := false

/-- The provider's account has its 300000 less half a percent. -/
theorem settleSpl_executes_iff_fresh : ∃ ixs l' tr' t,
    settleSpl (fun _ => []) settleSplOpts = some ixs ∧
      (Transaction.mk ixs 5).exec freshSplSession.1 = .ok (l', tr') ∧
      (l' Localnet.providerToken).data = .token t ∧ t.amount.toNat = 298500 := by
  have run : Run (Step Localnet.rt) Localnet.start freshSplSession.2 freshSplSession.1 :=
    submit_run _ _
  have hs : (freshSplSession.1 (Localnet.session 7)).data =
      .session (opened 7 1000000 (some Localnet.mint) 255) := by decide +kernel
  have hn : (freshSplSession.1 (opened 7 1000000 (some Localnet.mint) 255).node).data =
      .node registeredNode := by
    decide +kernel
  have hc : (freshSplSession.1 Localnet.config).data = .config deployedConfig := by decide +kernel
  have own : settleSplOpts.For freshSplSession.1 (Localnet.session 7) Localnet.mint
      (opened 7 1000000 (some Localnet.mint) 255) deployedConfig := by
    refine ⟨rfl, rfl, rfl, rfl, rfl, rfl, by decide +kernel, ?_⟩
    intro role
    cases role with
    | provider => exact ⟨⟨⟨Localnet.mint, 2, 0⟩, by decide +kernel, rfl⟩,
        ⟨Localnet.mint, 2, 0⟩, by decide +kernel, rfl, by decide⟩
    | fee => exact ⟨⟨⟨Localnet.mint, Localnet.feeVault, 0⟩, by decide +kernel, rfl⟩,
        ⟨Localnet.mint, Localnet.feeVault, 0⟩, by decide +kernel, rfl, by decide⟩
    | consumer => exact ⟨⟨⟨Localnet.mint, 3, 999000000⟩, by decide +kernel, rfl⟩,
        ⟨Localnet.mint, 3, 999000000⟩, by decide +kernel, rfl, by decide⟩
  obtain ⟨executes, paid⟩ :=
    settleSpl_executes_iff start_genesis run hs rfl hn hc settleSplOpts own (fun _ => []) 5
  obtain ⟨u, _, hmsg⟩ := serializeState_exists (s := clientState) (by constructor <;> decide)
  obtain ⟨ixs, l', tr', made, exec⟩ := executes.mpr
    ⟨⟨_, hmsg, cosigners_signed _⟩, by constructor <;> decide +kernel⟩
  obtain ⟨numbers, moved⟩ := paid ixs l' tr' made exec
  obtain ⟨t, ht, _, _, amount⟩ := moved Localnet.providerToken ⟨Localnet.mint, 2, 0⟩
    (by decide +kernel) (by decide +kernel)
  have earned : paidTo (Localnet.session 7) .provider tr' + paidTo (Localnet.session 7) .fee tr' =
      300000 := Int.ofNat.inj numbers.earned
  have fee : paidTo (Localnet.session 7) .fee tr' = 1500 := numbers.fee
  have got : t.amount.toNat = paidTo (Localnet.session 7) .provider tr' := by
    have away : Localnet.providerToken ≠ Localnet.vaultToken 7 := by decide +kernel
    have others : Localnet.providerToken ≠ Localnet.feeToken ∧
        Localnet.providerToken ≠ Localnet.consumerToken := by decide
    simpa [away, settleSplOpts, SettleSplOpts.dest, others.1, others.2] using amount
  exact ⟨ixs, l', tr', t, made, exec, ht, by omega⟩

end

end Sdk

end SolMesh
