import SolMesh.Model.Localnet
import SolMesh.Proofs.Escrow

namespace SolMesh
open Outcome Words Runs

/-- The provider's share of what a dispute left to pay, the fee taken off. -/
def Session.share (s : Session) (feeBps : UInt16) : Nat :=
  (s.pendingPayout.toNat - s.settledToProvider.toNat) -
    (s.pendingPayout.toNat - s.settledToProvider.toNat) * feeBps.toNat / 10000

/-- The trackers of the session's node have room for its work and earnings. -/
def TrackersFit (l : Ledger) (cfg : Config) (s : Session) : Prop :=
  ∃ n, (l s.node).data = .node n ∧ n.totalUnits.toNat + s.pendingUnits.toNat < 2 ^ 64 ∧
    n.totalSettled.toNat + s.share cfg.feeBps < 2 ^ 64

/-- The parties and records an exit of session `k` asks for are its own. -/
structure OwnParties (l : Ledger) (k : Pubkey) (s : Session) (cfg : Config)
    (config node session provider consumer asset mplCoreProgram : Pubkey) : Prop where
  config : (l config).data = .config cfg
  node : node = s.node
  session : session = k
  provider : provider = s.provider
  consumer : consumer = s.consumer
  asset : asset = s.asset
  mplCoreProgram : mplCoreProgram = cfg.mplCoreProgram

/-- `finalize_close` is called with the session's own accounts, and none of the
receivers can overflow. -/
structure FinalizeClose.Own {rt : Runtime} (l : Ledger) (k : Pubkey) (s : Session) (cfg : Config)
    (a : FinalizeClose rt) : Prop where
  parties : OwnParties l k s cfg a.config a.node a.session a.provider a.consumer a.asset
    a.mplCoreProgram
  feeVault : a.feeVault = cfg.feeVault
  room : ∀ r, (l (s.payee cfg.feeVault r)).lamports.toNat + s.unsettled < 2 ^ 64

/-- `finalize_close_spl` is called with the session's own accounts, its vault
and token accounts of its mint that cannot overflow. -/
structure PayoutSpl.Own {rt : Runtime} (l : Ledger) (k m : Pubkey) (s : Session) (cfg : Config)
    (a : PayoutSpl rt) : Prop where
  parties : OwnParties l k s cfg a.config a.node a.session a.provider a.consumer a.asset
    a.mplCoreProgram
  vaultAuthority : a.vaultAuthority = rt.vaultAuthority k
  vaultToken : a.vaultToken = rt.vaultAta k m
  provider : OwnedBy l a.providerToken s.provider ∧ TakesTokens l a.providerToken m s.unsettled
  consumer : OwnedBy l a.consumerToken s.consumer ∧ TakesTokens l a.consumerToken m s.unsettled
  fee : OwnedBy l a.feeToken cfg.feeVault ∧ TakesTokens l a.feeToken m s.unsettled

section
variable {rt : Runtime} {l : Ledger} {k : Pubkey} {s : Session} {cfg : Config}
  {config node session provider consumer asset mplCoreProgram : Pubkey}

/-- Own accounts pass the checks on them. -/
theorem OwnParties.loaded (h : OwnParties l k s cfg config node session provider consumer asset
    mplCoreProgram) (hi : Inv rt l) (hs : (l k).data = .session s) :
    ∃ n, (l s.node).data = .node n ∧ PartiesLoaded rt l config node session provider consumer asset
      mplCoreProgram cfg n s := by
  obtain ⟨hconfig, hnode, hsession, hprovider, hconsumer, hasset, hcore⟩ := h
  subst hnode hsession hprovider hconsumer hasset hcore
  have hok := hi.session _ s hs
  obtain ⟨n, hn, ha, _⟩ := hok.node
  exact ⟨n, hn, hconfig, create_of_find (hi.config _ cfg hconfig).1.address, hn,
    create_of_find (hi.node _ n hn).1.address, hs, rfl, rfl, rfl, create_of_find hok.address,
    ha.symm, rfl⟩

end

/-- A payout that went through has left room in the trackers. -/
theorem TrackersFit.of_amounts {l : Ledger} {cfg : Config} {s : Session} {n : Node}
    {pa fee rem units settled : UInt64} (hb : cfg.feeBps.toNat ≤ 10000)
    (hn : (l s.node).data = .node n)
    (h : Amounts cfg n s s.pendingPayout s.pendingUnits false pa fee rem units settled) :
    TrackersFit l cfg s := by
  have values := h.values hb
  have hunits := values.units
  have hsettled := values.settled
  have hu := units.toNat_lt
  have hs := settled.toNat_lt
  refine ⟨n, hn, by omega, ?_⟩
  rw [values.net] at hsettled
  rw [Session.share, ← netOf]
  omega

/-- The accounts a payout in tokens goes to. -/
def PayoutSpl.dest {rt : Runtime} (a : PayoutSpl rt) : Role → Pubkey
  | .provider => a.providerToken
  | .fee => a.feeToken
  | .consumer => a.consumerToken

theorem PayoutSpl.Own.dest {rt : Runtime} {l : Ledger} {k m : Pubkey} {s : Session} {cfg : Config}
    {a : PayoutSpl rt} (own : a.Own l k m s cfg) (r : Role) :
    OwnedBy l (a.dest r) (s.payee cfg.feeVault r) ∧ TakesTokens l (a.dest r) m s.unsettled := by
  cases r with
  | provider => exact own.provider
  | fee => exact own.fee
  | consumer => exact own.consumer

/-- The ledger facts an exit of a session in dispute rests on. -/
structure InDispute (rt : Runtime) (l : Ledger) (k : Pubkey) (s : Session) (ctx : TxContext) :
    Prop where
  inv : Inv rt l
  data : (l k).data = .session s
  closing : s.status = .closing
  late : s.challengeDeadline < ctx.unixTimestamp

namespace InDispute

variable {rt : Runtime} {l l' : Ledger} {k m : Pubkey} {s : Session} {ctx : TxContext}
  {cfg : Config} {n : Node} {ts : List Transfer}

theorem alive (h : InDispute rt l k s ctx) : s.status.terminal = false := by
  simp [h.closing, SessionStatus.terminal]

theorem escrowed (h : InDispute rt l k s ctx) : Escrowed rt l k s :=
  (h.inv.session k s h.data).escrow h.alive

theorem feeBps_le (h : InDispute rt l k s ctx) {x : Pubkey} (hc : (l x).data = .config cfg) :
    cfg.feeBps.toNat ≤ 10000 := by
  have hfee := (h.inv.config x cfg hc).1.fee
  omega

/-- The amounts a dispute pays out are defined when the trackers have room. -/
theorem amounts (h : InDispute rt l k s ctx) {x : Pubkey} (hc : (l x).data = .config cfg)
    (hn : (l s.node).data = .node n) (fit : TrackersFit l cfg s) :
    ∃ pa fee rem units settled,
      Amounts cfg n s s.pendingPayout s.pendingUnits false pa fee rem units settled ∧
        ((sharesOf pa fee rem).map fun x => x.2.toNat).sum ≤ s.unsettled := by
  obtain ⟨n', hn', hunits, hsettled⟩ := fit
  obtain rfl : n = n' := by simpa [hn] using hn'
  obtain ⟨hlo, hhi⟩ := (h.inv.session k s h.data).pending h.closing
  obtain ⟨pa, fee, rem, units, settled, ha⟩ : ∃ pa fee rem units settled,
      Amounts cfg n s s.pendingPayout s.pendingUnits false pa fee rem units settled :=
    Amounts.exists (h.feeBps_le hc) hlo hhi hunits hsettled
  refine ⟨pa, fee, rem, units, settled, ha, ?_⟩
  rw [total_sharesOf]
  exact ha.covered hhi

theorem finalize_exists (h : InDispute rt l k s ctx) (hm : s.mint = none) {a : FinalizeClose rt}
    (own : a.Own l k s cfg) (fit : TrackersFit l cfg s) :
    ∃ r, finalizeHandler rt ctx l a = .ok r := by
  obtain ⟨n, hn, hparties⟩ := own.parties.loaded h.inv h.data
  obtain ⟨pa, fee, rem, units, settled, ha, hle⟩ := h.amounts own.parties.config hn fit
  have escrow := h.inv.solEscrow h.data h.alive hm own.parties.config own.room
  obtain ⟨mid, hpaid⟩ := escrow.pays (sharesOf pa fee rem) hle
  refine ⟨_, finalizeHandler_ok.mpr ⟨cfg, n, s, pa, fee, rem, units, settled, mid,
    FinalizeClose.load_ok.mpr ⟨hparties, own.feeVault⟩, h.closing, h.late, ha, rfl, ?_, rfl⟩⟩
  rw [own.parties.session, own.parties.provider, own.parties.consumer, own.feeVault]
  exact hpaid

/-- `finalize_close` succeeds on own accounts just when the trackers fit. -/
theorem finalize_iff (h : InDispute rt l k s ctx) (hm : s.mint = none) {a : FinalizeClose rt}
    (own : a.Own l k s cfg) :
    (∃ r, finalizeHandler rt ctx l a = .ok r) ↔ TrackersFit l cfg s := by
  constructor
  · intro hok
    obtain ⟨r, hr⟩ := hok
    obtain ⟨cfg', n, s', pa, fee, rem, units, settled, mid, hload, _, _, ha, _⟩ :=
      finalizeHandler_ok.mp hr
    obtain ⟨hl, _⟩ := FinalizeClose.load_ok.mp hload
    obtain rfl : s = s' := by simpa [own.parties.session, h.data] using hl.sessionData
    obtain rfl : cfg = cfg' := by simpa [own.parties.config] using hl.configData
    exact .of_amounts (h.feeBps_le own.parties.config) (hl.hasNode ▸ hl.nodeData) ha
  · exact h.finalize_exists hm own

theorem finalizeSpl_exists (h : InDispute rt l k s ctx) (hm : s.mint = some m) {a : PayoutSpl rt}
    (own : a.Own l k m s cfg) (fit : TrackersFit l cfg s) :
    ∃ r, finalizeCloseSplHandler rt ctx l a = .ok r := by
  obtain ⟨n, hn, hparties⟩ := own.parties.loaded h.inv h.data
  obtain ⟨pa, fee, rem, units, settled, ha, hle⟩ := h.amounts own.parties.config hn fit
  have hauth := h.escrowed.authority m hm
  obtain ⟨_, t, ht, htm, hto, hcover⟩ := h.escrowed.vault m hm
  have covers : VaultCovers rt l a.vaultToken m a.vaultAuthority a.session s.vaultBump
      s.unsettled := by
    rw [own.vaultToken, own.vaultAuthority, own.parties.session]
    exact ⟨create_of_find hauth, t, ht, htm, hto, hcover⟩
  -- the receivers are wallets, and the vault belongs to a derived address
  have apart : ∀ r, a.dest r ≠ a.vaultToken := by
    intro r he
    obtain ⟨u, hu, huo⟩ := (own.dest r).1
    rw [he, own.vaultToken] at hu
    obtain rfl : t = u := by simpa [ht] using hu
    exact h.inv.payee_ne_vault h.data own.parties.config hauth r (huo.symm.trans hto)
  obtain ⟨mid, hpaid⟩ := covers.pays (fun r => (own.dest r).2) apart (sharesOf pa fee rem) hle
  have htokens : TokensLoaded rt l a cfg := by
    refine ⟨⟨s.vaultBump, ?_⟩, ⟨t, own.vaultToken ▸ ht⟩, ?_, ?_, own.fee.1⟩
    · rw [own.parties.session, own.vaultAuthority]
      exact hauth
    · exact own.parties.provider ▸ own.provider.1
    · exact own.parties.consumer ▸ own.consumer.1
  exact ⟨_, finalizeCloseSplHandler_ok.mpr ⟨cfg, n, s, pa, fee, rem, units, settled, mid,
    PayoutSpl.load_ok.mpr ⟨hparties, htokens⟩, h.closing, by simp [hm], h.late, ha, rfl, hpaid,
    rfl⟩⟩

/-- `finalize_close_spl` succeeds on own accounts just when the trackers fit. -/
theorem finalizeSpl_iff (h : InDispute rt l k s ctx) (hm : s.mint = some m) {a : PayoutSpl rt}
    (own : a.Own l k m s cfg) :
    (∃ r, finalizeCloseSplHandler rt ctx l a = .ok r) ↔ TrackersFit l cfg s := by
  constructor
  · intro hok
    obtain ⟨r, hr⟩ := hok
    obtain ⟨cfg', n, s', pa, fee, rem, units, settled, mid, hload, _, _, _, ha, _⟩ :=
      finalizeCloseSplHandler_ok.mp hr
    obtain ⟨hl, _⟩ := PayoutSpl.load_ok.mp hload
    obtain rfl : s = s' := by simpa [own.parties.session, h.data] using hl.sessionData
    obtain rfl : cfg = cfg' := by simpa [own.parties.config] using hl.configData
    exact .of_amounts (h.feeBps_le own.parties.config) (hl.hasNode ▸ hl.nodeData) ha
  · exact h.finalizeSpl_exists hm own

end InDispute

/-- After the challenge window, anybody can finalize a dispute over the
session's own accounts, in the asset it was opened with, if and only if the
trackers of its node have room for it. -/
theorem finalize_iff_trackers_fit {rt : Runtime} {start l : Ledger} {tr : History rt}
    (genesis : Genesis start) (run : Run (Step rt) start tr l) (k : Pubkey) (s : Session)
    (hs : (l k).data = .session s) (closing : s.status = .closing) (ctx : TxContext)
    (late : s.challengeDeadline < ctx.unixTimestamp) (cfg : Config) :
    (s.mint = none → ∀ a : FinalizeClose rt, a.Own l k s cfg →
      ((∃ r, (Call.finalizeClose a).exec ctx l = .ok r) ↔ TrackersFit l cfg s)) ∧
      ∀ m, s.mint = some m → ∀ a : FinalizeCloseSpl rt, PayoutSpl.Own l k m s cfg a →
        ((∃ r, (Call.finalizeCloseSpl a).exec ctx l = .ok r) ↔ TrackersFit l cfg s) := by
  have h : InDispute rt l k s ctx := ⟨run_inv genesis run, hs, closing, late⟩
  exact ⟨fun hm a own => h.finalize_iff hm own, fun m hm a own => h.finalizeSpl_iff hm own⟩

section
open Localnet Transaction

/-- A session in dispute. -/
def inDispute : List (Transaction Localnet.rt) :=
  deploy ++ [openSol 7 1000000,
    cosigned 5 (update 7 1 400000 1500)
      (.initiateUnilateralClose (closeAccounts 7 provider) (update 7 1 400000 1500))]

def disputed : Session :=
  { opened 7 1000000 none 0 with
    status := .closing, lastNonce := 1, pendingPayout := 400000, pendingUnits := 1500
    challengeDeadline := 8 }

theorem ownAccounts {l : Ledger} (hc : (l config).data = .config deployedConfig)
    (room : ∀ r, (l (disputed.payee Localnet.feeVault r)).lamports.toNat + 1000000 < 2 ^ 64) :
    (finalizeAccounts 7).Own l (session 7) disputed deployedConfig :=
  ⟨⟨hc, rfl, rfl, rfl, rfl, rfl, rfl⟩, rfl, room⟩

theorem finalize_iff_trackers_fit_disputed : ∃ r,
    (Call.finalizeClose (finalizeAccounts 7)).exec ⟨[], 0, 9⟩ (submit Localnet.start inDispute).1 =
      .ok r := by
  have run : Run (Step rt) Localnet.start (submit Localnet.start inDispute).2
      (submit Localnet.start inDispute).1 := submit_run _ _
  refine ((finalize_iff_trackers_fit start_genesis run (session 7) disputed (by decide +kernel) rfl
    ⟨[], 0, 9⟩ (by decide) deployedConfig).1 rfl (finalizeAccounts 7)
      (ownAccounts (by decide +kernel) ?_)).mpr ?_
  · intro r
    cases r <;> decide +kernel
  · exact ⟨⟨16, 2, 1000, "geo", 0, 0, 0, 0, true, 255⟩, by decide +kernel⟩

/-- The session of another consumer with the same node. -/
def otherSession : Pubkey := address (.session node 4 9)

def inflated : StateUpdate := ⟨stateDomain, otherSession, 1, 0, 0xFFFFFFFFFFFFFFFF, 0⟩

/-- Its parties agree on as many units as fit the tracker, for nothing. -/
def inflate : List (Transaction Localnet.rt) :=
  [submitted 6 (.openSession ⟨config, node, otherSession, stranger⟩ 9 1 60 1),
   ⟨[signature provider inflated, signature stranger inflated,
     call (.checkpointSettle ⟨config, node, otherSession, 2, 4, 16, Localnet.feeVault, stranger,
       mplCore, ixSysvarId⟩ inflated)], 6⟩]

/-- From then on the dispute cannot be finalized. -/
theorem finalize_locked : ¬ ∀ (rt : Runtime) (start l : Ledger) (tr : History rt) (k : Pubkey)
    (s : Session) (ctx : TxContext) (cfg : Config) (a : FinalizeClose rt), Genesis start →
    Run (Step rt) start tr l → (l k).data = .session s → s.status = .closing → s.mint = none →
    s.challengeDeadline < ctx.unixTimestamp → a.Own l k s cfg →
    ∃ r, (Call.finalizeClose a).exec ctx l = .ok r := by
  intro h
  have run : Run (Step Localnet.rt) Localnet.start (submit Localnet.start (inDispute ++ inflate)).2
      (submit Localnet.start (inDispute ++ inflate)).1 := submit_run _ _
  obtain ⟨r, hr⟩ := h Localnet.rt Localnet.start (submit Localnet.start (inDispute ++ inflate)).1
    (submit Localnet.start (inDispute ++ inflate)).2 (session 7) disputed ⟨[], 0, 9⟩ deployedConfig
    (finalizeAccounts 7) start_genesis run (by decide +kernel) rfl rfl (by decide)
    (ownAccounts (by decide +kernel) fun r => by cases r <;> decide +kernel)
  have fails : ((Call.finalizeClose (finalizeAccounts 7)).exec ⟨[], 0, 9⟩
      (submit Localnet.start (inDispute ++ inflate)).1).isOk = false := by decide +kernel
  rw [hr] at fails
  cases fails

end

end SolMesh
