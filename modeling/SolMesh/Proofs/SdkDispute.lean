import SolMesh.Proofs.DisputeStart
import SolMesh.Proofs.SdkSettlement

namespace SolMesh.Sdk
open Outcome Words Client Runs

namespace CloseMethod

/-- The status in which a session takes the method. -/
def status : CloseMethod → SessionStatus
  | initiateUnilateralClose => .open
  | challenge => .closing

/-- The method comes in time: a new window must end before the clock does, and
an old one must still be open. -/
def Timely (name : CloseMethod) (s : Session) (cfg : Config) (now : Int64) : Prop :=
  match name with
  | initiateUnilateralClose => -2 ^ 63 ≤ now.toInt + cfg.challengeWindowSecs.toInt ∧
      now.toInt + cfg.challengeWindowSecs.toInt < 2 ^ 63
  | challenge => now.toInt ≤ s.challengeDeadline.toInt

/-- The end of the window afterwards. -/
def deadline (name : CloseMethod) (s : Session) (cfg : Config) (now : Int64) : Int :=
  match name with
  | initiateUnilateralClose => now.toInt + cfg.challengeWindowSecs.toInt
  | challenge => s.challengeDeadline.toInt

end CloseMethod

section
variable {rt : Runtime}

/-- The options name the session and its parties. -/
structure CloseOpts.For (k : Pubkey) (s : Session) (opts : CloseOpts rt) : Prop where
  provider : opts.provider = s.provider
  consumer : opts.consumer = s.consumer
  session : opts.session = k

/-- What the chain asks of the client's state in a dispute, and of who brings it. -/
structure Contestable (name : CloseMethod) (k : Pubkey) (s : Session) (cfg : Config) (now : Int64)
    (caller : Pubkey) (state : Client.StateUpdate) : Prop where
  status : s.status = name.status
  timely : name.Timely s cfg now
  party : name = .initiateUnilateralClose → caller = s.provider ∨ caller = s.consumer
  session : state.session = k
  newer : (s.lastNonce.toNat : Int) < state.nonce
  covered : state.owedToProvider ≤ s.deposited.toNat
  keeps : (s.settledToProvider.toNat : Int) ≤ state.owedToProvider

/-- The client's state is the one to be paid out, and nothing has been paid. -/
structure Proposed (l' : Ledger) (tr : History rt) (name : CloseMethod) (k : Pubkey) (s : Session)
    (cfg : Config) (now : Int64) (state : Client.StateUpdate) : Prop where
  session : ∃ s', (l' k).data = .session s' ∧ s'.status = .closing ∧
    s'.challengeDeadline.toInt = name.deadline s cfg now ∧
    (s'.lastNonce.toNat : Int) = state.nonce ∧
    (s'.pendingPayout.toNat : Int) = state.owedToProvider ∧
    (s'.pendingUnits.toNat : Int) = state.unitsConsumed ∧
    s'.settledToProvider = s.settledToProvider
  unpaid : ∀ r, paidTo k r tr = 0

def CloseOpts.accounts (opts : CloseOpts rt) (config : Pubkey) : UnilateralClose rt :=
  ⟨config, opts.session, opts.provider, opts.consumer, opts.caller, ixSysvarId⟩

/-- The program's call that the client asks for. -/
def CloseOpts.call (opts : CloseOpts rt) (name : CloseMethod) (config : Pubkey)
    (u : SolMesh.StateUpdate) : Call rt :=
  match name with
  | .initiateUnilateralClose => .initiateUnilateralClose (opts.accounts config) u
  | .challenge => .challenge (opts.accounts config) u

def CloseMethod.idlName : CloseMethod → String
  | .initiateUnilateralClose => "initiate_unilateral_close"
  | .challenge => "challenge"

variable {l : Ledger} {k x : Pubkey} {s : Session} {cfg : Config} {opts : CloseOpts rt}
  {name : CloseMethod} {discriminator : String → List UInt8} {ixs : List (Instruction rt)}

variable (discriminator name opts) in
theorem cosignedClose_method (hi : Inv rt l) (hc : (l x).data = .config cfg) :
    CosignedMethod (cosignedClose discriminator name opts) opts.state
      ⟨opts.provider, opts.providerSig⟩ ⟨opts.consumer, opts.consumerSig⟩ True [] discriminator
      name.idlName (opts.call name x) := by
  refine ⟨by simp [Idle], fun ixs => ?_⟩
  rw [cosignedClose]
  simp only [Option.bind_eq_bind, bundle_bind, configPda_of hi hc, Option.bind_some,
    Option.pure_def, Option.some.injEq, true_and, List.nil_append, eq_comm (b := ixs)]
  cases name <;> rfl

theorem CloseOpts.For.own (h : opts.For k s) (hc : (l x).data = .config cfg) :
    (opts.accounts x).Own l k s cfg :=
  ⟨hc, h.session, h.provider, h.consumer, rfl⟩

/-- The session with the update as the one to be paid out. -/
def CloseMethod.propose (name : CloseMethod) (s : Session) (cfg : Config) (now : Int64)
    (u : SolMesh.StateUpdate) : Session :=
  match name with
  | .initiateUnilateralClose =>
    { s.propose u with status := .closing, challengeDeadline := now + cfg.challengeWindowSecs }
  | .challenge => s.propose u

/-- Behind the client's signatures the program asks for nothing else. -/
theorem CloseOpts.exec_iff {u : SolMesh.StateUpdate} {cosigns : List InstructionData}
    {ctx : TxContext} {mid : Ledger} {ts : List Transfer} (hi : Inv rt l)
    (hs : (l k).data = .session s) (hc : (l x).data = .config cfg) (own : opts.For k s)
    (hb : Bundle opts.state ⟨opts.provider, opts.providerSig⟩ ⟨opts.consumer, opts.consumerSig⟩ u
      cosigns)
    (carries : CarriesSignature ctx opts.provider u.toMessageBytes ∧
      CarriesSignature ctx opts.consumer u.toMessageBytes) :
    (opts.call name x u).exec ctx l = .ok (mid, ts) ↔
      Contestable name k s cfg ctx.unixTimestamp opts.caller.key opts.state ∧ ts = [] ∧
        mid = l.setData k (.session (name.propose s cfg ctx.unixTimestamp u)) := by
  have hload : (opts.accounts x).load rt l = .ok (cfg, s) :=
    (own.own hc).loaded hi hs (by constructor <;> rfl)
  have hverify := hb.verified own.provider own.consumer carries (k := k)
  have hnonce := hb.same.nonce
  have newer : s.lastNonce < u.nonce ↔ (s.lastNonce.toNat : Int) < opts.state.nonce := by
    rw [UInt64.lt_iff_toNat_lt]
    omega
  obtain rfl := own.session
  cases name with
  | initiateUnilateralClose =>
    have hexec : (opts.call .initiateUnilateralClose x u).exec ctx l =
        initiateHandler rt ctx l (opts.accounts x) u := rfl
    rw [hexec, initiateHandler_ok]
    constructor
    · intro h
      obtain ⟨cfg', s', deadline, hload', party, status, hnew, hv, hdeadline, hts, hmid⟩ := h
      cases hload.symm.trans hload'
      simp only [checkedAddInt, Option.ite_none_right_eq_some, Option.some.injEq] at hdeadline
      obtain ⟨fits, rfl⟩ := hdeadline
      obtain ⟨session, covered, keeps⟩ := hverify.mp hv
      exact ⟨⟨status, fits, fun _ => party, session, newer.mp hnew, covered, keeps⟩, hts, hmid⟩
    · intro h
      obtain ⟨hcon, hts, hmid⟩ := h
      exact ⟨cfg, s, _, hload, hcon.party rfl, hcon.status, newer.mpr hcon.newer,
        hverify.mpr ⟨hcon.session, hcon.covered, hcon.keeps⟩, if_pos hcon.timely, hts, hmid⟩
  | challenge =>
    have hexec : (opts.call .challenge x u).exec ctx l =
        challengeHandler rt ctx l (opts.accounts x) u := rfl
    rw [hexec, challengeHandler_ok]
    constructor
    · intro h
      obtain ⟨cfg', s', hload', status, early, hnew, hv, hts, hmid⟩ := h
      cases hload.symm.trans hload'
      obtain ⟨session, covered, keeps⟩ := hverify.mp hv
      have timely := Int64.le_iff_toInt_le.mp early
      exact ⟨⟨status, timely, (fun hne => nomatch hne), session, newer.mp hnew, covered, keeps⟩,
        hts, hmid⟩
    · intro h
      obtain ⟨hcon, hts, hmid⟩ := h
      exact ⟨cfg, s, hload, hcon.status, Int64.le_iff_toInt_le.mpr hcon.timely,
        newer.mpr hcon.newer, hverify.mpr ⟨hcon.session, hcon.covered, hcon.keeps⟩, hts, hmid⟩

/-- What the call leaves behind. -/
theorem proposed_of_exec {u : SolMesh.StateUpdate} {ctx : TxContext} {mid : Ledger}
    (hi : Inv rt l) (hs : (l k).data = .session s) (same : opts.state.Same u)
    (hcon : Contestable name k s cfg ctx.unixTimestamp opts.caller.key opts.state)
    (hmid : mid = l.setData k (.session (name.propose s cfg ctx.unixTimestamp u))) (c : Call rt) :
    Proposed mid.purge [⟨l, .call ctx c [], mid⟩, ⟨mid, .commit, mid.purge⟩] name k s cfg
      ctx.unixTimestamp opts.state := by
  have active : s.status.terminal = false := by
    rw [hcon.status]
    cases name <;> rfl
  have alive : 0 < (mid k).lamports.toNat := by
    have hrent := ((hi.session k s hs).escrow active).rent
    have hmin := rt.minimumBalance_pos Session.space
    rw [hmid, Ledger.setData_lamports]
    omega
  have kept : (mid.purge k).data = .session (name.propose s cfg ctx.unixTimestamp u) := by
    rw [mid.purge_of_pos k alive, hmid, Ledger.setData_self]
  refine ⟨⟨_, kept, ?_, ?_, ?_, ?_, ?_, ?_⟩, fun r => ?_⟩
  · cases name with
    | initiateUnilateralClose => rfl
    | challenge => exact hcon.status
  · cases name with
    | initiateUnilateralClose =>
      have hsum : checkedAddInt ctx.unixTimestamp cfg.challengeWindowSecs = some _ :=
        if_pos hcon.timely
      exact checkedAddInt_some.mp hsum
    | challenge => rfl
  · cases name <;> exact same.nonce
  · cases name <;> exact same.owedToProvider
  · cases name <;> exact same.unitsConsumed
  · cases name <;> rfl
  · simp [paidTo, total, Event.transfers]

end

/-- The client's dispute methods go through if and only if both parties have
signed the state and the session takes it at this time from this caller, and
then it is the client's state that will be paid out. -/
theorem dispute_executes_iff {rt : Runtime} {start l : Ledger} {tr : History rt}
    (genesis : Genesis start) (run : Run (Step rt) start tr l) {k x : Pubkey} {s : Session}
    {cfg : Config} (hs : (l k).data = .session s) (hc : (l x).data = .config cfg)
    (name : CloseMethod) (opts : CloseOpts rt) (own : opts.For k s)
    (discriminator : String → List UInt8) (now : Int64) :
    ((∃ ixs l' tr', cosignedClose discriminator name opts = some ixs ∧
        (Transaction.mk ixs now).exec l = .ok (l', tr')) ↔
      Countersigned rt opts.state ⟨opts.provider, opts.providerSig⟩
        ⟨opts.consumer, opts.consumerSig⟩ ∧
      Contestable name k s cfg now opts.caller.key opts.state) ∧
    ∀ ixs l' tr', cosignedClose discriminator name opts = some ixs →
      (Transaction.mk ixs now).exec l = .ok (l', tr') →
        Proposed l' tr' name k s cfg now opts.state := by
  have hi := run_inv genesis run
  have sent := cosignedClose_method opts name discriminator hi hc
  refine ⟨sent.executes_iff (fun u ctx received _ => ?_) fun _ => trivial,
    fun ixs l' tr' made exec => ?_⟩
  · obtain ⟨_, hb⟩ := received.bundle
    rw [← received.time]
    constructor
    · intro executes
      obtain ⟨mid, ts, ok, _⟩ := executes
      exact ((opts.exec_iff hi hs hc own hb received.carries).mp ok).1
    · intro hcon
      have kept : RentKept rt l
          (l.setData k (.session (name.propose s cfg ctx.unixTimestamp u))) :=
        rentKept_setData (by rw [hs]; rfl)
      exact ⟨_, _, (opts.exec_iff hi hs hc own hb received.carries).mpr ⟨hcon, rfl, rfl⟩, kept⟩
  · obtain ⟨_, _, u, ctx, mid, ts, received, ok, _, rfl, rfl⟩ := sent.executed made exec
    obtain ⟨_, hb⟩ := received.bundle
    obtain ⟨hcon, rfl, hmid⟩ := (opts.exec_iff hi hs hc own hb received.carries).mp ok
    rw [← received.time]
    exact proposed_of_exec hi hs hb.same hcon hmid _

section
open Localnet Transaction

/-- The consumer's client starts a dispute over session 7. -/
def closeOpts : CloseOpts Localnet.rt where
  caller := Localnet.consumer
  provider := 2
  consumer := 3
  session := Localnet.session 7
  state := clientState
  providerSig := 2
  consumerSig := 3

theorem dispute_executes_iff_fresh : ∃ ixs l' tr' s',
    cosignedClose (fun _ => []) .initiateUnilateralClose closeOpts = some ixs ∧
      (Transaction.mk ixs 5).exec freshSession.1 = .ok (l', tr') ∧
      (l' (Localnet.session 7)).data = .session s' ∧ s'.challengeDeadline.toInt = 8 := by
  have run : Run (Step Localnet.rt) Localnet.start freshSession.2 freshSession.1 :=
    submit_run _ _
  have hs : (freshSession.1 (Localnet.session 7)).data =
      .session (opened 7 1000000 none 0) := by decide +kernel
  have hc : (freshSession.1 Localnet.config).data = .config deployedConfig := by decide +kernel
  obtain ⟨executes, proposed⟩ := dispute_executes_iff start_genesis run hs hc
    .initiateUnilateralClose closeOpts ⟨rfl, rfl, rfl⟩ (fun _ => []) 5
  obtain ⟨u, _, hmsg⟩ := serializeState_exists (s := clientState) (by constructor <;> decide)
  have timely : CloseMethod.initiateUnilateralClose.Timely (opened 7 1000000 none 0)
      deployedConfig 5 := by
    unfold CloseMethod.Timely
    decide
  obtain ⟨ixs, l', tr', made, exec⟩ := executes.mpr ⟨⟨_, hmsg, cosigners_signed _⟩,
    ⟨rfl, timely, fun _ => .inr rfl, rfl, (by decide), (by decide), (by decide)⟩⟩
  obtain ⟨s', hs', _, deadline, _⟩ := (proposed ixs l' tr' made exec).session
  exact ⟨ixs, l', tr', s', made, exec, hs', deadline⟩

end

end SolMesh.Sdk
