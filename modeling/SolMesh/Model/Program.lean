import SolMesh.Model.Admin
import SolMesh.Model.Rent
import SolMesh.Support.Runs

namespace SolMesh
open Outcome Runs

/-- The program's instructions with their accounts and arguments. -/
inductive Call (rt : Runtime)
  | initializeConfig (a : InitializeConfig rt) (feeBps : UInt16) (challengeWindowSecs : Int64)
      (mplCoreProgram : Pubkey)
  | registerNode (a : RegisterNode rt) (name uri : String) (capacity : UInt64) (geo : String)
      (initReputation : UInt32)
  | openSession (a : OpenSession rt) (sessionSeed amount : UInt64) (durationSecs : Int64)
      (ratePerUnit : UInt64)
  | checkpointSettle (a : Settle rt) (state : StateUpdate)
  | settleSession (a : Settle rt) (state : StateUpdate)
  | initiateUnilateralClose (a : UnilateralClose rt) (state : StateUpdate)
  | challenge (a : UnilateralClose rt) (state : StateUpdate)
  | finalizeClose (a : FinalizeClose rt)
  | cancelSession (a : CancelSession rt)
  | expireSession (a : ExpireSession rt)
  | updateConfig (a : AdminConfig rt) (feeBps : Option UInt16)
      (challengeWindowSecs : Option Int64)
  | setPaused (a : AdminConfig rt) (paused : Bool)
  | withdrawFees (a : WithdrawFees rt) (amount : UInt64)
  | updateNodeMeta (a : UpdateNodeMeta rt) (capacity : Option UInt64) (geo : Option String)
      (active : Option Bool)
  | openSessionSpl (a : OpenSessionSpl rt) (sessionSeed amount : UInt64) (durationSecs : Int64)
      (ratePerUnit : UInt64)
  | checkpointSettleSpl (a : SettleSpl rt) (state : StateUpdate)
  | settleSessionSpl (a : SettleSpl rt) (state : StateUpdate)
  | finalizeCloseSpl (a : FinalizeCloseSpl rt)
  | cancelSessionSpl (a : LifecycleSpl rt)
  | expireSessionSpl (a : LifecycleSpl rt)

namespace Call

variable {rt : Runtime}

def exec (ctx : TxContext) (l : Ledger) : Call rt → Outcome Effect
  | .initializeConfig a feeBps window mplCore =>
    initializeConfigHandler rt l a feeBps window mplCore
  | .registerNode a name uri capacity geo initReputation =>
    registerNodeHandler rt l a name uri capacity geo initReputation
  | .openSession a seed amount duration rate =>
    openSessionHandler rt ctx l a seed amount duration rate
  | .checkpointSettle a state => checkpointHandler rt ctx l a state
  | .settleSession a state => settleHandler rt ctx l a state
  | .initiateUnilateralClose a state => initiateHandler rt ctx l a state
  | .challenge a state => challengeHandler rt ctx l a state
  | .finalizeClose a => finalizeHandler rt ctx l a
  | .cancelSession a => cancelHandler rt l a
  | .expireSession a => expireHandler rt ctx l a
  | .updateConfig a feeBps window => updateConfigHandler rt l a feeBps window
  | .setPaused a paused => setPausedHandler rt l a paused
  | .withdrawFees a amount => withdrawFeesHandler rt l a amount
  | .updateNodeMeta a capacity geo active => updateNodeMetaHandler rt l a capacity geo active
  | .openSessionSpl a seed amount duration rate =>
    openSessionSplHandler rt ctx l a seed amount duration rate
  | .checkpointSettleSpl a state => checkpointSplHandler rt ctx l a state
  | .settleSessionSpl a state => settleSplHandler rt ctx l a state
  | .finalizeCloseSpl a => finalizeCloseSplHandler rt ctx l a
  | .cancelSessionSpl a => cancelSessionSplHandler rt l a
  | .expireSessionSpl a => expireSessionSplHandler rt ctx l a

/-- The session account an instruction names. -/
def session? : Call rt → Option Pubkey
  | .openSession a .. => some a.session
  | .checkpointSettle a _ | .settleSession a _ => some a.session
  | .initiateUnilateralClose a _ | .challenge a _ => some a.session
  | .finalizeClose a => some a.session
  | .cancelSession a => some a.session
  | .expireSession a => some a.session
  | .openSessionSpl a .. => some a.session
  | .checkpointSettleSpl a _ | .settleSessionSpl a _ => some a.session
  | .finalizeCloseSpl a => some a.session
  | .cancelSessionSpl a | .expireSessionSpl a => some a.session
  | .initializeConfig .. | .registerNode .. | .updateConfig .. | .setPaused ..
  | .withdrawFees .. | .updateNodeMeta .. => none

/-- The accounts that an instruction declares `mut` or `init`. -/
def writable : Call rt → List Pubkey
  | .initializeConfig a .. => [a.config, a.feeVault, a.authority.key]
  | .registerNode a .. => [a.node, a.asset.key, a.provider.key]
  | .openSession a .. => [a.session, a.consumer.key]
  | .checkpointSettle a _ | .settleSession a _ =>
    [a.node, a.session, a.provider, a.consumer, a.asset, a.feeVault, a.payer.key]
  | .initiateUnilateralClose a _ | .challenge a _ => [a.session]
  | .finalizeClose a =>
    [a.node, a.session, a.provider, a.consumer, a.asset, a.feeVault, a.payer.key]
  | .cancelSession a => [a.session, a.consumer.key]
  | .expireSession a => [a.session, a.consumer]
  | .updateConfig a .. | .setPaused a _ => [a.config]
  | .withdrawFees a _ => [a.feeVault, a.authority.key, a.destination]
  | .updateNodeMeta a .. => [a.node, a.asset, a.payer.key]
  | .openSessionSpl a .. => [a.session, a.consumerToken, a.vaultToken, a.consumer.key]
  | .checkpointSettleSpl a _ | .settleSessionSpl a _ =>
    [a.node, a.session, a.asset, a.vaultToken, a.providerToken, a.consumerToken, a.feeToken,
      a.payer.key]
  | .finalizeCloseSpl a =>
    [a.node, a.session, a.asset, a.vaultToken, a.providerToken, a.consumerToken, a.feeToken,
      a.payer.key]
  | .cancelSessionSpl a | .expireSessionSpl a => [a.session, a.vaultToken, a.consumerToken]

/-- The co-signed update an instruction carries. -/
def update? : Call rt → Option StateUpdate
  | .checkpointSettle _ u | .settleSession _ u | .initiateUnilateralClose _ u
  | .challenge _ u | .checkpointSettleSpl _ u | .settleSessionSpl _ u => some u
  | _ => none

def opens : Call rt → Bool
  | .openSession .. | .openSessionSpl .. => true
  | _ => false

/-- The payout instructions that release lamports. -/
def isSolPayout : Call rt → Bool
  | .checkpointSettle .. | .settleSession .. | .finalizeClose .. | .cancelSession ..
  | .expireSession .. => true
  | _ => false

/-- The payouts in lamports that do not look at the session's mint. -/
def ignoresMint : Call rt → Bool
  | .finalizeClose .. | .cancelSession .. | .expireSession .. => true
  | _ => false

/-- The payout instructions that release tokens. -/
def isSplPayout : Call rt → Bool
  | .checkpointSettleSpl .. | .settleSessionSpl .. | .finalizeCloseSpl ..
  | .cancelSessionSpl .. | .expireSessionSpl .. => true
  | _ => false

/-- The instructions that end a dispute. -/
def finalizes : Call rt → Bool
  | .finalizeClose .. | .finalizeCloseSpl .. => true
  | _ => false

/-- The instructions by which a consumer withdraws from a session. -/
def cancels : Call rt → Bool
  | .cancelSession .. | .cancelSessionSpl .. => true
  | _ => false

/-- The ledger after a call is submitted. One that fails changes nothing. -/
def submit (ctx : TxContext) (l : Ledger) (c : Call rt) : Ledger :=
  match c.exec ctx l with
  | .ok (l', _) => l'
  | .error _ => l

end Call

/-- What everybody else can do to the ledger. Only the program writes or
debits its accounts; tokens leave an account only with its owner's signature,
and nobody outside signs for the program's addresses; the owner of an asset may
pass it on or burn it, but only its update authority rewrites the plugin. Anything
may be topped up. -/
structure Respects (rt : Runtime) (l l' : Ledger) : Prop where
  program : ∀ k, (l k).data.ownedByProgram = true →
    (l' k).data = (l k).data ∧ (l k).lamports.toNat ≤ (l' k).lamports.toNat
  fresh : ∀ k, (l' k).data.ownedByProgram = true → (l k).data.ownedByProgram = true
  token : ∀ k t, (l k).data = .token t → rt.IsPda t.owner →
    (l k).lamports.toNat ≤ (l' k).lamports.toNat ∧
      ∃ t', (l' k).data = .token t' ∧ t'.mint = t.mint ∧ t'.owner = t.owner ∧
        t.amount.toNat ≤ t'.amount.toNat
  core : ∀ k a, (l k).data = .core a → rt.IsPda a.updateAuthority →
    (0 < (l k).lamports.toNat → 0 < (l' k).lamports.toNat) ∧
      ((l' k).data = .burned ∨ ∃ a', (l' k).data = .core a' ∧
        a'.updateAuthority = a.updateAuthority ∧ a'.attributes = a.attributes)
  burned : ∀ k, (l k).data = .burned →
    (0 < (l k).lamports.toNat → 0 < (l' k).lamports.toNat) ∧ (l' k).data = .burned

/-- One thing happening on the chain. -/
inductive Label (rt : Runtime)
  | call (ctx : TxContext) (c : Call rt) (ts : List Transfer)
  | external
  | commit

/-- The steps of the chain. A transaction is a sequence of calls and outside
effects in one context, closed by a commit; one that fails leaves no step. The
runtime's rent rule, which looks at whole transactions, is not imposed here, so
the runs include all real ones. -/
inductive Step (rt : Runtime) : Ledger → Label rt → Ledger → Prop
  | call {ctx : TxContext} {c : Call rt} {l l' : Ledger} {ts : List Transfer}
      (precompiled : ctx.precompiled rt = true) (ok : c.exec ctx l = .ok (l', ts)) :
      Step rt l (.call ctx c ts) l'
  | external {l l' : Ledger} (respects : Respects rt l l') : Step rt l .external l'
  | commit (l : Ledger) : Step rt l .commit l.purge

abbrev Event (rt : Runtime) := Transition Ledger (Label rt)

abbrev History (rt : Runtime) := List (Event rt)

/-- The program has just been deployed: it owns no account yet. -/
def Genesis (l : Ledger) : Prop :=
  ∀ k, (l k).data.ownedByProgram = false

def Reachable (rt : Runtime) (l : Ledger) : Prop :=
  ∃ start tr, Genesis start ∧ Run (Step rt) start tr l

/-- An effect of another program on the accounts it may write, with the proof
that it keeps the rules. -/
structure External (rt : Runtime) where
  run : Ledger → Outcome Ledger
  writable : List Pubkey
  respects : ∀ {l l'}, run l = .ok l' → Respects rt l l'
  untouched : ∀ {l l'}, run l = .ok l' → ∀ k, k ∉ writable → l' k = l k

inductive Op (rt : Runtime)
  | call (c : Call rt)
  | external (e : External rt)

/-- A top-level instruction with what its processing does here. A call of this
program is one operation; another program may make several by invocation. -/
structure Instruction (rt : Runtime) where
  programId : Pubkey
  data : List UInt8
  ops : List (Op rt)

structure Transaction (rt : Runtime) where
  instructions : List (Instruction rt)
  unixTimestamp : Int64

namespace Transaction

variable {rt : Runtime}

def Op.writable : Op rt → List Pubkey
  | .call c => c.writable
  | .external e => e.writable

def Op.exec (ctx : TxContext) (l : Ledger) : Op rt → Outcome (Ledger × Label rt)
  | .call c => do
    let (l', ts) ← c.exec ctx l
    return (l', .call ctx c ts)
  | .external e => do
    let l' ← e.run l
    return (l', .external)

/-- Perform the operations in order and commit. -/
def perform (ixs : List InstructionData) (now : Int64) (l : Ledger) :
    List (Nat × Op rt) → Outcome (Ledger × History rt)
  | [] => .ok (l.purge, [⟨l, .commit, l.purge⟩])
  | (i, op) :: rest => do
    let (l', label) ← Op.exec ⟨ixs, i, now⟩ l op
    let (l'', tr) ← perform ixs now l' rest
    return (l'', ⟨l, label, l'⟩ :: tr)

def sysvar (tx : Transaction rt) : List InstructionData :=
  tx.instructions.map fun ins => ⟨ins.programId, ins.data⟩

def ops (tx : Transaction rt) : List (Nat × Op rt) :=
  tx.instructions.zipIdx.flatMap fun (ins, i) => ins.ops.map fun op => (i, op)

def writable (tx : Transaction rt) : List Pubkey :=
  tx.ops.flatMap fun (_, op) => Op.writable op

/-- Run a transaction on a ledger from which its fee has been taken: the
precompile, the operations, and last the rent of the accounts it may write. -/
def exec (l : Ledger) (tx : Transaction rt) : Outcome (Ledger × History rt) := do
  require ((TxContext.mk tx.sysvar 0 tx.unixTimestamp).precompiled rt = true)
    (.runtime .invalidArgument)
  let (l', tr) ← perform tx.sysvar tx.unixTimestamp l tx.ops
  require (rentKept rt l l' tx.writable = true) (.runtime .insufficientFundsForRent)
  return (l', tr)

/-- Submit transactions one after the other. One that fails changes nothing. -/
def submit (l : Ledger) : List (Transaction rt) → Ledger × History rt
  | [] => (l, [])
  | tx :: txs =>
    match tx.exec l with
    | .ok (l', tr) => ((submit l' txs).1, tr ++ (submit l' txs).2)
    | .error _ => submit l txs

theorem op_step {ctx : TxContext} {l l' : Ledger} {op : Op rt} {label : Label rt}
    (hp : ctx.precompiled rt = true) (h : Op.exec ctx l op = .ok (l', label)) :
    Step rt l label l' := by
  cases op with
  | call c =>
    simp only [Op.exec, bind_ok, pure_ok, Prod.mk.injEq] at h
    obtain ⟨⟨l₁, ts⟩, hc, rfl, rfl⟩ := h
    exact .call hp hc
  | external e =>
    simp only [Op.exec, bind_ok, pure_ok, Prod.mk.injEq] at h
    obtain ⟨l₁, he, rfl, rfl⟩ := h
    exact .external (e.respects he)

theorem perform_run {ixs : List InstructionData} {now : Int64} {ops : List (Nat × Op rt)}
    {l l' : Ledger} {tr : History rt} (hp : ∀ i, (TxContext.mk ixs i now).precompiled rt = true)
    (h : perform ixs now l ops = .ok (l', tr)) : Run (Step rt) l tr l' := by
  induction ops generalizing l l' tr with
  | nil =>
    simp only [perform, Except.ok.injEq, Prod.mk.injEq] at h
    obtain ⟨rfl, rfl⟩ := h
    exact Run.single (.commit l)
  | cons op rest ih =>
    simp only [perform, bind_ok, pure_ok, Prod.mk.injEq] at h
    obtain ⟨⟨l₁, label⟩, hop, ⟨l₂, tr₂⟩, hrest, rfl, rfl⟩ := h
    exact (Run.single (op_step (hp _) hop)).append (ih hrest)

theorem exec_run {tx : Transaction rt} {l l' : Ledger} {tr : History rt}
    (h : tx.exec l = .ok (l', tr)) : Run (Step rt) l tr l' := by
  simp only [exec, bind_ok, require_ok, pure_ok, Prod.mk.injEq] at h
  obtain ⟨_, hp, ⟨l₁, tr₁⟩, h, _, _, rfl, rfl⟩ := h
  exact perform_run (fun _ => hp) h

/-- Whatever is submitted, the chain has taken a run of steps. -/
theorem submit_run (l : Ledger) (txs : List (Transaction rt)) :
    Run (Step rt) l (submit l txs).2 (submit l txs).1 := by
  induction txs generalizing l with
  | nil => exact .nil l
  | cons tx txs ih =>
    unfold submit
    cases h : tx.exec l with
    | error e => exact ih l
    | ok r => exact (exec_run h).append (ih r.1)

end Transaction

end SolMesh
