import SolMesh.Model.Shared

namespace SolMesh
open Outcome Words

structure OpenSession (rt : Runtime) where
  config : Pubkey
  node : Pubkey
  session : Pubkey
  consumer : Signer rt

def openSessionHandler (rt : Runtime) (ctx : TxContext) (l : Ledger) (a : OpenSession rt)
    (sessionSeed amount : UInt64) (durationSecs : Int64) (ratePerUnit : UInt64) :
    Outcome Effect := do
  let config ← loadConfig l a.config
  checkSeeds rt .config config.bump a.config
  let node ← loadNode l a.node
  checkSeeds rt (.node node.asset) node.bump a.node
  require (node.active = true) (.custom .nodeInactive)
  let bump ← findSeeds rt (.session a.node a.consumer.key sessionSeed) a.session
  let l ← initAccount rt l a.consumer.key a.session Session.space (.session default)
  require (config.paused = false) (.custom .paused)
  require (0 < amount) (.custom .amountZero)
  require (minDurationSecs ≤ durationSecs ∧ durationSecs ≤ maxDurationSecs)
    (.custom .badDuration)
  let l ← systemTransfer l a.consumer.key a.session amount
  let now := ctx.unixTimestamp
  let expiry ← okOr (checkedAddInt now durationSecs) (.custom .mathOverflow)
  let s : Session :=
    { node := a.node
      asset := node.asset
      provider := node.provider
      consumer := a.consumer.key
      mint := none
      deposited := amount
      settledToProvider := 0
      lastNonce := 0
      ratePerUnit := ratePerUnit
      openedAt := now
      expiry := expiry
      status := .open
      challengeDeadline := 0
      pendingPayout := 0
      pendingUnits := 0
      sessionSeed := sessionSeed
      vaultBump := 0
      bump := bump }
  let totalSessions ← okOr (checkedAdd node.totalSessions 1) (.custom .mathOverflow)
  -- `node` is not declared `mut`: its new count stays in memory
  let l := exitAccount .readonly l a.node (.node { node with totalSessions := totalSessions })
  return (exitAccount .writable l a.session (.session s), [])

structure Settle (rt : Runtime) where
  config : Pubkey
  node : Pubkey
  session : Pubkey
  provider : Pubkey
  consumer : Pubkey
  asset : Pubkey
  feeVault : Pubkey
  payer : Signer rt
  mplCoreProgram : Pubkey
  instructionsSysvar : Pubkey

def Settle.load (rt : Runtime) (l : Ledger) (a : Settle rt) :
    Outcome (Config × Node × Session) := do
  let config ← loadConfig l a.config
  checkSeeds rt .config config.bump a.config
  let node ← loadNode l a.node
  checkSeeds rt (.node node.asset) node.bump a.node
  let session ← loadSession l a.session
  require (session.node = a.node) (.anchor .constraintHasOne)
  require (session.provider = a.provider) (.anchor .constraintHasOne)
  require (session.consumer = a.consumer) (.anchor .constraintHasOne)
  checkSeeds rt (.session session.node session.consumer session.sessionSeed) session.bump
    a.session
  require (a.asset = node.asset) (.anchor .constraintAddress)
  require (a.feeVault = config.feeVault) (.anchor .constraintAddress)
  require (a.mplCoreProgram = config.mplCoreProgram) (.anchor .constraintAddress)
  require (a.instructionsSysvar = ixSysvarId) (.anchor .constraintAddress)
  return (config, node, session)

/-- The consumer's share at a settlement. A checkpoint refunds nothing. -/
def settlementRefund (session : Session) (owed : UInt64) (isCheckpoint : Bool) :
    Outcome UInt64 :=
  if isCheckpoint then return 0
  else okOr (checkedSub session.deposited owed) (.custom .mathOverflow)

/-- The session after paying out the update `state`. -/
def Session.settle (s : Session) (state : StateUpdate) (isCheckpoint : Bool) : Session :=
  { s with
    settledToProvider := state.owedToProvider
    lastNonce := state.nonce
    pendingUnits := state.unitsConsumed
    status := if isCheckpoint then s.status else .settled }

/-- The node's trackers after a payout: work units, earnings and reputation. -/
def Node.credit (n : Node) (reputation : UInt32) (totalUnits totalSettled : UInt64) : Node :=
  { n with reputation := reputation, totalUnits := totalUnits, totalSettled := totalSettled }

def applyState (rt : Runtime) (ctx : TxContext) (l : Ledger) (a : Settle rt)
    (state : StateUpdate) (isCheckpoint : Bool) : Outcome Effect := do
  let (config, node, session) ← a.load rt l
  require (session.status = .open) (.custom .sessionNotOpen)
  require (session.mint = none) (.custom .splUnsupported)
  require (session.lastNonce < state.nonce) (.custom .staleNonce)
  verifyCosignedState ctx session a.session state
  let payoutDelta ← okOr (checkedSub state.owedToProvider session.settledToProvider)
    (.custom .owedDecreased)
  let fee ← feeFor payoutDelta config.feeBps
  let providerAmount ← okOr (checkedSub payoutDelta fee) (.custom .mathOverflow)
  let newUnits ← okOr (checkedAdd node.totalUnits
    (saturatingSub state.unitsConsumed session.pendingUnits)) (.custom .mathOverflow)
  let newRep := saturatingAdd node.reputation (reputationReward state.unitsConsumed)
  let l ← pdaTransferLamports l a.session a.provider providerAmount
  let l ← pdaTransferLamports l a.session a.feeVault fee
  let remainder ← settlementRefund session state.owedToProvider isCheckpoint
  let l ← pdaTransferLamports l a.session a.consumer remainder
  let newSettled ← okOr (checkedAdd node.totalSettled providerAmount) (.custom .mathOverflow)
  let l := exitAccount .writable l a.node (.node (node.credit newRep newUnits newSettled))
  let l := exitAccount .writable l a.session (.session (session.settle state isCheckpoint))
  return (l,
    [⟨a.session, .provider, a.session, a.provider, providerAmount⟩,
     ⟨a.session, .fee, a.session, a.feeVault, fee⟩,
     ⟨a.session, .consumer, a.session, a.consumer, remainder⟩])

def settleHandler (rt : Runtime) (ctx : TxContext) (l : Ledger) (a : Settle rt)
    (state : StateUpdate) : Outcome Effect :=
  applyState rt ctx l a state false

def checkpointHandler (rt : Runtime) (ctx : TxContext) (l : Ledger) (a : Settle rt)
    (state : StateUpdate) : Outcome Effect :=
  applyState rt ctx l a state true

structure UnilateralClose (rt : Runtime) where
  config : Pubkey
  session : Pubkey
  provider : Pubkey
  consumer : Pubkey
  caller : Signer rt
  instructionsSysvar : Pubkey

def UnilateralClose.load (rt : Runtime) (l : Ledger) (a : UnilateralClose rt) :
    Outcome (Config × Session) := do
  let config ← loadConfig l a.config
  checkSeeds rt .config config.bump a.config
  let session ← loadSession l a.session
  require (session.provider = a.provider) (.anchor .constraintHasOne)
  require (session.consumer = a.consumer) (.anchor .constraintHasOne)
  checkSeeds rt (.session session.node session.consumer session.sessionSeed) session.bump
    a.session
  require (a.instructionsSysvar = ixSysvarId) (.anchor .constraintAddress)
  return (config, session)

/-- The update becomes the one to be paid out unless a later one replaces it. -/
def Session.propose (s : Session) (state : StateUpdate) : Session :=
  { s with
    lastNonce := state.nonce
    pendingPayout := state.owedToProvider
    pendingUnits := state.unitsConsumed }

def initiateHandler (rt : Runtime) (ctx : TxContext) (l : Ledger) (a : UnilateralClose rt)
    (state : StateUpdate) : Outcome Effect := do
  let (config, session) ← a.load rt l
  require (a.caller.key = session.provider ∨ a.caller.key = session.consumer)
    (.custom .unauthorized)
  require (session.status = .open) (.custom .sessionNotOpen)
  require (session.lastNonce < state.nonce) (.custom .staleNonce)
  verifyCosignedState ctx session a.session state
  let now := ctx.unixTimestamp
  let deadline ← okOr (checkedAddInt now config.challengeWindowSecs) (.custom .mathOverflow)
  let s := { session.propose state with status := .closing, challengeDeadline := deadline }
  return (exitAccount .writable l a.session (.session s), [])

def challengeHandler (rt : Runtime) (ctx : TxContext) (l : Ledger) (a : UnilateralClose rt)
    (state : StateUpdate) : Outcome Effect := do
  let (_, session) ← a.load rt l
  let now := ctx.unixTimestamp
  require (session.status = .closing) (.custom .sessionNotClosing)
  require (now ≤ session.challengeDeadline) (.custom .challengeWindowClosed)
  require (session.lastNonce < state.nonce) (.custom .nonceNotIncreasing)
  verifyCosignedState ctx session a.session state
  return (exitAccount .writable l a.session (.session (session.propose state)), [])

structure FinalizeClose (rt : Runtime) where
  config : Pubkey
  node : Pubkey
  session : Pubkey
  provider : Pubkey
  consumer : Pubkey
  asset : Pubkey
  feeVault : Pubkey
  payer : Signer rt
  mplCoreProgram : Pubkey

def FinalizeClose.load (rt : Runtime) (l : Ledger) (a : FinalizeClose rt) :
    Outcome (Config × Node × Session) := do
  let config ← loadConfig l a.config
  checkSeeds rt .config config.bump a.config
  let node ← loadNode l a.node
  checkSeeds rt (.node node.asset) node.bump a.node
  let session ← loadSession l a.session
  require (session.node = a.node) (.anchor .constraintHasOne)
  require (session.provider = a.provider) (.anchor .constraintHasOne)
  require (session.consumer = a.consumer) (.anchor .constraintHasOne)
  checkSeeds rt (.session session.node session.consumer session.sessionSeed) session.bump
    a.session
  require (a.asset = node.asset) (.anchor .constraintAddress)
  require (a.feeVault = config.feeVault) (.anchor .constraintAddress)
  require (a.mplCoreProgram = config.mplCoreProgram) (.anchor .constraintAddress)
  return (config, node, session)

/-- After the challenge window: distribute by the highest accepted update. The
escrow kind is not looked at. -/
def finalizeHandler (rt : Runtime) (ctx : TxContext) (l : Ledger) (a : FinalizeClose rt) :
    Outcome Effect := do
  let (config, node, session) ← a.load rt l
  let now := ctx.unixTimestamp
  require (session.status = .closing) (.custom .sessionNotClosing)
  require (session.challengeDeadline < now) (.custom .challengeWindowOpen)
  let owed := session.pendingPayout
  let units := session.pendingUnits
  let payoutDelta ← okOr (checkedSub owed session.settledToProvider) (.custom .owedDecreased)
  let fee ← feeFor payoutDelta config.feeBps
  let providerAmount ← okOr (checkedSub payoutDelta fee) (.custom .mathOverflow)
  let l ← pdaTransferLamports l a.session a.provider providerAmount
  let l ← pdaTransferLamports l a.session a.feeVault fee
  let newUnits ← okOr (checkedAdd node.totalUnits units) (.custom .mathOverflow)
  let newRep := saturatingAdd node.reputation (reputationReward units)
  let newSettled ← okOr (checkedAdd node.totalSettled providerAmount) (.custom .mathOverflow)
  let remainder ← okOr (checkedSub session.deposited owed) (.custom .mathOverflow)
  let l ← pdaTransferLamports l a.session a.consumer remainder
  let s := { session with settledToProvider := owed, status := .settled }
  let l := exitAccount .writable l a.node (.node (node.credit newRep newUnits newSettled))
  let l := exitAccount .writable l a.session (.session s)
  return (l,
    [⟨a.session, .provider, a.session, a.provider, providerAmount⟩,
     ⟨a.session, .fee, a.session, a.feeVault, fee⟩,
     ⟨a.session, .consumer, a.session, a.consumer, remainder⟩])

structure CancelSession (rt : Runtime) where
  config : Pubkey
  session : Pubkey
  consumer : Signer rt

def CancelSession.load (rt : Runtime) (l : Ledger) (a : CancelSession rt) : Outcome Session := do
  let config ← loadConfig l a.config
  checkSeeds rt .config config.bump a.config
  let session ← loadSession l a.session
  require (session.consumer = a.consumer.key) (.anchor .constraintHasOne)
  checkSeeds rt (.session session.node session.consumer session.sessionSeed) session.bump
    a.session
  return session

/-- Pay the consumer what is unsettled, and close the session as `status`. -/
def refundConsumer (l : Ledger) (session : Session) (key consumer : Pubkey)
    (status : SessionStatus) : Outcome Effect := do
  let remainder ← okOr (checkedSub session.deposited session.settledToProvider)
    (.custom .mathOverflow)
  let l ← pdaTransferLamports l key consumer remainder
  return (exitAccount .writable l key (.session { session with status := status }),
    [⟨key, .consumer, key, consumer, remainder⟩])

def cancelHandler (rt : Runtime) (l : Ledger) (a : CancelSession rt) : Outcome Effect := do
  let session ← a.load rt l
  require (session.status = .open) (.custom .sessionNotOpen)
  require (session.lastNonce = 0) (.custom .sessionHasUsage)
  refundConsumer l session a.session a.consumer.key .cancelled

structure ExpireSession (rt : Runtime) where
  config : Pubkey
  session : Pubkey
  consumer : Pubkey
  cranker : Signer rt

def ExpireSession.load (rt : Runtime) (l : Ledger) (a : ExpireSession rt) : Outcome Session := do
  let config ← loadConfig l a.config
  checkSeeds rt .config config.bump a.config
  let session ← loadSession l a.session
  require (session.consumer = a.consumer) (.anchor .constraintHasOne)
  checkSeeds rt (.session session.node session.consumer session.sessionSeed) session.bump
    a.session
  return session

def expireHandler (rt : Runtime) (ctx : TxContext) (l : Ledger) (a : ExpireSession rt) :
    Outcome Effect := do
  let session ← a.load rt l
  let now := ctx.unixTimestamp
  require (session.status = .open) (.custom .sessionNotOpen)
  require (session.expiry < now) (.custom .sessionNotExpired)
  refundConsumer l session a.session a.consumer .expired

end SolMesh
