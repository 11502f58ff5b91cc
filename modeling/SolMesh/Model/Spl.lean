import SolMesh.Model.Sol

namespace SolMesh
open Outcome Words

/-- The account size of an SPL token account. -/
def tokenAccountSpace : Nat := 165

/-- `init` of a wallet's associated token account: the Associated Token program
takes only the derived address, and only while it is unused. -/
def initAssociatedToken (rt : Runtime) (l : Ledger) (payer k mint authority : Pubkey) :
    Outcome Ledger := do
  require (k = rt.associatedTokenAddress authority mint) (.runtime .invalidSeeds)
  require ((l k).data = .system) (.runtime .illegalOwner)
  initAccount rt l payer k tokenAccountSpace
    (.token { mint := mint, owner := authority, amount := 0 })

@[simp] theorem initAssociatedToken_ok {rt : Runtime} {l l' : Ledger}
    {payer k mint authority : Pubkey} :
    initAssociatedToken rt l payer k mint authority = .ok l' ↔
      k = rt.associatedTokenAddress authority mint ∧
        initAccount rt l payer k tokenAccountSpace
          (.token { mint := mint, owner := authority, amount := 0 }) = .ok l' := by
  simp only [initAssociatedToken, bind_ok, require_ok]
  constructor
  · intro h
    obtain ⟨_, derived, _, _, h⟩ := h
    exact ⟨derived, h⟩
  · intro h
    obtain ⟨derived, h⟩ := h
    refine ⟨(), derived, (), ?_, h⟩
    simp only [initAccount, bind_ok, require_ok] at h
    obtain ⟨_, unused, _⟩ := h
    exact unused

/-- Move tokens out of a vault. The program signs for the session's vault
authority, so that address must be the one the stored bump derives. -/
def transferFromVault (rt : Runtime) (l : Ledger) (vaultToken dest vaultAuthority : Pubkey)
    (sessionKey : Pubkey) (vaultBump : UInt8) (amount : UInt64) : Outcome Ledger :=
  if amount = 0 then return l
  else do
    require (rt.createProgramAddress (.vault sessionKey) vaultBump = some vaultAuthority)
      (.runtime .missingRequiredSignature)
    tokenTransfer l vaultToken dest vaultAuthority amount

structure OpenSessionSpl (rt : Runtime) where
  config : Pubkey
  node : Pubkey
  session : Pubkey
  mint : Pubkey
  consumerToken : Pubkey
  vaultAuthority : Pubkey
  vaultToken : Pubkey
  consumer : Signer rt

def openSessionSplHandler (rt : Runtime) (ctx : TxContext) (l : Ledger) (a : OpenSessionSpl rt)
    (sessionSeed amount : UInt64) (durationSecs : Int64) (ratePerUnit : UInt64) :
    Outcome Effect := do
  let config ← loadConfig l a.config
  checkSeeds rt .config config.bump a.config
  let node ← loadNode l a.node
  checkSeeds rt (.node node.asset) node.bump a.node
  require (node.active = true) (.custom .nodeInactive)
  let bump ← findSeeds rt (.session a.node a.consumer.key sessionSeed) a.session
  let l ← initAccount rt l a.consumer.key a.session Session.space (.session default)
  loadMint l a.mint
  let consumerToken ← loadToken l a.consumerToken
  require (consumerToken.mint = a.mint) (.custom .splUnsupported)
  require (consumerToken.owner = a.consumer.key) (.custom .unauthorized)
  let vaultBump ← findSeeds rt (.vault a.session) a.vaultAuthority
  let l ← initAssociatedToken rt l a.consumer.key a.vaultToken a.mint a.vaultAuthority
  require (config.paused = false) (.custom .paused)
  require (0 < amount) (.custom .amountZero)
  require (minDurationSecs ≤ durationSecs ∧ durationSecs ≤ maxDurationSecs)
    (.custom .badDuration)
  let l ← tokenTransfer l a.consumerToken a.vaultToken a.consumer.key amount
  let now := ctx.unixTimestamp
  let expiry ← okOr (checkedAddInt now durationSecs) (.custom .mathOverflow)
  let s : Session :=
    { node := a.node
      asset := node.asset
      provider := node.provider
      consumer := a.consumer.key
      mint := some a.mint
      deposited := amount
      settledToProvider := 0
      lastNonce := 0
      ratePerUnit := ratePerUnit
      openedAt := now
      expiry := expiry
      status := .open
      challengeDeadline := 0
      pendingPayout := 0
      pendingUnits := 0
      sessionSeed := sessionSeed
      vaultBump := vaultBump
      bump := bump }
  let totalSessions ← okOr (checkedAdd node.totalSessions 1) (.custom .mathOverflow)
  -- `node` is not declared `mut`: its new count stays in memory
  let l := exitAccount .readonly l a.node (.node { node with totalSessions := totalSessions })
  return (exitAccount .writable l a.session (.session s), [])

/-- The accounts that `SettleSpl` and `FinalizeCloseSpl` declare alike. The
vault token account is only required to be a token account. -/
structure PayoutSpl (rt : Runtime) where
  config : Pubkey
  node : Pubkey
  session : Pubkey
  provider : Pubkey
  consumer : Pubkey
  asset : Pubkey
  vaultAuthority : Pubkey
  vaultToken : Pubkey
  providerToken : Pubkey
  consumerToken : Pubkey
  feeToken : Pubkey
  payer : Signer rt
  mplCoreProgram : Pubkey

def PayoutSpl.load (rt : Runtime) (l : Ledger) (a : PayoutSpl rt) :
    Outcome (Config × Node × Session) := do
  let config ← loadConfig l a.config
  checkSeeds rt .config config.bump a.config
  let node ← loadNode l a.node
  checkSeeds rt (.node node.asset) node.bump a.node
  let session ← loadSession l a.session
  require (session.node = a.node) (.anchor .constraintHasOne)
  require (session.provider = a.provider) (.anchor .constraintHasOne)
  require (session.consumer = a.consumer) (.anchor .constraintHasOne)
  checkSeeds rt (.session session.node session.consumer session.sessionSeed) session.bump
    a.session
  require (a.asset = node.asset) (.anchor .constraintAddress)
  let _ ← findSeeds rt (.vault a.session) a.vaultAuthority
  let _ ← loadToken l a.vaultToken
  let providerToken ← loadToken l a.providerToken
  require (providerToken.owner = a.provider) (.custom .unauthorized)
  let consumerToken ← loadToken l a.consumerToken
  require (consumerToken.owner = a.consumer) (.custom .unauthorized)
  let feeToken ← loadToken l a.feeToken
  require (feeToken.owner = config.feeVault) (.custom .unauthorized)
  require (a.mplCoreProgram = config.mplCoreProgram) (.anchor .constraintAddress)
  return (config, node, session)

structure SettleSpl (rt : Runtime) extends PayoutSpl rt where
  instructionsSysvar : Pubkey

def SettleSpl.load (rt : Runtime) (l : Ledger) (a : SettleSpl rt) :
    Outcome (Config × Node × Session) := do
  let loaded ← a.toPayoutSpl.load rt l
  require (a.instructionsSysvar = ixSysvarId) (.anchor .constraintAddress)
  return loaded

def applyStateSpl (rt : Runtime) (ctx : TxContext) (l : Ledger) (a : SettleSpl rt)
    (state : StateUpdate) (isCheckpoint : Bool) : Outcome Effect := do
  let (config, node, session) ← a.load rt l
  require (session.status = .open) (.custom .sessionNotOpen)
  require (session.mint ≠ none) (.custom .splUnsupported)
  require (session.lastNonce < state.nonce) (.custom .staleNonce)
  verifyCosignedState ctx session a.session state
  let payoutDelta ← okOr (checkedSub state.owedToProvider session.settledToProvider)
    (.custom .owedDecreased)
  let fee ← feeFor payoutDelta config.feeBps
  let providerAmount ← okOr (checkedSub payoutDelta fee) (.custom .mathOverflow)
  let vaultBump := session.vaultBump
  let l ← transferFromVault rt l a.vaultToken a.providerToken a.vaultAuthority a.session
    vaultBump providerAmount
  let l ← transferFromVault rt l a.vaultToken a.feeToken a.vaultAuthority a.session
    vaultBump fee
  let newUnits ← okOr (checkedAdd node.totalUnits
    (saturatingSub state.unitsConsumed session.pendingUnits)) (.custom .mathOverflow)
  let newRep := saturatingAdd node.reputation (reputationReward state.unitsConsumed)
  let remainder ← settlementRefund session state.owedToProvider isCheckpoint
  let l ← transferFromVault rt l a.vaultToken a.consumerToken a.vaultAuthority a.session
    vaultBump remainder
  let newSettled ← okOr (checkedAdd node.totalSettled providerAmount) (.custom .mathOverflow)
  let l := exitAccount .writable l a.node (.node (node.credit newRep newUnits newSettled))
  let l := exitAccount .writable l a.session (.session (session.settle state isCheckpoint))
  return (l,
    [⟨a.session, .provider, a.vaultToken, a.providerToken, providerAmount⟩,
     ⟨a.session, .fee, a.vaultToken, a.feeToken, fee⟩,
     ⟨a.session, .consumer, a.vaultToken, a.consumerToken, remainder⟩])

def settleSplHandler (rt : Runtime) (ctx : TxContext) (l : Ledger) (a : SettleSpl rt)
    (state : StateUpdate) : Outcome Effect :=
  applyStateSpl rt ctx l a state false

def checkpointSplHandler (rt : Runtime) (ctx : TxContext) (l : Ledger) (a : SettleSpl rt)
    (state : StateUpdate) : Outcome Effect :=
  applyStateSpl rt ctx l a state true

abbrev FinalizeCloseSpl (rt : Runtime) := PayoutSpl rt

def finalizeCloseSplHandler (rt : Runtime) (ctx : TxContext) (l : Ledger)
    (a : FinalizeCloseSpl rt) : Outcome Effect := do
  let (config, node, session) ← a.load rt l
  let now := ctx.unixTimestamp
  require (session.status = .closing) (.custom .sessionNotClosing)
  require (session.mint ≠ none) (.custom .splUnsupported)
  require (session.challengeDeadline < now) (.custom .challengeWindowOpen)
  let owed := session.pendingPayout
  let units := session.pendingUnits
  let payoutDelta ← okOr (checkedSub owed session.settledToProvider) (.custom .owedDecreased)
  let fee ← feeFor payoutDelta config.feeBps
  let providerAmount ← okOr (checkedSub payoutDelta fee) (.custom .mathOverflow)
  let vaultBump := session.vaultBump
  let l ← transferFromVault rt l a.vaultToken a.providerToken a.vaultAuthority a.session
    vaultBump providerAmount
  let l ← transferFromVault rt l a.vaultToken a.feeToken a.vaultAuthority a.session
    vaultBump fee
  let newUnits ← okOr (checkedAdd node.totalUnits units) (.custom .mathOverflow)
  let newRep := saturatingAdd node.reputation (reputationReward units)
  let remainder ← okOr (checkedSub session.deposited owed) (.custom .mathOverflow)
  let l ← transferFromVault rt l a.vaultToken a.consumerToken a.vaultAuthority a.session
    vaultBump remainder
  let newSettled ← okOr (checkedAdd node.totalSettled providerAmount) (.custom .mathOverflow)
  let s := { session with settledToProvider := owed, status := .settled }
  let l := exitAccount .writable l a.node (.node (node.credit newRep newUnits newSettled))
  let l := exitAccount .writable l a.session (.session s)
  return (l,
    [⟨a.session, .provider, a.vaultToken, a.providerToken, providerAmount⟩,
     ⟨a.session, .fee, a.vaultToken, a.feeToken, fee⟩,
     ⟨a.session, .consumer, a.vaultToken, a.consumerToken, remainder⟩])

structure LifecycleSpl (rt : Runtime) where
  config : Pubkey
  session : Pubkey
  consumer : Pubkey
  vaultAuthority : Pubkey
  vaultToken : Pubkey
  consumerToken : Pubkey
  signer : Signer rt

def LifecycleSpl.load (rt : Runtime) (l : Ledger) (a : LifecycleSpl rt) : Outcome Session := do
  let config ← loadConfig l a.config
  checkSeeds rt .config config.bump a.config
  let session ← loadSession l a.session
  require (session.consumer = a.consumer) (.anchor .constraintHasOne)
  checkSeeds rt (.session session.node session.consumer session.sessionSeed) session.bump
    a.session
  let _ ← findSeeds rt (.vault a.session) a.vaultAuthority
  let _ ← loadToken l a.vaultToken
  let consumerToken ← loadToken l a.consumerToken
  require (consumerToken.owner = a.consumer) (.custom .unauthorized)
  return session

/-- Pay the consumer what is unsettled, and close the session as `status`. -/
def refundConsumerSpl (rt : Runtime) (l : Ledger) (a : LifecycleSpl rt) (session : Session)
    (status : SessionStatus) : Outcome Effect := do
  let remainder ← okOr (checkedSub session.deposited session.settledToProvider)
    (.custom .mathOverflow)
  let l ← transferFromVault rt l a.vaultToken a.consumerToken a.vaultAuthority a.session
    session.vaultBump remainder
  return (exitAccount .writable l a.session (.session { session with status := status }),
    [⟨a.session, .consumer, a.vaultToken, a.consumerToken, remainder⟩])

def cancelSessionSplHandler (rt : Runtime) (l : Ledger) (a : LifecycleSpl rt) :
    Outcome Effect := do
  let session ← a.load rt l
  require (session.status = .open) (.custom .sessionNotOpen)
  require (session.mint ≠ none) (.custom .splUnsupported)
  require (session.lastNonce = 0) (.custom .sessionHasUsage)
  require (a.signer.key = session.consumer) (.custom .unauthorized)
  refundConsumerSpl rt l a session .cancelled

def expireSessionSplHandler (rt : Runtime) (ctx : TxContext) (l : Ledger)
    (a : LifecycleSpl rt) : Outcome Effect := do
  let session ← a.load rt l
  let now := ctx.unixTimestamp
  require (session.status = .open) (.custom .sessionNotOpen)
  require (session.mint ≠ none) (.custom .splUnsupported)
  require (session.expiry < now) (.custom .sessionNotExpired)
  refundConsumerSpl rt l a session .expired

end SolMesh
