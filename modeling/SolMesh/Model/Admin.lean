import SolMesh.Model.Shared

namespace SolMesh
open Outcome Words

structure InitializeConfig (rt : Runtime) where
  config : Pubkey
  feeVault : Pubkey
  authority : Signer rt

def initializeConfigHandler (rt : Runtime) (l : Ledger) (a : InitializeConfig rt)
    (feeBps : UInt16) (challengeWindowSecs : Int64) (mplCoreProgram : Pubkey) :
    Outcome Effect := do
  let bump ← findSeeds rt .config a.config
  let l ← initAccount rt l a.authority.key a.config Config.space (.config default)
  let _ ← findSeeds rt .feeVault a.feeVault
  require (feeBps ≤ maxFeeBps) (.custom .feeTooHigh)
  require (0 < challengeWindowSecs) (.custom .badDuration)
  let c : Config :=
    { authority := a.authority.key
      feeBps := feeBps
      feeVault := a.feeVault
      challengeWindowSecs := challengeWindowSecs
      mplCoreProgram := mplCoreProgram
      paused := false
      bump := bump }
  return (exitAccount .writable l a.config (.config c), [])

def attrCapacity : String := "capacity"
def attrGeo : String := "geo"
def attrReputation : String := "reputation"
def attrTotalUnits : String := "total_units"

def nodeAttributes (capacity : UInt64) (geo : String) (reputation : UInt32)
    (totalUnits : UInt64) : List Attribute :=
  [{ key := attrCapacity, value := toString capacity.toNat },
   { key := attrGeo, value := geo },
   { key := attrReputation, value := toString reputation.toNat },
   { key := attrTotalUnits, value := toString totalUnits.toNat }]

/-- The call to Metaplex Core's `CreateV1`: a fresh asset holding the given
attributes, with the node as the authority over them. -/
def createNodeAsset (rt : Runtime) (l : Ledger) (asset payer owner updateAuthority : Pubkey)
    (name uri : String) (capacity : UInt64) (geo : String) (initReputation : UInt32) :
    Outcome Ledger := do
  require ((l asset).data = .system ∧ (l asset).lamports = 0) (.runtime .accountAlreadyInUse)
  let l ← systemTransfer l payer asset rt.coreRent
  return l.setData asset (.core
    { owner := owner
      updateAuthority := updateAuthority
      name := name
      uri := uri
      attributes := nodeAttributes capacity geo initReputation 0 })

/-- The call to `UpdatePluginV1`: the authority rewrites the whole list. -/
def setReputation (l : Ledger) (asset updateAuthority : Pubkey) (capacity : UInt64)
    (geo : String) (reputation : UInt32) (totalUnits : UInt64) : Outcome Ledger :=
  match (l asset).data with
  | .core c => do
    require (c.updateAuthority = updateAuthority) (.runtime .missingRequiredSignature)
    return l.setData asset (.core
      { c with attributes := nodeAttributes capacity geo reputation totalUnits })
  | _ => .error (.runtime .invalidAccountData)

structure RegisterNode (rt : Runtime) where
  config : Pubkey
  node : Pubkey
  asset : Signer rt
  provider : Signer rt
  mplCoreProgram : Pubkey

def registerNodeHandler (rt : Runtime) (l : Ledger) (a : RegisterNode rt) (name uri : String)
    (capacity : UInt64) (geo : String) (initReputation : UInt32) : Outcome Effect := do
  let config ← loadConfig l a.config
  checkSeeds rt .config config.bump a.config
  let bump ← findSeeds rt (.node a.asset.key) a.node
  let l ← initAccount rt l a.provider.key a.node Node.space (.node default)
  require (a.mplCoreProgram = config.mplCoreProgram) (.anchor .constraintAddress)
  require (config.paused = false) (.custom .paused)
  require (name.utf8ByteSize ≤ maxString ∧ geo.utf8ByteSize ≤ maxString ∧
    uri.utf8ByteSize ≤ 200) (.custom .stringTooLong)
  require (0 < capacity) (.custom .amountZero)
  let l ← createNodeAsset rt l a.asset.key a.provider.key a.provider.key a.node name uri
    capacity geo initReputation
  let node : Node :=
    { asset := a.asset.key
      provider := a.provider.key
      capacity := capacity
      geo := geo
      reputation := initReputation
      totalUnits := 0
      totalSessions := 0
      totalSettled := 0
      active := true
      bump := bump }
  return (exitAccount .writable l a.node (.node node), [])

structure AdminConfig (rt : Runtime) where
  config : Pubkey
  authority : Signer rt

def AdminConfig.load (rt : Runtime) (l : Ledger) (a : AdminConfig rt) : Outcome Config := do
  let config ← loadConfig l a.config
  require (config.authority = a.authority.key) (.custom .unauthorized)
  checkSeeds rt .config config.bump a.config
  return config

/-- An option left out keeps what is there. -/
def Config.withFeeBps (c : Config) : Option UInt16 → Outcome Config
  | none => return c
  | some f => do
    require (f ≤ maxFeeBps) (.custom .feeTooHigh)
    return { c with feeBps := f }

def Config.withChallengeWindow (c : Config) : Option Int64 → Outcome Config
  | none => return c
  | some w => do
    require (0 < w) (.custom .badDuration)
    return { c with challengeWindowSecs := w }

def updateConfigHandler (rt : Runtime) (l : Ledger) (a : AdminConfig rt)
    (feeBps : Option UInt16) (challengeWindowSecs : Option Int64) : Outcome Effect := do
  let c ← a.load rt l
  let c ← c.withFeeBps feeBps
  let c ← c.withChallengeWindow challengeWindowSecs
  return (exitAccount .writable l a.config (.config c), [])

def setPausedHandler (rt : Runtime) (l : Ledger) (a : AdminConfig rt) (paused : Bool) :
    Outcome Effect := do
  let c ← a.load rt l
  return (exitAccount .writable l a.config (.config { c with paused := paused }), [])

structure WithdrawFees (rt : Runtime) where
  config : Pubkey
  feeVault : Pubkey
  authority : Signer rt
  destination : Pubkey

def withdrawFeesHandler (rt : Runtime) (l : Ledger) (a : WithdrawFees rt) (amount : UInt64) :
    Outcome Effect := do
  let config ← loadConfig l a.config
  require (config.authority = a.authority.key) (.custom .unauthorized)
  checkSeeds rt .config config.bump a.config
  require ((l a.feeVault).data = .system) (.anchor .accountNotSystemOwned)
  let _ ← findSeeds rt .feeVault a.feeVault
  let l ← systemTransfer l a.feeVault a.destination amount
  return (l, [])

structure UpdateNodeMeta (rt : Runtime) where
  config : Pubkey
  node : Pubkey
  asset : Pubkey
  payer : Signer rt
  provider : Signer rt
  mplCoreProgram : Pubkey

def Node.withCapacity (n : Node) : Option UInt64 → Outcome Node
  | none => return n
  | some c => do
    require (0 < c) (.custom .amountZero)
    return { n with capacity := c }

def Node.withGeo (n : Node) : Option String → Outcome Node
  | none => return n
  | some g => do
    require (g.utf8ByteSize ≤ maxString) (.custom .stringTooLong)
    return { n with geo := g }

def Node.withActive (n : Node) : Option Bool → Node
  | none => n
  | some b => { n with active := b }

def updateNodeMetaHandler (rt : Runtime) (l : Ledger) (a : UpdateNodeMeta rt)
    (capacity : Option UInt64) (geo : Option String) (active : Option Bool) :
    Outcome Effect := do
  let config ← loadConfig l a.config
  checkSeeds rt .config config.bump a.config
  let node ← loadNode l a.node
  require (node.provider = a.provider.key) (.custom .unauthorized)
  checkSeeds rt (.node node.asset) node.bump a.node
  require (a.asset = node.asset) (.anchor .constraintAddress)
  require (a.mplCoreProgram = config.mplCoreProgram) (.anchor .constraintAddress)
  let node ← node.withCapacity capacity
  let node ← node.withGeo geo
  let node := node.withActive active
  let l ← setReputation l a.asset a.node node.capacity node.geo node.reputation node.totalUnits
  return (exitAccount .writable l a.node (.node node), [])

end SolMesh
