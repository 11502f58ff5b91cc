import SolMesh.Model.Client
import SolMesh.Model.Program

namespace SolMesh.Sdk
open Bytes Client

/-- `ComputeBudget111111111111111111111111111111`. -/
def computeBudgetProgramId : Pubkey := 0x403a9b432c6b12f7c5bbe58cbce79bc372baadecff321721e56f460603

section
variable (rt : Runtime)

/-- `findProgramAddressSync(..)[0]`, which throws where no bump will do. -/
def pda (seeds : Seeds) : Option Pubkey :=
  (rt.find seeds).map Prod.fst

def configPda : Option Pubkey :=
  pda rt .config

def feeVaultPda : Option Pubkey :=
  pda rt .feeVault

/-- `toArrayLike` leaves out the sign and throws on a number that is too long. -/
def sessionPda (node consumer : Pubkey) (seed : Int) : Option Pubkey :=
  if seed.natAbs < 2 ^ 64 then pda rt (.session node consumer (UInt64.ofNat seed.natAbs))
  else none

def vaultAuthority (session : Pubkey) : Option Pubkey :=
  pda rt (.vault session)

/-- `setComputeUnitLimit({ units: 400_000 })`, which touches no account. -/
def setComputeUnitLimit : Instruction rt :=
  ⟨computeBudgetProgramId, 2 :: leBytes 4 400000, []⟩

/-- A signature for the precompile, which touches no account either. -/
def carry (ix : InstructionData) : Instruction rt :=
  ⟨ix.programId, ix.data, []⟩

end

/-- An instruction of the program: Anchor puts the method's discriminator in
front of the arguments. -/
def method {rt : Runtime} (discriminator : String → List UInt8) (name : String)
    (args : List UInt8) (c : Call rt) : Instruction rt :=
  ⟨programId, discriminator name ++ args, [.call c]⟩

structure OpenOpts (rt : Runtime) where
  consumer : Signer rt
  node : Pubkey
  seed : Int
  amount : Int
  durationSecs : Int
  ratePerUnit : Int

def openSession {rt : Runtime} (discriminator : String → List UInt8) (opts : OpenOpts rt) :
    Option (List (Instruction rt)) := do
  let args := (← encodeU64 opts.seed) ++ (← encodeU64 opts.amount) ++
    (← encodeI64 opts.durationSecs) ++ (← encodeU64 opts.ratePerUnit)
  let a : OpenSession rt :=
    { config := ← configPda rt
      node := opts.node
      session := ← sessionPda rt opts.node opts.consumer.key opts.seed
      consumer := opts.consumer }
  return [method discriminator "open_session" args (.openSession a (← u64Arg opts.seed)
    (← u64Arg opts.amount) (← i64Arg opts.durationSecs) (← u64Arg opts.ratePerUnit))]

structure OpenSplOpts (rt : Runtime) extends OpenOpts rt where
  mint : Pubkey
  consumerToken : Pubkey

/-- The same in tokens, with the vault at the associated address of its authority. -/
def openSessionSpl {rt : Runtime} (discriminator : String → List UInt8) (opts : OpenSplOpts rt) :
    Option (List (Instruction rt)) := do
  let session ← sessionPda rt opts.node opts.consumer.key opts.seed
  let vaultAuthority ← vaultAuthority rt session
  let vaultToken := rt.associatedTokenAddress vaultAuthority opts.mint
  let args := (← encodeU64 opts.seed) ++ (← encodeU64 opts.amount) ++
    (← encodeI64 opts.durationSecs) ++ (← encodeU64 opts.ratePerUnit)
  let a : OpenSessionSpl rt :=
    { config := ← configPda rt
      node := opts.node
      session := session
      mint := opts.mint
      consumerToken := opts.consumerToken
      vaultAuthority := vaultAuthority
      vaultToken := vaultToken
      consumer := opts.consumer }
  return [method discriminator "open_session_spl" args (.openSessionSpl a (← u64Arg opts.seed)
    (← u64Arg opts.amount) (← i64Arg opts.durationSecs) (← u64Arg opts.ratePerUnit))]

structure SettleOpts (rt : Runtime) where
  payer : Signer rt
  node : Pubkey
  asset : Pubkey
  provider : Pubkey
  consumer : Pubkey
  session : Pubkey
  mplCore : Pubkey
  state : Client.StateUpdate
  providerSig : FixedBytes 64
  consumerSig : FixedBytes 64
  checkpoint : Bool

/-- The two signatures in front of the settlement. -/
def settle {rt : Runtime} (discriminator : String → List UInt8) (opts : SettleOpts rt) :
    Option (List (Instruction rt)) := do
  let ixs ← cosignIxs opts.state ⟨opts.provider, opts.providerSig⟩
    ⟨opts.consumer, opts.consumerSig⟩
  let args ← (toAnchorArg opts.state).encode
  let state ← (toAnchorArg opts.state).receive
  let a : Settle rt :=
    { config := ← configPda rt
      node := opts.node
      session := opts.session
      provider := opts.provider
      consumer := opts.consumer
      asset := opts.asset
      feeVault := ← feeVaultPda rt
      payer := opts.payer
      mplCoreProgram := opts.mplCore
      instructionsSysvar := ixSysvarId }
  let settleIx :=
    if opts.checkpoint then
      method discriminator "checkpoint_settle" args (.checkpointSettle a state)
    else method discriminator "settle_session" args (.settleSession a state)
  return setComputeUnitLimit rt :: (ixs.map (carry rt) ++ [settleIx])

structure SettleSplOpts (rt : Runtime) where
  payer : Signer rt
  node : Pubkey
  asset : Pubkey
  provider : Pubkey
  consumer : Pubkey
  session : Pubkey
  mplCore : Pubkey
  state : Client.StateUpdate
  providerSig : FixedBytes 64
  consumerSig : FixedBytes 64
  vaultToken : Pubkey
  providerToken : Pubkey
  consumerToken : Pubkey
  feeToken : Pubkey
  checkpoint : Bool

/-- The same in tokens, with the token accounts that the caller names. -/
def settleSpl {rt : Runtime} (discriminator : String → List UInt8) (opts : SettleSplOpts rt) :
    Option (List (Instruction rt)) := do
  let ixs ← cosignIxs opts.state ⟨opts.provider, opts.providerSig⟩
    ⟨opts.consumer, opts.consumerSig⟩
  let args ← (toAnchorArg opts.state).encode
  let state ← (toAnchorArg opts.state).receive
  let a : SettleSpl rt :=
    { config := ← configPda rt
      node := opts.node
      session := opts.session
      provider := opts.provider
      consumer := opts.consumer
      asset := opts.asset
      vaultAuthority := ← vaultAuthority rt opts.session
      vaultToken := opts.vaultToken
      providerToken := opts.providerToken
      consumerToken := opts.consumerToken
      feeToken := opts.feeToken
      payer := opts.payer
      mplCoreProgram := opts.mplCore
      instructionsSysvar := ixSysvarId }
  let settleIx :=
    if opts.checkpoint then
      method discriminator "checkpoint_settle_spl" args (.checkpointSettleSpl a state)
    else method discriminator "settle_session_spl" args (.settleSessionSpl a state)
  return setComputeUnitLimit rt :: (ixs.map (carry rt) ++ [settleIx])

/-- The methods that take the same accounts and a co-signed state. -/
inductive CloseMethod
  | initiateUnilateralClose
  | challenge
  deriving DecidableEq, Repr

structure CloseOpts (rt : Runtime) where
  caller : Signer rt
  provider : Pubkey
  consumer : Pubkey
  session : Pubkey
  state : Client.StateUpdate
  providerSig : FixedBytes 64
  consumerSig : FixedBytes 64

def cosignedClose {rt : Runtime} (discriminator : String → List UInt8) (name : CloseMethod)
    (opts : CloseOpts rt) : Option (List (Instruction rt)) := do
  let ixs ← cosignIxs opts.state ⟨opts.provider, opts.providerSig⟩
    ⟨opts.consumer, opts.consumerSig⟩
  let args ← (toAnchorArg opts.state).encode
  let state ← (toAnchorArg opts.state).receive
  let a : UnilateralClose rt :=
    { config := ← configPda rt
      session := opts.session
      provider := opts.provider
      consumer := opts.consumer
      caller := opts.caller
      instructionsSysvar := ixSysvarId }
  let ix :=
    match name with
    | .initiateUnilateralClose =>
      method discriminator "initiate_unilateral_close" args (.initiateUnilateralClose a state)
    | .challenge => method discriminator "challenge" args (.challenge a state)
  return ixs.map (carry rt) ++ [ix]

end SolMesh.Sdk
