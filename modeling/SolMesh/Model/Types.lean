import SolMesh.Support.Bytes
import SolMesh.Support.Readers

namespace SolMesh
open Bytes Readers

/-- A fixed array of `n` bytes, held as the number its bytes spell with the
lowest byte first. -/
abbrev FixedBytes (n : Nat) := BitVec (8 * n)

def FixedBytes.toList {n : Nat} (x : FixedBytes n) : List UInt8 :=
  leBytes n x.toNat

theorem FixedBytes.length_toList {n : Nat} (x : FixedBytes n) : x.toList.length = n :=
  leBytes_length n x.toNat

theorem FixedBytes.toList_inj {n : Nat} {x y : FixedBytes n} (h : x.toList = y.toList) : x = y := by
  have hp : (2 : Nat) ^ (8 * n) = 256 ^ n := by rw [Nat.pow_mul]
  apply BitVec.eq_of_toNat_eq
  exact leBytes_inj (hp ▸ x.isLt) (hp ▸ y.isLt) h

/-- The bytes read back. -/
theorem FixedBytes.ofLe_toList {n : Nat} (x : FixedBytes n) :
    BitVec.ofNat (8 * n) (ofLe x.toList) = x := by
  have hp : (2 : Nat) ^ (8 * n) = 256 ^ n := by rw [Nat.pow_mul]
  have hx : x.toNat % 256 ^ n = x.toNat := Nat.mod_eq_of_lt (hp ▸ x.isLt)
  rw [FixedBytes.toList, ofLe_leBytes, hx]
  exact (BitVec.ofNat_toNat (8 * n) x).trans (BitVec.setWidth_eq x)

abbrev Pubkey := FixedBytes 32

/-- `declare_id!` of the program. -/
def programId : Pubkey := 0x4fad67cbb6fb0b48ee18a2cbd691d88f8fcf417caa14d3e12fea00b2decf380f

/-- `Ed25519SigVerify111111111111111111111111111`. -/
def ed25519ProgramId : Pubkey := 0x804470cafc648af42749747005ff408d838f42f912befb937cd6467d03

/-- The address of the Instructions sysvar. -/
def ixSysvarId : Pubkey := 0x85fcbbadba57556218fc624c1c0c2fd5504d4da3566d17b1817d5a706

def maxFeeBps : UInt16 := 1000
def bpsDenominator : UInt64 := 10000
def maxString : Nat := 64
def minDurationSecs : Int64 := 1
def maxDurationSecs : Int64 := 60 * 60 * 24 * 30
def repBaseReward : UInt32 := 1
def repUnitScale : UInt64 := 1000
def repMaxBonus : UInt32 := 10

inductive SolMeshError
  | paused
  | nodeInactive
  | unauthorized
  | amountZero
  | insufficientDeposit
  | owedExceedsDeposit
  | owedDecreased
  | staleNonce
  | nonceNotIncreasing
  | sessionNotOpen
  | sessionNotClosing
  | challengeWindowOpen
  | challengeWindowClosed
  | ed25519IxMissing
  | ed25519BadProgram
  | ed25519PubkeyMismatch
  | ed25519MessageMismatch
  | ed25519CrossIndex
  | signerMismatch
  | domainMismatch
  | sessionExpired
  | sessionNotExpired
  | sessionHasUsage
  | feeTooHigh
  | badDuration
  | stringTooLong
  | mathOverflow
  | splUnsupported
  deriving DecidableEq, Repr

/-- Failures raised by the account validation of an `Accounts` struct. -/
inductive AnchorError
  | accountNotInitialized
  | accountDiscriminatorMismatch
  | accountNotSystemOwned
  | constraintHasOne
  | constraintSeeds
  | constraintAddress
  | tryingToInitPayerAsProgramAccount
  deriving DecidableEq, Repr

/-- Failures raised by the runtime, the System program and the token programs. -/
inductive RuntimeError
  | accountAlreadyInUse
  | accountBorrowFailed
  | arithmeticOverflow
  | illegalOwner
  | insufficientFunds
  | insufficientFundsForRent
  | invalidAccountData
  | invalidArgument
  | invalidSeeds
  | missingRequiredSignature
  | mintMismatch
  | ownerMismatch
  deriving DecidableEq, Repr

/-- Why an instruction failed. `panic` stands for an abort of the program
itself: an index out of bounds or an arithmetic overflow. -/
inductive Failure
  | custom (e : SolMeshError)
  | anchor (e : AnchorError)
  | runtime (e : RuntimeError)
  | panic
  deriving DecidableEq, Repr

abbrev Outcome (α : Type) := Except Failure α

structure Config where
  authority : Pubkey
  feeBps : UInt16
  feeVault : Pubkey
  challengeWindowSecs : Int64
  mplCoreProgram : Pubkey
  paused : Bool
  bump : UInt8
  deriving DecidableEq, Repr, Inhabited

structure Node where
  asset : Pubkey
  provider : Pubkey
  capacity : UInt64
  geo : String
  reputation : UInt32
  totalUnits : UInt64
  totalSessions : UInt64
  totalSettled : UInt64
  active : Bool
  bump : UInt8
  deriving DecidableEq, Repr, Inhabited

inductive SessionStatus
  | open
  | closing
  | settled
  | cancelled
  | expired
  deriving DecidableEq, Repr, Inhabited

structure Session where
  node : Pubkey
  asset : Pubkey
  provider : Pubkey
  consumer : Pubkey
  /-- `none` is a native SOL escrow. -/
  mint : Option Pubkey
  deposited : UInt64
  settledToProvider : UInt64
  lastNonce : UInt64
  ratePerUnit : UInt64
  openedAt : Int64
  expiry : Int64
  status : SessionStatus
  challengeDeadline : Int64
  pendingPayout : UInt64
  pendingUnits : UInt64
  sessionSeed : UInt64
  vaultBump : UInt8
  bump : UInt8
  deriving DecidableEq, Repr, Inhabited

/-- `8 + INIT_SPACE`: the discriminator and the Borsh width of the fields. -/
def Config.space : Nat := 8 + (32 + 2 + 32 + 8 + 32 + 1 + 1)
def Node.space : Nat := 8 + (32 + 32 + 8 + (4 + 64) + 4 + 8 + 8 + 8 + 1 + 1)
def Session.space : Nat := 8 + (4 * 32 + (1 + 32) + 4 * 8 + 2 * 8 + 1 + 4 * 8 + 1 + 1)

/-- The status values from which no instruction leads on. -/
def SessionStatus.terminal : SessionStatus → Bool
  | .open | .closing => false
  | .settled | .cancelled | .expired => true

/-- What the escrow still owes to the parties together. -/
def Session.unsettled (s : Session) : Nat :=
  s.deposited.toNat - s.settledToProvider.toNat

/-- `b"SOLMESH1"`. -/
def stateDomain : FixedBytes 8 := 0x314853454d4c4f53

/-- The message both parties sign. -/
structure StateUpdate where
  domain : FixedBytes 8
  session : FixedBytes 32
  nonce : UInt64
  owedToProvider : UInt64
  unitsConsumed : UInt64
  timestamp : Int64
  deriving DecidableEq, Repr, Inhabited

/-- Why `std::io` refuses to read. -/
inductive IoError
  | invalidInput (message : String)
  deriving DecidableEq, Repr

/-- What Borsh says when the data ends too early. -/
def unexpectedLengthOfInput : IoError :=
  .invalidInput "Unexpected length of input"

def readArray (n : Nat) : Reader IoError (FixedBytes n) :=
  (fun bs => BitVec.ofNat (8 * n) (ofLe bs)) <$> takeBytes unexpectedLengthOfInput n

def readU64 : Reader IoError UInt64 :=
  (fun bs => UInt64.ofNat (ofLe bs)) <$> takeBytes unexpectedLengthOfInput 8

def readI64 : Reader IoError Int64 :=
  (fun bs => (UInt64.ofNat (ofLe bs)).toInt64) <$> takeBytes unexpectedLengthOfInput 8

namespace StateUpdate

/-- The Borsh encoding: the fields in order, integers little-endian. -/
def toMessageBytes (u : StateUpdate) : List UInt8 :=
  u.domain.toList ++ (u.session.toList ++ (leBytes 8 u.nonce.toNat ++
    (leBytes 8 u.owedToProvider.toNat ++ (leBytes 8 u.unitsConsumed.toNat ++
      leBytes 8 u.timestamp.toUInt64.toNat))))

/-- The Borsh decoding: the fields in order off the front of the data. -/
def deserialize : Reader IoError StateUpdate := do
  let domain ← readArray 8
  let session ← readArray 32
  let nonce ← readU64
  let owedToProvider ← readU64
  let unitsConsumed ← readU64
  let timestamp ← readI64
  return { domain, session, nonce, owedToProvider, unitsConsumed, timestamp }

/-- What follows the last field is not looked at. -/
def fromMessageBytes (data : List UInt8) : Except IoError StateUpdate := do
  let (u, _) ← deserialize.run data
  return u

def hasValidDomain (u : StateUpdate) : Bool :=
  u.domain = stateDomain

theorem toMessageBytes_length (u : StateUpdate) : u.toMessageBytes.length = 72 := by
  simp [toMessageBytes, FixedBytes.length_toList]

theorem leBytes_word_inj {a b : UInt64} (h : leBytes 8 a.toNat = leBytes 8 b.toNat) : a = b :=
  UInt64.toNat_inj.mp (leBytes_inj a.toNat_lt b.toNat_lt h)

/-- The bytes determine the message. -/
theorem toMessageBytes_inj {u v : StateUpdate} (h : u.toMessageBytes = v.toMessageBytes) :
    u = v := by
  obtain ⟨hd, h⟩ := append_inj_of_length (by simp [FixedBytes.length_toList]) h
  obtain ⟨hs, h⟩ := append_inj_of_length (by simp [FixedBytes.length_toList]) h
  obtain ⟨hn, h⟩ := append_inj_of_length (by simp) h
  obtain ⟨ho, h⟩ := append_inj_of_length (by simp) h
  obtain ⟨hu, ht⟩ := append_inj_of_length (by simp) h
  have ht' : u.timestamp = v.timestamp := by
    simpa using congrArg UInt64.toInt64 (leBytes_word_inj ht)
  cases u
  cases v
  simp only [StateUpdate.mk.injEq]
  exact ⟨FixedBytes.toList_inj hd, FixedBytes.toList_inj hs, leBytes_word_inj hn,
    leBytes_word_inj ho, leBytes_word_inj hu, ht'⟩

end StateUpdate

end SolMesh
