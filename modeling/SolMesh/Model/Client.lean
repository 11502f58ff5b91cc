import SolMesh.Model.Shared

namespace SolMesh.Client
open Bytes

/-- `Buffer.from("SOLMESH1", "utf8")`. -/
def stateDomain : List UInt8 := [83, 79, 76, 77, 69, 83, 72, 49]

/-- A state as the client holds it, with integers of any size. -/
structure StateUpdate where
  session : Pubkey
  nonce : Int
  owedToProvider : Int
  unitsConsumed : Int
  timestamp : Int
  deriving DecidableEq, Repr

/-- `writeBigUInt64LE`, which throws on a value out of range. -/
def u64le (v : Int) : Option (List UInt8) :=
  if 0 ≤ v ∧ v < 2 ^ 64 then some (leBytes 8 v.toNat) else none

/-- `writeBigInt64LE`, in two's complement. -/
def i64le (v : Int) : Option (List UInt8) :=
  if -2 ^ 63 ≤ v ∧ v < 2 ^ 63 then some (leBytes 8 (v % 2 ^ 64).toNat) else none

/-- The bytes that both parties sign. -/
def serializeState (s : StateUpdate) : Option (List UInt8) := do
  let nonce ← u64le s.nonce
  let owedToProvider ← u64le s.owedToProvider
  let unitsConsumed ← u64le s.unitsConsumed
  let timestamp ← i64le s.timestamp
  return stateDomain ++ (s.session.toList ++ (nonce ++ (owedToProvider ++
    (unitsConsumed ++ timestamp))))

/-- The object handed to Anchor for the instruction's argument. -/
structure AnchorArg where
  domain : List UInt8
  session : List UInt8
  nonce : Int
  owedToProvider : Int
  unitsConsumed : Int
  timestamp : Int
  deriving DecidableEq, Repr

/-- What `new BN` reads in a text: a sign, if there is one, and decimal digits. -/
def parseBn : List Char → Int
  | '-' :: digits => -(Nat.ofDigitChars 10 digits 0 : Int)
  | digits => Nat.ofDigitChars 10 digits 0

/-- `new BN(v.toString())`: the number by way of its decimal digits. -/
def bn (v : Int) : Int :=
  parseBn (toString v).toList

def toAnchorArg (s : StateUpdate) : AnchorArg where
  domain := stateDomain
  session := s.session.toList
  nonce := bn s.nonce
  owedToProvider := bn s.owedToProvider
  unitsConsumed := bn s.unitsConsumed
  timestamp := bn s.timestamp

/-- A `[u8; n]` field of the program's argument. -/
def bytesArg (n : Nat) (bs : List UInt8) : Option (FixedBytes n) :=
  if bs.length = n then some (BitVec.ofNat (8 * n) (ofLe bs)) else none

/-- A `u64` field. -/
def u64Arg (v : Int) : Option UInt64 :=
  if 0 ≤ v ∧ v < 2 ^ 64 then some (UInt64.ofNat v.toNat) else none

/-- An `i64` field. -/
def i64Arg (v : Int) : Option Int64 :=
  if -2 ^ 63 ≤ v ∧ v < 2 ^ 63 then some (Int64.ofInt v) else none

/-- The argument as the program gets it. Anchor carries each field at the width
the program declares for it and throws where the value does not fit. -/
def AnchorArg.receive (a : AnchorArg) : Option SolMesh.StateUpdate := do
  let domain ← bytesArg 8 a.domain
  let session ← bytesArg 32 a.session
  let nonce ← u64Arg a.nonce
  let owedToProvider ← u64Arg a.owedToProvider
  let unitsConsumed ← u64Arg a.unitsConsumed
  let timestamp ← i64Arg a.timestamp
  return { domain, session, nonce, owedToProvider, unitsConsumed, timestamp }

/-- Anchor's coder for an array of `n` bytes. -/
def encodeArray (n : Nat) (bs : List UInt8) : Option (List UInt8) :=
  if bs.length = n then some bs else none

/-- Anchor's coder for an integer of 8 bytes: two's complement, lowest byte
first. -/
def encodeBn (v : Int) : List UInt8 :=
  leBytes 8 (v % 2 ^ 64).toNat

def encodeU64 (v : Int) : Option (List UInt8) :=
  if 0 ≤ v ∧ v < 2 ^ 64 then some (encodeBn v) else none

def encodeI64 (v : Int) : Option (List UInt8) :=
  if -2 ^ 63 ≤ v ∧ v < 2 ^ 63 then some (encodeBn v) else none

/-- The argument as Anchor's coder puts it into the instruction's data: the
fields in the order the program declares. -/
def AnchorArg.encode (a : AnchorArg) : Option (List UInt8) := do
  let domain ← encodeArray 8 a.domain
  let session ← encodeArray 32 a.session
  let nonce ← encodeU64 a.nonce
  let owedToProvider ← encodeU64 a.owedToProvider
  let unitsConsumed ← encodeU64 a.unitsConsumed
  let timestamp ← encodeI64 a.timestamp
  return domain ++ (session ++ (nonce ++ (owedToProvider ++ (unitsConsumed ++ timestamp))))

/-- The 16 bytes in front of key, signature and message: one signature, and
every part in the instruction's own data. -/
def ed25519Header (messageLength : Nat) : List UInt8 :=
  [1, 0] ++ leBytes 2 48 ++ leBytes 2 0xFFFF ++ leBytes 2 16 ++ leBytes 2 0xFFFF ++
    leBytes 2 112 ++ leBytes 2 messageLength ++ leBytes 2 0xFFFF

/-- `writeUInt16LE` throws on the length of a longer message. -/
def buildEd25519Data (pubkey : Pubkey) (signature : FixedBytes 64) (message : List UInt8) :
    Option (List UInt8) :=
  if message.length ≤ 65535 then
    some (ed25519Header message.length ++ (pubkey.toList ++ (signature.toList ++ message)))
  else none

/-- A party's key with its signature over the state. -/
structure Cosigner where
  publicKey : Pubkey
  sig : FixedBytes 64
  deriving DecidableEq, Repr

def ed25519VerifyIx (publicKey : Pubkey) (message : List UInt8) (signature : FixedBytes 64) :
    Option InstructionData := do
  let data ← buildEd25519Data publicKey signature message
  return ⟨ed25519ProgramId, data⟩

/-- Both parties' ed25519 instructions for one co-signed state. -/
def cosignIxs (state : StateUpdate) (provider consumer : Cosigner) :
    Option (List InstructionData) := do
  let msg ← serializeState state
  let providerIx ← ed25519VerifyIx provider.publicKey msg provider.sig
  let consumerIx ← ed25519VerifyIx consumer.publicKey msg consumer.sig
  return [providerIx, consumerIx]

end SolMesh.Client
