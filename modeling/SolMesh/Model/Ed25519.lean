import SolMesh.Model.Runtime

namespace SolMesh
open Bytes Outcome

/-- An instruction of the transaction as the Instructions sysvar shows it. -/
structure InstructionData where
  programId : Pubkey
  data : List UInt8
  deriving DecidableEq, Repr

/-- What a running instruction can learn about its transaction. -/
structure TxContext where
  instructions : List InstructionData
  currentIndex : Nat
  unixTimestamp : Int64

def pubkeySize : Nat := 32
def sigSize : Nat := 64
def header : Nat := 2
def offsetsSize : Nat := 14
def sentinel : UInt16 := 0xFFFF

/-- `data[i]`, which aborts out of bounds. -/
def index (data : List UInt8) (i : Nat) : Outcome UInt8 :=
  match data[i]? with
  | some b => .ok b
  | none => .error .panic

/-- `&data[a..b]`, which aborts out of bounds. -/
def subslice (data : List UInt8) (a b : Nat) : Outcome (List UInt8) :=
  if a ≤ b ∧ b ≤ data.length then .ok (slice data a b) else .error .panic

/-- Addition of `usize` values, which aborts on overflow. -/
def usizeAdd (a b : Nat) : Outcome Nat :=
  if a + b < 2 ^ 64 then .ok (a + b) else .error .panic

def readU16 (data : List UInt8) (pos : Nat) : Outcome UInt16 := do
  let last ← usizeAdd pos 2
  require (last ≤ data.length) (.custom .ed25519IxMissing)
  let lo ← index data pos
  let hi ← index data (pos + 1)
  return UInt16.ofNat (ofLe [lo, hi])

/-- Parse one self-contained signature entry and compare key and message. -/
def checkEd25519Data (data : List UInt8) (pk : FixedBytes 32) (msg : List UInt8) :
    Outcome Unit := do
  require (header + offsetsSize ≤ data.length) (.custom .ed25519IxMissing)
  let numSigs ← index data 0
  require (1 ≤ numSigs.toNat) (.custom .ed25519IxMissing)
  let sigOffset ← readU16 data header
  let sigIxIdx ← readU16 data (header + 2)
  let pkOffset ← readU16 data (header + 4)
  let pkIxIdx ← readU16 data (header + 6)
  let msgOffset ← readU16 data (header + 8)
  let msgSize ← readU16 data (header + 10)
  let msgIxIdx ← readU16 data (header + 12)
  require (sigIxIdx = sentinel ∧ pkIxIdx = sentinel ∧ msgIxIdx = sentinel)
    (.custom .ed25519CrossIndex)
  let pkEnd ← usizeAdd pkOffset.toNat pubkeySize
  require (pkEnd ≤ data.length) (.custom .ed25519IxMissing)
  let sigEnd ← usizeAdd sigOffset.toNat sigSize
  require (sigEnd ≤ data.length) (.custom .ed25519IxMissing)
  let msgEnd ← usizeAdd msgOffset.toNat msgSize.toNat
  require (msgEnd ≤ data.length) (.custom .ed25519IxMissing)
  let pkBytes ← subslice data pkOffset.toNat pkEnd
  require (pkBytes = pk.toList) (.custom .ed25519PubkeyMismatch)
  require (msgSize.toNat = msg.length) (.custom .ed25519MessageMismatch)
  let msgBytes ← subslice data msgOffset.toNat msgEnd
  require (msgBytes = msg) (.custom .ed25519MessageMismatch)

/-- The loop of `verify_ed25519_signature` over the indices still to be tried.
An index the sysvar cannot load and a foreign program are skipped; so is an
entry that does not bind, but an abort of the check is an abort of the scan. -/
def scanEd25519 (instructions : List InstructionData) (pk : FixedBytes 32) (msg : List UInt8) :
    List Nat → Outcome Unit
  | [] => .error (.custom .ed25519IxMissing)
  | i :: rest =>
    match instructions[i]? with
    | none => scanEd25519 instructions pk msg rest
    | some ix =>
      if ix.programId ≠ ed25519ProgramId then scanEd25519 instructions pk msg rest
      else
        match checkEd25519Data ix.data pk msg with
        | .ok () => .ok ()
        | .error .panic => .error .panic
        | .error _ => scanEd25519 instructions pk msg rest

def verifyEd25519Signature (ctx : TxContext) (pk : FixedBytes 32) (msg : List UInt8) :
    Outcome Unit :=
  scanEd25519 ctx.instructions pk msg (List.range ctx.currentIndex)

/-- One `Ed25519SignatureOffsets` record of the runtime's precompile. -/
structure SignatureOffsets where
  signatureOffset : Nat
  signatureInstructionIndex : Nat
  publicKeyOffset : Nat
  publicKeyInstructionIndex : Nat
  messageDataOffset : Nat
  messageDataSize : Nat
  messageInstructionIndex : Nat

def wordAt (data : List UInt8) (pos : Nat) : Nat :=
  ofLe (slice data pos (pos + 2))

/-- The precompile's own reading of entry `j`. -/
def signatureOffsets (data : List UInt8) (j : Nat) : SignatureOffsets :=
  let start := 2 + 14 * j
  { signatureOffset := wordAt data start
    signatureInstructionIndex := wordAt data (start + 2)
    publicKeyOffset := wordAt data (start + 4)
    publicKeyInstructionIndex := wordAt data (start + 6)
    messageDataOffset := wordAt data (start + 8)
    messageDataSize := wordAt data (start + 10)
    messageInstructionIndex := wordAt data (start + 12) }

/-- The bytes an entry designates. Index `0xFFFF` is the instruction's own data. -/
def dataSlice (instructions : List InstructionData) (own : List UInt8)
    (instructionIndex offset size : Nat) : Option (List UInt8) := do
  let data ← if instructionIndex = 0xFFFF then some own
    else (instructions[instructionIndex]?).map InstructionData.data
  if offset + size ≤ data.length then some (slice data offset (offset + size)) else none

/-- Entry `j` designates a valid signature. -/
def entryVerified (rt : Runtime) (instructions : List InstructionData) (own : List UInt8)
    (j : Nat) : Bool :=
  let o := signatureOffsets own j
  match dataSlice instructions own o.signatureInstructionIndex o.signatureOffset 64,
      dataSlice instructions own o.publicKeyInstructionIndex o.publicKeyOffset 32,
      dataSlice instructions own o.messageInstructionIndex o.messageDataOffset
        o.messageDataSize with
  | some sig, some pk, some msg => rt.ed25519Verify pk msg sig
  | _, _, _ => false

/-- The runtime's ed25519 precompile accepts an instruction when it has its two
header bytes, nothing behind them where they count no entry, and each of its
entries fits and designates a valid signature. -/
def precompileVerified (rt : Runtime) (instructions : List InstructionData)
    (own : List UInt8) : Bool :=
  let count := (own.head?.map UInt8.toNat).getD 0
  decide (2 ≤ own.length) && decide (count = 0 → own.length = 2) &&
    (List.range count).all fun j =>
      decide (2 + 14 * (j + 1) ≤ own.length) && entryVerified rt instructions own j

/-- The transaction passed the precompile: without that nothing else in it runs. -/
def TxContext.precompiled (rt : Runtime) (ctx : TxContext) : Bool :=
  ctx.instructions.all fun ix =>
    if ix.programId = ed25519ProgramId then precompileVerified rt ctx.instructions ix.data
    else true

/-- In front of the running instruction stands one of the ed25519 program that
carries the key, the bytes, and a valid signature of the one over the other. -/
def Presented (rt : Runtime) (ctx : TxContext) (pk : Pubkey) (msg : List UInt8) : Prop :=
  ∃ i < ctx.currentIndex, ∃ ix, ctx.instructions[i]? = some ix ∧
    ix.programId = ed25519ProgramId ∧ ∃ sigAt pkAt msgAt,
      sigAt + 64 ≤ ix.data.length ∧ pkAt + 32 ≤ ix.data.length ∧
      msgAt + msg.length ≤ ix.data.length ∧
      slice ix.data pkAt (pkAt + 32) = pk.toList ∧
      slice ix.data msgAt (msgAt + msg.length) = msg ∧
      rt.ed25519Verify pk.toList msg (slice ix.data sigAt (sigAt + 64)) = true

end SolMesh
