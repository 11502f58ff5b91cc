import SolMesh.Model.Program

namespace SolMesh
open Bytes Outcome Readers

/-- Why Anchor does not read or write the data of an account. It does not pass
on what Borsh objected to. -/
inductive StorageError
  | accountDiscriminatorNotFound
  | accountDiscriminatorMismatch
  | accountDidNotDeserialize
  | accountDidNotSerialize
  deriving DecidableEq, Repr

/-- What `#[account]` derives for a type: the tag in front of the data and the
Borsh encoding, where there is one. -/
structure Layout (α : Type) where
  discriminator : List UInt8
  encodes : α → Bool
  serialize : α → List UInt8
  deserialize : Reader StorageError α

namespace Layout

variable {α : Type} (layout : Layout α)

def image (a : α) : List UInt8 :=
  layout.discriminator ++ layout.serialize a

/-- `try_serialize` onto the data that the account has. What lies behind the
encoding stays as it was. -/
def trySerialize (a : α) (data : List UInt8) : Except StorageError (List UInt8) := do
  require (layout.encodes a = true) .accountDidNotSerialize
  require ((layout.image a).length ≤ data.length) .accountDidNotSerialize
  return layout.image a ++ data.drop (layout.image a).length

/-- How `init` reads an account whose tag is not there yet. -/
def tryDeserializeUnchecked (data : List UInt8) : Except StorageError α := do
  let (a, _) ← layout.deserialize.run (data.drop layout.discriminator.length)
  return a

def tryDeserialize (data : List UInt8) : Except StorageError α := do
  require (layout.discriminator.length ≤ data.length) .accountDiscriminatorNotFound
  require (data.take layout.discriminator.length = layout.discriminator)
    .accountDiscriminatorMismatch
  layout.tryDeserializeUnchecked data

end Layout

namespace Borsh

variable {α : Type}

def field (get : Reader IoError α) : Reader StorageError α :=
  mapError (fun _ => .accountDidNotDeserialize) get

def readU8 : Reader IoError UInt8 :=
  (fun bs => UInt8.ofNat (ofLe bs)) <$> takeBytes unexpectedLengthOfInput 1

def readU16 : Reader IoError UInt16 :=
  (fun bs => UInt16.ofNat (ofLe bs)) <$> takeBytes unexpectedLengthOfInput 2

def readU32 : Reader IoError UInt32 :=
  (fun bs => UInt32.ofNat (ofLe bs)) <$> takeBytes unexpectedLengthOfInput 4

def boolByte (b : Bool) : UInt8 :=
  if b then 1 else 0

def readBool : Reader StorageError Bool := do
  let b ← field readU8
  if b = 0 then return false
  else if b = 1 then return true
  else fail .accountDidNotDeserialize

def optionBytes (put : α → List UInt8) : Option α → List UInt8
  | none => [0]
  | some a => 1 :: put a

def readOption (get : Reader StorageError α) : Reader StorageError (Option α) := do
  let flag ← field readU8
  if flag = 0 then return none
  else if flag = 1 then do
    let a ← get
    return some a
  else fail .accountDidNotDeserialize

/-- A text is its length in 32 bits and its UTF-8 bytes. -/
def stringBytes (s : String) : List UInt8 :=
  leBytes 4 s.utf8ByteSize ++ s.toByteArray.data.toList

def fromUtf8 (bs : List UInt8) : Reader StorageError String :=
  match String.fromUTF8? ⟨bs.toArray⟩ with
  | some s => pure s
  | none => fail .accountDidNotDeserialize

def readString : Reader StorageError String := do
  let n ← field readU32
  let bs ← takeBytes .accountDidNotDeserialize n.toNat
  fromUtf8 bs

/-- The number of a variant is its place in the declaration. -/
def statusIndex : SessionStatus → UInt8
  | .open => 0
  | .closing => 1
  | .settled => 2
  | .cancelled => 3
  | .expired => 4

def readStatus : Reader StorageError SessionStatus := do
  let i ← field readU8
  if i = 0 then return .open
  else if i = 1 then return .closing
  else if i = 2 then return .settled
  else if i = 3 then return .cancelled
  else if i = 4 then return .expired
  else fail .accountDidNotDeserialize

end Borsh

open Borsh

def Config.serialize (c : Config) : List UInt8 :=
  c.authority.toList ++ (leBytes 2 c.feeBps.toNat ++ (c.feeVault.toList ++
    (leBytes 8 c.challengeWindowSecs.toUInt64.toNat ++ (c.mplCoreProgram.toList ++
      ([boolByte c.paused] ++ [c.bump])))))

def Config.deserialize : Reader StorageError Config := do
  let authority ← field (readArray 32)
  let feeBps ← field Borsh.readU16
  let feeVault ← field (readArray 32)
  let challengeWindowSecs ← field readI64
  let mplCoreProgram ← field (readArray 32)
  let paused ← readBool
  let bump ← field readU8
  return { authority, feeBps, feeVault, challengeWindowSecs, mplCoreProgram, paused, bump }

def Node.serialize (n : Node) : List UInt8 :=
  n.asset.toList ++ (n.provider.toList ++ (leBytes 8 n.capacity.toNat ++ (stringBytes n.geo ++
    (leBytes 4 n.reputation.toNat ++ (leBytes 8 n.totalUnits.toNat ++
      (leBytes 8 n.totalSessions.toNat ++ (leBytes 8 n.totalSettled.toNat ++
        ([boolByte n.active] ++ [n.bump]))))))))

def Node.deserialize : Reader StorageError Node := do
  let asset ← field (readArray 32)
  let provider ← field (readArray 32)
  let capacity ← field readU64
  let geo ← readString
  let reputation ← field readU32
  let totalUnits ← field readU64
  let totalSessions ← field readU64
  let totalSettled ← field readU64
  let active ← readBool
  let bump ← field readU8
  return { asset, provider, capacity, geo, reputation, totalUnits, totalSessions, totalSettled
           active, bump }

def Session.serialize (s : Session) : List UInt8 :=
  s.node.toList ++ (s.asset.toList ++ (s.provider.toList ++ (s.consumer.toList ++
    (optionBytes FixedBytes.toList s.mint ++ (leBytes 8 s.deposited.toNat ++
      (leBytes 8 s.settledToProvider.toNat ++ (leBytes 8 s.lastNonce.toNat ++
        (leBytes 8 s.ratePerUnit.toNat ++ (leBytes 8 s.openedAt.toUInt64.toNat ++
          (leBytes 8 s.expiry.toUInt64.toNat ++ ([statusIndex s.status] ++
            (leBytes 8 s.challengeDeadline.toUInt64.toNat ++ (leBytes 8 s.pendingPayout.toNat ++
              (leBytes 8 s.pendingUnits.toNat ++ (leBytes 8 s.sessionSeed.toNat ++
                ([s.vaultBump] ++ [s.bump]))))))))))))))))

def Session.deserialize : Reader StorageError Session := do
  let node ← field (readArray 32)
  let asset ← field (readArray 32)
  let provider ← field (readArray 32)
  let consumer ← field (readArray 32)
  let mint ← readOption (field (readArray 32))
  let deposited ← field readU64
  let settledToProvider ← field readU64
  let lastNonce ← field readU64
  let ratePerUnit ← field readU64
  let openedAt ← field readI64
  let expiry ← field readI64
  let status ← readStatus
  let challengeDeadline ← field readI64
  let pendingPayout ← field readU64
  let pendingUnits ← field readU64
  let sessionSeed ← field readU64
  let vaultBump ← field readU8
  let bump ← field readU8
  return { node, asset, provider, consumer, mint, deposited, settledToProvider, lastNonce
           ratePerUnit, openedAt, expiry, status, challengeDeadline, pendingPayout, pendingUnits
           sessionSeed, vaultBump, bump }

/-- The first eight bytes of the SHA-256 of `account:Config`; below likewise
for the other types. -/
def configLayout : Layout Config where
  discriminator := [155, 12, 170, 224, 30, 250, 204, 130]
  encodes _ := true
  serialize := Config.serialize
  deserialize := Config.deserialize

def nodeLayout : Layout Node where
  discriminator := [208, 53, 1, 3, 49, 122, 180, 49]
  encodes n := n.geo.utf8ByteSize < 2 ^ 32
  serialize := Node.serialize
  deserialize := Node.deserialize

def sessionLayout : Layout Session where
  discriminator := [243, 81, 72, 115, 214, 188, 72, 144]
  encodes _ := true
  serialize := Session.serialize
  deserialize := Session.deserialize

namespace AccountData

/-- The size that `init` allocates. -/
def space : AccountData → Nat
  | .config _ => Config.space
  | .node _ => Node.space
  | .session _ => Session.space
  | .system | .token _ | .mint | .core _ | .burned | .foreign _ => 0

def trySerialize (data : List UInt8) : AccountData → Except StorageError (List UInt8)
  | .config c => configLayout.trySerialize c data
  | .node n => nodeLayout.trySerialize n data
  | .session s => sessionLayout.trySerialize s data
  | .system | .token _ | .mint | .core _ | .burned | .foreign _ => return []

end AccountData

/-- What a step leaves in the data of an account, by what the account was and
is. An account that is new to the program starts as zeros; data of others is
not followed. -/
def writeBack (data : List UInt8) (old new : AccountData) : Except StorageError (List UInt8) :=
  if new.ownedByProgram = true then
    new.trySerialize (if old.ownedByProgram = true then data else List.replicate new.space 0)
  else return []

/-- The data of account `k` after all that was written to it. -/
def storage {rt : Runtime} (k : Pubkey) (tr : History rt) : Except StorageError (List UInt8) :=
  tr.foldlM (fun data x => writeBack data (x.before k).data (x.after k).data) []

end SolMesh
