import SolMesh.Model.Program

namespace SolMesh.Localnet
open Bytes Transaction

/-- Derived addresses carry their kind in the top four bits. -/
def tagged (tag n : Nat) : Pubkey :=
  BitVec.ofNat 256 (tag * 2 ^ 252 + n % 2 ^ 252)

def address : Seeds → Pubkey
  | .config => tagged 8 0
  | .feeVault => tagged 8 1
  | .node asset => tagged 9 asset.toNat
  | .session node consumer sessionSeed =>
    tagged 10 (node.toNat + 2 ^ 32 * consumer.toNat + 2 ^ 64 * sessionSeed.toNat)
  | .vault session => tagged 11 session.toNat

/-- Every derivation succeeds at the first bump that is tried. -/
def createProgramAddress (seeds : Seeds) (bump : UInt8) : Option Pubkey :=
  if bump = 255 then some (address seeds) else none

theorem tagged_toNat {tag : Nat} (h : tag < 16) (n : Nat) :
    (tagged tag n).toNat = tag * 2 ^ 252 + n % 2 ^ 252 := by
  unfold tagged
  rw [BitVec.toNat_ofNat, Nat.mod_eq_of_lt]
  omega

/-- The kind of an address can be read back. -/
theorem address_top (seeds : Seeds) : (address seeds).toNat / 2 ^ 252 = match seeds with
    | .config | .feeVault => 8
    | .node _ => 9
    | .session _ _ _ => 10
    | .vault _ => 11 := by
  cases seeds <;> simp only [address] <;> rw [tagged_toNat (by omega)] <;> omega

theorem find_eq (seeds : Seeds) :
    findProgramAddress createProgramAddress seeds = some (address seeds, 255) := by
  have h : (List.range 256).reverse = 255 :: (List.range 255).reverse := by
    rw [List.range_succ, List.reverse_append]
    rfl
  simp [findProgramAddress, h, createProgramAddress]

theorem find_some {seeds : Seeds} {k : Pubkey} {b : UInt8}
    (h : findProgramAddress createProgramAddress seeds = some (k, b)) : address seeds = k := by
  rw [find_eq] at h
  exact congrArg Prod.fst (Option.some.inj h)

theorem vault_inj {n c n' c' s t : Pubkey} {x x' : UInt64}
    (hs : address (.session n c x) = s) (ht : address (.session n' c' x') = t)
    (h : address (.vault s) = address (.vault t)) : s = t := by
  have he := congrArg BitVec.toNat h
  have h₁ := congrArg BitVec.toNat hs
  have h₂ := congrArg BitVec.toNat ht
  apply BitVec.eq_of_toNat_eq
  simp only [address] at he h₁ h₂
  rw [tagged_toNat (by omega), tagged_toNat (by omega)] at he
  rw [tagged_toNat (by omega)] at h₁ h₂
  omega

theorem ne_of_top {a b : Pubkey} (h : a.toNat / 2 ^ 252 ≠ b.toNat / 2 ^ 252) : a ≠ b := by
  intro he
  subst he
  exact h rfl

/-- A small chain. Its signatures are the signer's key padded to 64 bytes. -/
def rt : Runtime where
  createProgramAddress := createProgramAddress
  associatedTokenAddress wallet mint := tagged 1 (wallet.toNat + 2 ^ 32 * mint.toNat)
  minimumBalance space := UInt64.ofNat ((128 + space % 2 ^ 32) * 6960)
  coreRent := 5000000
  ed25519Verify pk _ sig := sig = pk ++ List.replicate 32 0
  minimumBalance_pos n := by
    rw [UInt64.toNat_ofNat', Nat.mod_eq_of_lt] <;> omega
  coreRent_pos := by decide
  vault_inj hs ht hv hv' :=
    vault_inj (find_some hs) (find_some ht) ((find_some hv).trans (find_some hv').symm)
  session_ne_feeVault hs hf := by
    rw [← find_some hs, ← find_some hf]
    exact ne_of_top (by simp only [address_top]; omega)
  vault_ne_feeVault hv hf := by
    rw [← find_some hv, ← find_some hf]
    exact ne_of_top (by simp only [address_top]; omega)

theorem create_some {seeds : Seeds} {bump : UInt8} {k : Pubkey}
    (h : rt.createProgramAddress seeds bump = some k) : address seeds = k := by
  simp only [rt, createProgramAddress] at h
  split at h
  · exact Option.some.inj h
  · contradiction

theorem not_isPda {k : Pubkey} (h : k.toNat / 2 ^ 252 = 0) : ¬ rt.IsPda k := by
  intro h
  obtain ⟨seeds, b, he⟩ := h
  have hk : address seeds = k := create_some he
  have ht := address_top seeds
  rw [hk, h] at ht
  cases seeds <;> contradiction

def wallet (n : Nat) (h : (BitVec.ofNat 256 n).toNat / 2 ^ 252 = 0) : Signer rt :=
  ⟨BitVec.ofNat 256 n, not_isPda h⟩

def authority : Signer rt := wallet 1 (by decide)
def provider : Signer rt := wallet 2 (by decide)
def consumer : Signer rt := wallet 3 (by decide)
def stranger : Signer rt := wallet 4 (by decide)
def asset : Signer rt := wallet 16 (by decide)
def mplCore : Pubkey := 17
def mint : Pubkey := 18
def otherMint : Pubkey := 19
def consumerToken : Pubkey := 20
def providerToken : Pubkey := 21
def feeToken : Pubkey := 22

def config : Pubkey := address .config
def feeVault : Pubkey := address .feeVault
def node : Pubkey := address (.node 16)
def session (sessionSeed : UInt64) : Pubkey := address (.session node 3 sessionSeed)
def vaultAuthority (sessionSeed : UInt64) : Pubkey := address (.vault (session sessionSeed))
def vaultToken (sessionSeed : UInt64) : Pubkey :=
  rt.associatedTokenAddress (vaultAuthority sessionSeed) mint

/-- Funded wallets and fee vault, two mints, and the parties' token accounts of the first. -/
def start : Ledger := fun k =>
  if k = mint ∨ k = otherMint then ⟨2000000, .mint⟩
  else if k = consumerToken then ⟨2039280, .token ⟨mint, 3, 1000000000⟩⟩
  else if k = providerToken then ⟨2039280, .token ⟨mint, 2, 0⟩⟩
  else if k = feeToken then ⟨2039280, .token ⟨mint, feeVault, 0⟩⟩
  else if k = feeVault then ⟨890880, .system⟩
  else if k.toNat < 16 then ⟨10000000000, .system⟩
  else ⟨0, .system⟩

theorem start_genesis : Genesis start := by
  intro k
  unfold start
  split_ifs <;> rfl

/-- An entry of the ed25519 program that refers to its own data only. -/
def ed25519Data (pk msg : List UInt8) : List UInt8 :=
  [1, 0] ++ leBytes 2 48 ++ leBytes 2 0xFFFF ++ leBytes 2 16 ++ leBytes 2 0xFFFF ++
    leBytes 2 112 ++ leBytes 2 msg.length ++ leBytes 2 0xFFFF ++
    pk ++ (pk ++ List.replicate 32 0) ++ msg

def signature (s : Signer rt) (u : StateUpdate) : Instruction rt :=
  ⟨ed25519ProgramId, ed25519Data s.key.toList u.toMessageBytes, []⟩

def call (c : Call rt) : Instruction rt :=
  ⟨programId, [], [.call c]⟩

def submitted (now : Int64) (c : Call rt) : Transaction rt :=
  ⟨[call c], now⟩

/-- A call behind both parties' signatures over the update it carries. -/
def cosigned (now : Int64) (u : StateUpdate) (c : Call rt) : Transaction rt :=
  ⟨[signature provider u, signature consumer u, call c], now⟩

def update (sessionSeed nonce owed units : UInt64) : StateUpdate :=
  ⟨stateDomain, session sessionSeed, nonce, owed, units, 0⟩

/-- A fee of half a percent and a challenge window of three seconds. -/
def deploy : List (Transaction rt) :=
  [submitted 0 (.initializeConfig ⟨config, feeVault, authority⟩ 50 3 mplCore),
   submitted 0 (.registerNode ⟨config, node, asset, provider, mplCore⟩ "node" "uri" 1000 "geo" 0)]

/-- The deployed configuration. -/
def deployedConfig : Config :=
  { authority := 1, feeBps := 50, feeVault := feeVault, challengeWindowSecs := 3
    mplCoreProgram := mplCore, paused := false, bump := 255 }

def openSol (sessionSeed amount : UInt64) : Transaction rt :=
  submitted 0 (.openSession ⟨config, node, session sessionSeed, consumer⟩ sessionSeed amount 60 1)

def openSpl (sessionSeed amount : UInt64) : Transaction rt :=
  submitted 0 (.openSessionSpl
    ⟨config, node, session sessionSeed, mint, consumerToken, vaultAuthority sessionSeed,
      vaultToken sessionSeed, consumer⟩ sessionSeed amount 60 1)

def settleAccounts (sessionSeed : UInt64) : Settle rt :=
  ⟨config, node, session sessionSeed, 2, 3, 16, feeVault, stranger, mplCore, ixSysvarId⟩

def payoutAccounts (sessionSeed : UInt64) : PayoutSpl rt :=
  ⟨config, node, session sessionSeed, 2, 3, 16, vaultAuthority sessionSeed,
    vaultToken sessionSeed, providerToken, consumerToken, feeToken, stranger, mplCore⟩

def closeAccounts (sessionSeed : UInt64) (caller : Signer rt) : UnilateralClose rt :=
  ⟨config, session sessionSeed, 2, 3, caller, ixSysvarId⟩

def finalizeAccounts (sessionSeed : UInt64) : FinalizeClose rt :=
  ⟨config, node, session sessionSeed, 2, 3, 16, feeVault, stranger, mplCore⟩

/-- The record that an opening at time 0 leaves. -/
def opened (sessionSeed amount : UInt64) (mint : Option Pubkey) (vaultBump : UInt8) : Session :=
  { node := node
    asset := 16
    provider := 2
    consumer := 3
    mint := mint
    deposited := amount
    settledToProvider := 0
    lastNonce := 0
    ratePerUnit := 1
    openedAt := 0
    expiry := 60
    status := .open
    challengeDeadline := 0
    pendingPayout := 0
    pendingUnits := 0
    sessionSeed := sessionSeed
    vaultBump := vaultBump
    bump := 255 }

/-- A session that nobody has used yet. -/
def freshSession : Ledger × History rt :=
  submit start (deploy ++ [openSol 7 1000000])

end SolMesh.Localnet
