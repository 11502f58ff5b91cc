import SolMesh.Model.Types
import SolMesh.Support.Outcome
import SolMesh.Support.Words

namespace SolMesh
open Outcome Words

/-- The seeds of this program's derived addresses: `"config"`, `"fee_vault"`,
`"node"` with the asset, `"session"` with node, consumer and the seed's
little-endian bytes, and `"vault"` with the session. -/
inductive Seeds
  | config
  | feeVault
  | node (asset : Pubkey)
  | session (node consumer : Pubkey) (sessionSeed : UInt64)
  | vault (session : Pubkey)
  deriving DecidableEq

/-- `find_program_address`: the first bump, counting down from 255, for which
the seeds derive an address. -/
def findProgramAddress (create : Seeds → UInt8 → Option Pubkey) (seeds : Seeds) :
    Option (Pubkey × UInt8) :=
  (List.range 256).reverse.findSome? fun b =>
    (create seeds (UInt8.ofNat b)).map fun k => (k, UInt8.ofNat b)

theorem create_of_find {create : Seeds → UInt8 → Option Pubkey} {seeds : Seeds}
    {k : Pubkey} {b : UInt8} (h : findProgramAddress create seeds = some (k, b)) :
    create seeds b = some k := by
  obtain ⟨n, _, hn⟩ := List.exists_of_findSome?_eq_some h
  obtain ⟨k', hk, he⟩ := Option.map_eq_some_iff.mp hn
  simp only [Prod.mk.injEq] at he
  obtain ⟨rfl, rfl⟩ := he
  exact hk

/-- What the program relies on from the chain below it. Derived addresses do
not collide where the program keeps money: two sessions never share a vault
authority, and the fee vault is neither a session nor a vault authority. -/
structure Runtime where
  createProgramAddress : Seeds → UInt8 → Option Pubkey
  associatedTokenAddress : Pubkey → Pubkey → Pubkey
  minimumBalance : Nat → UInt64
  /-- What the Core program charges for a new asset. -/
  coreRent : UInt64
  /-- Public key, message, signature. -/
  ed25519Verify : List UInt8 → List UInt8 → List UInt8 → Bool
  minimumBalance_pos : ∀ n, 0 < (minimumBalance n).toNat
  coreRent_pos : 0 < coreRent.toNat
  vault_inj : ∀ {n c x n' c' x' s t v bs bt b b'},
    findProgramAddress createProgramAddress (.session n c x) = some (s, bs) →
    findProgramAddress createProgramAddress (.session n' c' x') = some (t, bt) →
    findProgramAddress createProgramAddress (.vault s) = some (v, b) →
    findProgramAddress createProgramAddress (.vault t) = some (v, b') → s = t
  session_ne_feeVault : ∀ {n c x s f b b'},
    findProgramAddress createProgramAddress (.session n c x) = some (s, b) →
    findProgramAddress createProgramAddress .feeVault = some (f, b') → s ≠ f
  vault_ne_feeVault : ∀ {s v f b b'},
    findProgramAddress createProgramAddress (.vault s) = some (v, b) →
    findProgramAddress createProgramAddress .feeVault = some (f, b') → v ≠ f

namespace Runtime

variable (rt : Runtime)

def find (seeds : Seeds) : Option (Pubkey × UInt8) :=
  findProgramAddress rt.createProgramAddress seeds

/-- An address derived from this program: only the program can sign for it. -/
def IsPda (k : Pubkey) : Prop :=
  ∃ seeds b, rt.createProgramAddress seeds b = some k

/-- The owner of a session's vault. -/
def vaultAuthority (session : Pubkey) : Pubkey :=
  ((rt.find (.vault session)).map Prod.fst).getD 0

/-- The token account `open_session_spl` creates for a session. -/
def vaultAta (session mint : Pubkey) : Pubkey :=
  rt.associatedTokenAddress (rt.vaultAuthority session) mint

/-- The address that collects the fees. -/
def feeVault : Pubkey :=
  ((rt.find .feeVault).map Prod.fst).getD 0

variable {rt}

theorem isPda_of_find {seeds : Seeds} {k : Pubkey} {b : UInt8} (h : rt.find seeds = some (k, b)) :
    rt.IsPda k :=
  ⟨seeds, b, create_of_find h⟩

theorem vaultAuthority_of_find {session k : Pubkey} {b : UInt8}
    (h : rt.find (.vault session) = some (k, b)) : rt.vaultAuthority session = k := by
  simp [vaultAuthority, h]

theorem feeVault_of_find {k : Pubkey} {b : UInt8} (h : rt.find .feeVault = some (k, b)) :
    rt.feeVault = k := by
  simp [feeVault, h]

end Runtime

/-- A key that signed. A party outside the program holds it, so it is not one
of the program's own addresses. -/
def Signer (rt : Runtime) := { k : Pubkey // ¬ rt.IsPda k }

def Signer.key {rt : Runtime} (s : Signer rt) : Pubkey := s.val

@[ext] structure TokenAccount where
  mint : Pubkey
  owner : Pubkey
  amount : UInt64
  deriving DecidableEq, Repr, Inhabited

structure Attribute where
  key : String
  value : String
  deriving DecidableEq, Repr

/-- A Metaplex Core asset with its Attributes plugin. -/
structure CoreAsset where
  owner : Pubkey
  updateAuthority : Pubkey
  name : String
  uri : String
  attributes : List Attribute
  deriving DecidableEq, Repr

/-- What an account holds. `system` is a wallet, or an address nobody has
used; `burned` is what Metaplex Core leaves of an asset; `foreign` is data, of
some length, of a program that plays no part here. -/
inductive AccountData
  | system
  | config (c : Config)
  | node (n : Node)
  | session (s : Session)
  | token (t : TokenAccount)
  | mint
  | core (a : CoreAsset)
  | burned
  | foreign (length : Nat)
  deriving DecidableEq, Repr

def AccountData.ownedByProgram : AccountData → Bool
  | .config _ | .node _ | .session _ => true
  | .system | .token _ | .mint | .core _ | .burned | .foreign _ => false

structure Account where
  lamports : UInt64
  data : AccountData
  deriving DecidableEq, Repr

/-- One account at each address. -/
abbrev Ledger := Pubkey → Account

namespace Ledger

def setLamports (l : Ledger) (k : Pubkey) (n : UInt64) : Ledger := fun x =>
  if x = k then { lamports := n, data := (l k).data } else l x

def setData (l : Ledger) (k : Pubkey) (d : AccountData) : Ledger := fun x =>
  if x = k then { lamports := (l k).lamports, data := d } else l x

/-- The end of a transaction: an account without lamports is gone. -/
def purge (l : Ledger) : Ledger := fun x =>
  if (l x).lamports = 0 then { lamports := 0, data := .system } else l x

/-- The balance of a token account, and 0 for anything else. -/
def tokens (l : Ledger) (k : Pubkey) : Nat :=
  match (l k).data with
  | .token t => t.amount.toNat
  | _ => 0

variable (l : Ledger) (k x : Pubkey)

@[simp] theorem setLamports_data (n : UInt64) : (l.setLamports k n x).data = (l x).data := by
  by_cases h : x = k <;> simp [setLamports, h]

@[simp] theorem setLamports_lamports (n : UInt64) :
    (l.setLamports k n x).lamports = if x = k then n else (l x).lamports := by
  by_cases h : x = k <;> simp [setLamports, h]

@[simp] theorem setData_lamports (d : AccountData) :
    (l.setData k d x).lamports = (l x).lamports := by
  by_cases h : x = k <;> simp [setData, h]

@[simp] theorem setData_data (d : AccountData) :
    (l.setData k d x).data = if x = k then d else (l x).data := by
  by_cases h : x = k <;> simp [setData, h]

theorem setData_self (d : AccountData) : (l.setData k d k).data = d := by
  simp [setData]

theorem tokens_of_data {l : Ledger} {k : Pubkey} {t : TokenAccount}
    (h : (l k).data = .token t) : l.tokens k = t.amount.toNat := by
  simp [tokens, h]

theorem tokens_of_absent {l : Ledger} {k : Pubkey} (h : ∀ t, (l k).data ≠ .token t) :
    l.tokens k = 0 := by
  unfold tokens
  split
  · rename_i t ht
    exact absurd ht (h t)
  · rfl

theorem tokens_lt (l : Ledger) (k : Pubkey) : l.tokens k < 2 ^ 64 := by
  unfold tokens
  split
  · exact UInt64.toNat_lt _
  · omega

theorem purge_of_pos (h : 0 < (l x).lamports.toNat) : l.purge x = l x := by
  have hne : (l x).lamports ≠ 0 := by
    intro he
    simp [he] at h
  simp [purge, hne]

end Ledger

/-- How an `Accounts` struct declares an account. On success the program's
in-memory copy is written back for `mut` and `init` accounts only. -/
inductive Access
  | readonly
  | writable

def exitAccount (access : Access) (l : Ledger) (k : Pubkey) (d : AccountData) : Ledger :=
  match access with
  | .readonly => l
  | .writable => l.setData k d

@[simp] theorem exitAccount_readonly (l : Ledger) (k : Pubkey) (d : AccountData) :
    exitAccount .readonly l k d = l := rfl

@[simp] theorem exitAccount_writable (l : Ledger) (k : Pubkey) (d : AccountData) :
    exitAccount .writable l k d = l.setData k d := rfl

def loadConfig (l : Ledger) (k : Pubkey) : Outcome Config :=
  match (l k).data with
  | .config c => .ok c
  | .system => .error (.anchor .accountNotInitialized)
  | _ => .error (.anchor .accountDiscriminatorMismatch)

def loadNode (l : Ledger) (k : Pubkey) : Outcome Node :=
  match (l k).data with
  | .node n => .ok n
  | .system => .error (.anchor .accountNotInitialized)
  | _ => .error (.anchor .accountDiscriminatorMismatch)

def loadSession (l : Ledger) (k : Pubkey) : Outcome Session :=
  match (l k).data with
  | .session s => .ok s
  | .system => .error (.anchor .accountNotInitialized)
  | _ => .error (.anchor .accountDiscriminatorMismatch)

def loadToken (l : Ledger) (k : Pubkey) : Outcome TokenAccount :=
  match (l k).data with
  | .token t => .ok t
  | .system => .error (.anchor .accountNotInitialized)
  | _ => .error (.anchor .accountDiscriminatorMismatch)

def loadMint (l : Ledger) (k : Pubkey) : Outcome Unit :=
  match (l k).data with
  | .mint => .ok ()
  | .system => .error (.anchor .accountNotInitialized)
  | _ => .error (.anchor .accountDiscriminatorMismatch)

@[simp] theorem loadConfig_ok {l : Ledger} {k : Pubkey} {c : Config} :
    loadConfig l k = .ok c ↔ (l k).data = .config c := by
  unfold loadConfig
  split <;> simp_all

@[simp] theorem loadNode_ok {l : Ledger} {k : Pubkey} {n : Node} :
    loadNode l k = .ok n ↔ (l k).data = .node n := by
  unfold loadNode
  split <;> simp_all

@[simp] theorem loadSession_ok {l : Ledger} {k : Pubkey} {s : Session} :
    loadSession l k = .ok s ↔ (l k).data = .session s := by
  unfold loadSession
  split <;> simp_all

@[simp] theorem loadToken_ok {l : Ledger} {k : Pubkey} {t : TokenAccount} :
    loadToken l k = .ok t ↔ (l k).data = .token t := by
  unfold loadToken
  split <;> simp_all

@[simp] theorem loadMint_ok {l : Ledger} {k : Pubkey} {u : Unit} :
    loadMint l k = .ok u ↔ (l k).data = .mint := by
  unfold loadMint
  split <;> simp_all

/-- `seeds = [..], bump = stored`: the address is derived with that bump. -/
def checkSeeds (rt : Runtime) (seeds : Seeds) (bump : UInt8) (k : Pubkey) : Outcome Unit :=
  require (rt.createProgramAddress seeds bump = some k) (.anchor .constraintSeeds)

/-- `seeds = [..], bump`: the address is the canonical one. Its bump is
returned, as `ctx.bumps` has it. -/
def findSeeds (rt : Runtime) (seeds : Seeds) (k : Pubkey) : Outcome UInt8 :=
  match rt.find seeds with
  | none => .error .panic
  | some (k', b) => if k = k' then .ok b else .error (.anchor .constraintSeeds)

@[simp] theorem checkSeeds_ok {rt : Runtime} {seeds : Seeds} {bump : UInt8} {k : Pubkey}
    {u : Unit} : checkSeeds rt seeds bump k = .ok u ↔
      rt.createProgramAddress seeds bump = some k := by
  simp [checkSeeds]

@[simp] theorem findSeeds_ok {rt : Runtime} {seeds : Seeds} {k : Pubkey} {b : UInt8} :
    findSeeds rt seeds k = .ok b ↔ rt.find seeds = some (k, b) := by
  unfold findSeeds
  split
  · simp_all
  · rename_i k' b' h
    by_cases hk : k = k' <;> simp [hk, h, eq_comm]

/-- `system_program::transfer`. The sender is a wallet: the System program
does not debit an account that carries data. -/
def systemTransfer (l : Ledger) (src dst : Pubkey) (amount : UInt64) : Outcome Ledger := do
  require ((l src).data = .system) (.runtime .invalidArgument)
  let x ← okOr (checkedSub (l src).lamports amount) (.runtime .insufficientFunds)
  let l := l.setLamports src x
  let y ← okOr (checkedAdd (l dst).lamports amount) (.runtime .arithmeticOverflow)
  return l.setLamports dst y

/-- `token::transfer`. Moving tokens from an account to itself changes nothing. -/
def tokenTransfer (l : Ledger) (src dst authority : Pubkey) (amount : UInt64) :
    Outcome Ledger := do
  let a ← loadToken l src
  let b ← loadToken l dst
  require (amount ≤ a.amount) (.runtime .insufficientFunds)
  require (a.mint = b.mint) (.runtime .mintMismatch)
  require (a.owner = authority) (.runtime .ownerMismatch)
  if src = dst then return l
  else
    let x ← okOr (checkedSub a.amount amount) (.runtime .insufficientFunds)
    let y ← okOr (checkedAdd b.amount amount) (.runtime .arithmeticOverflow)
    return (l.setData src (.token { a with amount := x })).setData dst
      (.token { b with amount := y })

/-- The `init` constraint: the address is unused, the payer tops it up to rent
exemption, and from then on it carries `data`. -/
def initAccount (rt : Runtime) (l : Ledger) (payer k : Pubkey) (space : Nat)
    (data : AccountData) : Outcome Ledger := do
  require ((l k).data = .system) (.runtime .accountAlreadyInUse)
  if (l k).lamports = 0 then
    let l ← systemTransfer l payer k (rt.minimumBalance space)
    return l.setData k data
  else
    require (payer ≠ k) (.anchor .tryingToInitPayerAsProgramAccount)
    let required := saturatingSub (max (rt.minimumBalance space) 1) (l k).lamports
    if required = 0 then return l.setData k data
    else
      let l ← systemTransfer l payer k required
      return l.setData k data

end SolMesh
