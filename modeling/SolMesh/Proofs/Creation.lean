import SolMesh.Proofs.Loading
import SolMesh.Proofs.Transfers

namespace SolMesh
open Outcome Words

/-- The record of a session that has just been opened. -/
structure Opened (rt : Runtime) (l l' : Ledger) (k : Pubkey) (s : Session) : Prop where
  fresh : (l k).data = .system
  after : (l' k).data = .session s
  address : rt.find (.session s.node s.consumer s.sessionSeed) = some (k, s.bump)
  node : ∃ n, (l s.node).data = .node n ∧ s.asset = n.asset ∧ s.provider = n.provider
  config : ∃ cfg, ConfigAt rt l cfg
  consumer : ¬ rt.IsPda s.consumer
  deposit : 0 < s.deposited.toNat
  status : s.status = .open
  settled : s.settledToProvider = 0
  nonce : s.lastNonce = 0
  deadline : s.challengeDeadline = 0
  payout : s.pendingPayout = 0
  units : s.pendingUnits = 0

/-- `open_session`: the deposit lies on the session account itself. -/
structure OpenedSol (rt : Runtime) (l l' : Ledger) (k : Pubkey) (s : Session) : Prop
    extends Opened rt l l' k s where
  mint : s.mint = none
  funded : (l' k).lamports.toNat =
    max (rt.minimumBalance Session.space).toNat (l k).lamports.toNat + s.deposited.toNat
  data : ∀ x, x ≠ k → (l' x).data = (l x).data
  carrier : ∀ x, x ≠ k → (l x).data ≠ .system → (l' x).lamports = (l x).lamports

/-- `open_session_spl`: the deposit lies on a fresh token account of the
session's vault authority. -/
structure OpenedSpl (rt : Runtime) (l l' : Ledger) (k m : Pubkey) (s : Session) : Prop
    extends Opened rt l l' k s where
  mint : s.mint = some m
  funded : (l' k).lamports.toNat =
    max (rt.minimumBalance Session.space).toNat (l k).lamports.toNat
  authority : rt.find (.vault k) = some (rt.vaultAuthority k, s.vaultBump)
  vaultFresh : (l (rt.vaultAta k m)).data = .system
  vault : (l' (rt.vaultAta k m)).data =
    .token { mint := m, owner := rt.vaultAuthority k, amount := s.deposited }
  vaultFunded : 0 < (l' (rt.vaultAta k m)).lamports.toNat
  data : ∀ x, x ≠ k → x ≠ rt.vaultAta k m → (∀ t, (l x).data ≠ .token t) →
    (l' x).data = (l x).data
  token : ∀ x t, (l x).data = .token t → ∃ t', (l' x).data = .token t' ∧
    t'.mint = t.mint ∧ t'.owner = t.owner ∧ (t.owner ≠ s.consumer → t'.amount = t.amount)
  carrier : ∀ x, x ≠ k → (l x).data ≠ .system → (l' x).lamports = (l x).lamports

/-- Whichever asset it holds, the session has just been opened. -/
theorem Opened.of_either {rt : Runtime} {l l' : Ledger} {k : Pubkey} {s : Session}
    (h : OpenedSol rt l l' k s ∨ ∃ m, OpenedSpl rt l l' k m s) : Opened rt l l' k s := by
  rcases h with h | ⟨m, h⟩
  · exact h.toOpened
  · exact h.toOpened

theorem Signer.key_ne {rt : Runtime} (c : Signer rt) {seeds : Seeds} {k : Pubkey} {b : UInt8}
    (h : rt.find seeds = some (k, b)) : c.key ≠ k := by
  intro he
  have hp := Runtime.isPda_of_find h
  rw [← he] at hp
  exact c.property hp

/-- `register_node`: a node with empty trackers and its Core asset, both at
addresses that held no data. -/
structure Registered (rt : Runtime) (l l' : Ledger) (k : Pubkey) (n : Node) : Prop where
  address : rt.find (.node n.asset) = some (k, n.bump)
  provider : ¬ rt.IsPda n.provider
  nodeFresh : (l k).data = .system
  assetFresh : (l n.asset).data = .system
  node : (l' k).data = .node n
  asset : n.asset ≠ k ∧ ∃ c, (l' n.asset).data = .core c ∧ c.updateAuthority = k ∧
    c.attributes = nodeAttributes n.capacity n.geo n.reputation n.totalUnits
  funded : 0 < (l' k).lamports.toNat
  assetFunded : 0 < (l' n.asset).lamports.toNat
  data : ∀ x, x ≠ k → x ≠ n.asset → (l' x).data = (l x).data
  carrier : ∀ x, (l x).data ≠ .system → (l' x).lamports = (l x).lamports
  units : n.totalUnits = 0
  sessions : n.totalSessions = 0
  settled : n.totalSettled = 0

theorem registerNodeHandler_effect {rt : Runtime} {l l' : Ledger} {a : RegisterNode rt}
    {name uri geo : String} {capacity : UInt64} {initReputation : UInt32} {ts : List Transfer}
    (h : registerNodeHandler rt l a name uri capacity geo initReputation = .ok (l', ts)) :
    ∃ n, Registered rt l l' a.node n := by
  simp only [registerNodeHandler, createNodeAsset, bind_ok, loadConfig_ok, checkSeeds_ok,
    findSeeds_ok, require_ok, pure_ok, Prod.mk.injEq, exitAccount_writable] at h
  obtain ⟨cfg, _, _, _, bump, hfind, l₁, h₁, _, _, _, _, _, _, _, _, _, ⟨_, ⟨hasset, hempty⟩, l₂,
    h₂, rfl⟩, rfl, rfl⟩ := h
  have hi := initAccount_ok h₁
  obtain ⟨hsys, hsend⟩ := systemTransfer_ok h₂
  have han : a.asset.key ≠ a.node := by
    intro he
    rw [hi.data, if_pos he] at hasset
    simp at hasset
  have hfresh : (l a.asset.key).data = .system := by rwa [hi.data, if_neg han] at hasset
  refine ⟨_, ⟨hfind, a.provider.property, hi.fresh, hfresh, Ledger.setData_self _ _ _,
    ⟨han, ?_⟩, ?_, ?_, fun x hx hxa => ?_, fun x hx => ?_, rfl, rfl, rfl⟩⟩
  · rw [Ledger.setData_data, if_neg han, Ledger.setData_self]
    exact ⟨_, rfl, rfl, rfl⟩
  · have hpos := rt.minimumBalance_pos Node.space
    have he := hsend.lamports a.node
    have hnp : a.node ≠ a.provider.key := Ne.symm (a.provider.key_ne hfind)
    rw [if_neg hnp, if_neg (Ne.symm han), hi.funded] at he
    simp only [Ledger.setData_lamports]
    omega
  · have hrent := rt.coreRent_pos
    have hcovered := systemTransfer_covered h₂
    have hap : a.asset.key ≠ a.provider.key := by
      intro he
      rw [← he, hempty, UInt64.toNat_zero] at hcovered
      omega
    have he := hsend.lamports a.asset.key
    rw [if_neg hap, if_pos rfl] at he
    simp only [Ledger.setData_lamports]
    omega
  · rw [Ledger.setData_data, if_neg hx, Ledger.setData_data, if_neg hxa, hsend.data, hi.data,
      if_neg hx]
  · have hxn : x ≠ a.node := ne_of_absent hx hi.fresh
    have hxa : x ≠ a.asset.key := ne_of_absent hx hfresh
    have hx₁ : (l₁ x).data ≠ .system := by
      rw [hi.data, if_neg hxn]
      exact hx
    have hxp : x ≠ a.provider.key := ne_of_absent hx₁ hsys
    have he := hsend.lamports x
    rw [if_neg hxp, if_neg hxa, hi.carrier x hxn hx, Nat.add_zero, Nat.add_zero] at he
    simpa using UInt64.toNat_inj.mp he

theorem openSessionHandler_effect {rt : Runtime} {ctx : TxContext} {l l' : Ledger}
    {a : OpenSession rt} {sessionSeed amount : UInt64} {durationSecs : Int64}
    {ratePerUnit : UInt64} {ts : List Transfer}
    (h : openSessionHandler rt ctx l a sessionSeed amount durationSecs ratePerUnit =
      .ok (l', ts)) : ∃ s, OpenedSol rt l l' a.session s ∧ ts = [] := by
  simp only [openSessionHandler, bind_ok, loadConfig_ok, loadNode_ok, checkSeeds_ok,
    findSeeds_ok, require_ok, okOr_ok, pure_ok, Prod.mk.injEq, exitAccount_readonly,
    exitAccount_writable] at h
  obtain ⟨cfg, hcfg, _, hcs, n, hn, _, hns, _, hactive, bump, hfind, l₁, h₁, _, hpaused, _,
    hamount, _, hduration, l₂, h₂, expiry, hexpiry, total, htotal, rfl, rfl⟩ := h
  have hi := initAccount_ok h₁
  obtain ⟨hsys, hsend⟩ := systemTransfer_ok h₂
  have hck := a.consumer.key_ne hfind
  refine ⟨_, ⟨⟨hi.fresh, Ledger.setData_self _ _ _, hfind, ⟨n, hn, rfl, rfl⟩,
    ⟨cfg, a.config, hcfg, hcs⟩, a.consumer.property, UInt64.lt_iff_toNat_lt.mp hamount, rfl, rfl,
    rfl, rfl, rfl, rfl⟩, rfl, ?_, fun x hx => ?_, fun x hx hd => ?_⟩, rfl⟩
  · have he := hsend.lamports a.session
    rw [if_neg (Ne.symm hck), if_pos rfl, hi.funded, Nat.add_zero] at he
    rw [Ledger.setData_lamports]
    exact he
  · rw [Ledger.setData_data, if_neg hx, hsend.data, hi.data, if_neg hx]
  · have hd₁ : (l₁ x).data ≠ .system := by
      rw [hi.data, if_neg hx]
      exact hd
    have hxc : x ≠ a.consumer.key := ne_of_absent hd₁ hsys
    have he := hsend.lamports x
    rw [if_neg hxc, if_neg hx] at he
    rw [Ledger.setData_lamports, UInt64.toNat_inj.mp he, hi.carrier x hx hd]

theorem openSessionSplHandler_effect {rt : Runtime} {ctx : TxContext} {l l' : Ledger}
    {a : OpenSessionSpl rt} {sessionSeed amount : UInt64} {durationSecs : Int64}
    {ratePerUnit : UInt64} {ts : List Transfer}
    (h : openSessionSplHandler rt ctx l a sessionSeed amount durationSecs ratePerUnit =
      .ok (l', ts)) : ∃ s mint, OpenedSpl rt l l' a.session mint s ∧ ts = [] := by
  simp only [openSessionSplHandler, initAssociatedToken_ok, bind_ok, loadConfig_ok, loadNode_ok,
    loadMint_ok, loadToken_ok, checkSeeds_ok, findSeeds_ok, require_ok, okOr_ok, pure_ok,
    Prod.mk.injEq, exitAccount_readonly, exitAccount_writable] at h
  obtain ⟨cfg, hcfg, _, hcs, n, hn, _, hns, _, hactive, bump, hfind, l₁, h₁, _, hmint, ct, hct, _,
    hctMint, _, hctOwner, vaultBump, hvault, l₂, ⟨hata, h₂⟩, _, hpaused, _, hamount, _,
    hduration, l₃, h₃, expiry, hexpiry, total, htotal, rfl, rfl⟩ := h
  have hi := initAccount_ok h₁
  have hv := initAccount_ok h₂
  obtain ⟨⟨ta, tb, hta, htb, hm, ho, hle⟩, hsend⟩ := tokenTransfer_ok h₃
  have hauth := Runtime.vaultAuthority_of_find hvault
  have hataKey : rt.vaultAta a.session a.mint = a.vaultToken := by
    rw [hata, Runtime.vaultAta, hauth]
  have hvk : a.vaultToken ≠ a.session := by
    intro he
    have := hv.fresh
    rw [hi.data, if_pos he] at this
    simp at this
  have hvFresh : (l a.vaultToken).data = .system := by
    have := hv.fresh
    rwa [hi.data, if_neg hvk] at this
  -- the consumer pays from an account that existed before the vault did
  have hcv : a.vaultToken ≠ a.consumerToken := by
    intro he
    have := hv.fresh
    rw [he, hct] at this
    simp at this
  have hvData : (l₂ a.vaultToken).data =
      .token { mint := a.mint, owner := a.vaultAuthority, amount := 0 } := by
    rw [hv.data, if_pos rfl]
  obtain ⟨t', ht', htm, hto, hta'⟩ := hsend.token _ _ hvData
  rw [if_neg hcv, if_pos rfl, UInt64.toNat_zero, Nat.zero_add, Nat.add_zero] at hta'
  refine ⟨_, a.mint, ⟨⟨hi.fresh, Ledger.setData_self _ _ _, hfind, ⟨n, hn, rfl, rfl⟩,
    ⟨cfg, a.config, hcfg, hcs⟩, a.consumer.property, UInt64.lt_iff_toNat_lt.mp hamount, rfl, rfl,
    rfl, rfl, rfl, rfl⟩, rfl, ?_, ?_, ?_, ?_, ?_, fun x hx hxv ht => ?_, fun x t ht => ?_,
    fun x hx hd => ?_⟩, rfl⟩
  · rw [Ledger.setData_lamports, hsend.lamports, hv.carrier a.session (Ne.symm hvk) ?_, hi.funded]
    rw [hi.data, if_pos rfl]
    simp
  · rw [hauth]
    exact hvault
  · rw [hataKey]
    exact hvFresh
  · rw [hataKey, Ledger.setData_data, if_neg hvk, ht', hauth]
    exact congrArg AccountData.token (TokenAccount.ext htm hto (UInt64.toNat_inj.mp hta'))
  · rw [hataKey, Ledger.setData_lamports, hsend.lamports, hv.funded]
    have := rt.minimumBalance_pos tokenAccountSpace
    omega
  · rw [hataKey] at hxv
    have hx₂ : (l₂ x).data = (l x).data := by rw [hv.data, if_neg hxv, hi.data, if_neg hx]
    rw [Ledger.setData_data, if_neg hx, hsend.data x (by rw [hx₂]; exact ht), hx₂]
  · have hx : x ≠ a.session := ne_of_data ht hi.fresh (by simp)
    have hxv : x ≠ a.vaultToken := ne_of_data ht hvFresh (by simp)
    have hx₂ : (l₂ x).data = .token t := by rw [hv.data, if_neg hxv, hi.data, if_neg hx, ht]
    obtain ⟨u, hu, hum, huo, hua⟩ := hsend.token x t hx₂
    refine ⟨u, by rw [Ledger.setData_data, if_neg hx, hu], hum, huo, fun hne => ?_⟩
    have hxc : x ≠ a.consumerToken := by
      intro he
      subst he
      obtain rfl : ta = t := by simpa [hta] using hx₂
      exact hne ho
    rw [if_neg hxc, if_neg hxv] at hua
    exact UInt64.toNat_inj.mp hua
  · have hxv : x ≠ a.vaultToken := ne_of_absent hd hvFresh
    have hd₁ : (l₁ x).data ≠ .system := by
      rw [hi.data, if_neg hx]
      exact hd
    rw [Ledger.setData_lamports, hsend.lamports, hv.carrier x hxv hd₁, hi.carrier x hx hd]

end SolMesh
