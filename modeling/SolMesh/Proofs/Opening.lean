import SolMesh.Proofs.Provenance
import SolMesh.Proofs.SessionCount

namespace SolMesh
open Outcome Words Runs

theorem systemTransfer_iff {l : Ledger} {src dst : Pubkey} {n : UInt64} (hne : src ≠ dst) :
    (∃ l', systemTransfer l src dst n = .ok l') ↔ (l src).data = .system ∧
      n.toNat ≤ (l src).lamports.toNat ∧ (l dst).lamports.toNat + n.toNat < 2 ^ 64 := by
  simp only [systemTransfer, bind_ok, require_ok, okOr_ok, pure_ok]
  constructor
  · intro h
    obtain ⟨_, _, hsys, x, hx, y, hy, rfl⟩ := h
    rw [checkedSub_some] at hx
    rw [checkedAdd_some, Ledger.setLamports_lamports, if_neg (Ne.symm hne)] at hy
    have := y.toNat_lt
    exact ⟨hsys, by omega, by omega⟩
  · intro h
    obtain ⟨hsys, covered, room⟩ := h
    obtain ⟨x, hx⟩ := checkedSub_exists covered
    obtain ⟨y, hy⟩ := checkedAdd_exists room
    refine ⟨_, (), hsys, x, hx, y, ?_, rfl⟩
    rw [Ledger.setLamports_lamports, if_neg (Ne.symm hne)]
    exact hy

/-- The rent that an address still lacks. -/
def missingRent (rt : Runtime) (l : Ledger) (k : Pubkey) (space : Nat) : Nat :=
  (rt.minimumBalance space).toNat - (l k).lamports.toNat

section
variable {rt : Runtime} {l l' : Ledger} {payer k : Pubkey} {space : Nat} {data : AccountData}

/-- The two ways of `init`: a new account and a topped-up one. -/
theorem initAccount_split (hne : payer ≠ k) : initAccount rt l payer k space data = .ok l' ↔
    (l k).data = .system ∧
      ((missingRent rt l k space = 0 ∧ l' = l.setData k data) ∨
        ∃ n mid, 0 < missingRent rt l k space ∧ n.toNat = missingRent rt l k space ∧
          systemTransfer l payer k n = .ok mid ∧ l' = mid.setData k data) := by
  have hmin := rt.minimumBalance_pos space
  have hreq : (saturatingSub (max (rt.minimumBalance space) 1) (l k).lamports).toNat =
      missingRent rt l k space := by
    rw [saturatingSub_toNat, max_toNat, UInt64.toNat_one, Nat.max_eq_left hmin]
    rfl
  simp only [initAccount, bind_ok, require_ok, exists_const]
  refine and_congr_right fun _ => ?_
  split
  · rename_i hz
    have hmissing : (rt.minimumBalance space).toNat = missingRent rt l k space := by
      simp [missingRent, hz]
    simp only [bind_ok, pure_ok]
    constructor
    · intro h
      obtain ⟨mid, hmid, rfl⟩ := h
      exact .inr ⟨_, mid, by omega, hmissing, hmid, rfl⟩
    · intro h
      rcases h with ⟨hzero, _⟩ | ⟨n, mid, _, hn, hmid, rfl⟩
      · omega
      · obtain rfl : n = rt.minimumBalance space := UInt64.toNat_inj.mp (hn.trans hmissing.symm)
        exact ⟨mid, hmid, rfl⟩
  · simp only [bind_ok, require_ok, hne, not_false_eq_true, exists_const, true_and, ne_eq]
    split
    · rename_i hr
      rw [hr, UInt64.toNat_zero] at hreq
      rw [pure_ok, ← hreq]
      constructor
      · intro h
        exact .inl ⟨rfl, h.symm⟩
      · intro h
        rcases h with ⟨_, rfl⟩ | ⟨_, _, hpos, _⟩
        · rfl
        · omega
    · rename_i hr
      have hpos : 0 < missingRent rt l k space := by
        rw [← hreq]
        exact Nat.pos_of_ne_zero fun h0 => hr (UInt64.toNat_inj.mp h0)
      simp only [bind_ok, pure_ok]
      constructor
      · intro h
        obtain ⟨mid, hmid, rfl⟩ := h
        exact .inr ⟨_, mid, hpos, hreq, hmid, rfl⟩
      · intro h
        rcases h with ⟨hzero, _⟩ | ⟨n, mid, _, hn, hmid, rfl⟩
        · omega
        · obtain rfl := UInt64.toNat_inj.mp (hn.trans hreq.symm)
          exact ⟨mid, hmid, rfl⟩

theorem initAccount_iff (hne : payer ≠ k) : (∃ l', initAccount rt l payer k space data = .ok l') ↔
    (l k).data = .system ∧ (0 < missingRent rt l k space → (l payer).data = .system ∧
      missingRent rt l k space ≤ (l payer).lamports.toNat) := by
  have hroom : (l k).lamports.toNat + missingRent rt l k space < 2 ^ 64 := by
    have h₁ := (rt.minimumBalance space).toNat_lt
    have h₂ := (l k).lamports.toNat_lt
    rw [missingRent]
    omega
  simp only [initAccount_split hne]
  constructor
  · intro h
    obtain ⟨l', hsys, ⟨hzero, _⟩ | ⟨n, mid, _, hn, hmid, _⟩⟩ := h
    · exact ⟨hsys, fun hpos => absurd hzero (Nat.ne_of_gt hpos)⟩
    · obtain ⟨hpayer, hcovered, _⟩ := (systemTransfer_iff hne).mp ⟨mid, hmid⟩
      exact ⟨hsys, fun _ => ⟨hpayer, by omega⟩⟩
  · intro h
    obtain ⟨hsys, hpays⟩ := h
    rcases Nat.eq_zero_or_pos (missingRent rt l k space) with hzero | hpos
    · exact ⟨_, hsys, .inl ⟨hzero, rfl⟩⟩
    · obtain ⟨hpayer, hcovered⟩ := hpays hpos
      have hn : (UInt64.ofNat (missingRent rt l k space)).toNat = missingRent rt l k space := by
        rw [UInt64.toNat_ofNat', Nat.mod_eq_of_lt (by omega)]
      obtain ⟨mid, hmid⟩ := (systemTransfer_iff hne).mpr
        ⟨hpayer, by rw [hn]; exact hcovered, by rw [hn]; exact hroom⟩
      exact ⟨_, hsys, .inr ⟨_, mid, hpos, hn, hmid, rfl⟩⟩

/-- The payer pays the missing rent. -/
theorem initAccount_payer (hne : payer ≠ k)
    (h : initAccount rt l payer k space data = .ok l') :
    (l' payer).lamports.toNat + missingRent rt l k space = (l payer).lamports.toNat := by
  obtain ⟨_, ⟨hzero, rfl⟩ | ⟨n, mid, _, hn, hmid, rfl⟩⟩ := (initAccount_split hne).mp h
  · rw [Ledger.setData_lamports, hzero, Nat.add_zero]
  · have he := (systemTransfer_ok hmid).2.lamports payer
    rw [if_pos rfl, if_neg hne, hn, Nat.add_zero] at he
    rw [Ledger.setData_lamports]
    exact he

end

/-- What it takes to open a session at `k`, whatever it is paid in. -/
structure Admits (rt : Runtime) (l : Ledger) (now : Int64) (d : Deposit rt) (k : Pubkey) :
    Prop where
  unpaused : ∃ authority rules, inForce rt l = some (authority, rules) ∧ rules.paused = false
  offered : ∃ provider o, (l d.node).data.listing = some (provider, o) ∧ o.active = true
  address : ∃ b, rt.find (.session d.node d.consumer.key d.sessionSeed) = some (k, b)
  unused : (l k).data = .system
  amount : 0 < d.amount.toNat
  duration : 1 ≤ d.durationSecs.toInt ∧ d.durationSecs.toInt ≤ 2592000
  expiry : now.toInt + d.durationSecs.toInt < 2 ^ 63

/-- And in lamports: the consumer has the rent and the deposit, and the session's
account has room for them. -/
structure Takes (rt : Runtime) (l : Ledger) (now : Int64) (d : Deposit rt) (k : Pubkey) : Prop
    extends Admits rt l now d k where
  inLamports : d.mint = none
  wallet : (l d.consumer.key).data = .system
  funds : missingRent rt l k Session.space + d.amount.toNat ≤ (l d.consumer.key).lamports.toNat
  room : max (rt.minimumBalance Session.space).toNat (l k).lamports.toNat + d.amount.toNat < 2 ^ 64

theorem Admits.of_opened {rt : Runtime} {l l' : Ledger} {now : Int64} {d : Deposit rt} {k : Pubkey}
    {s : Session} (opened : Opened rt l l' k s) (agreed : d.Agreed l now s) :
    Admits rt l now d k := by
  obtain ⟨o, offered, active, _⟩ := agreed.offered
  have hbound := Int64.toInt_lt s.expiry
  rw [agreed.expiry] at hbound
  have address := opened.address
  rw [agreed.node, agreed.consumer, agreed.sessionSeed] at address
  exact ⟨agreed.unpaused, ⟨_, o, offered, active⟩, ⟨_, address⟩, opened.fresh, agreed.amount,
    agreed.duration, hbound⟩

/-- The checks of an opening, passed with the records and words they compute. -/
structure Checks (rt : Runtime) (l : Ledger) (now : Int64) (d : Deposit rt) (k : Pubkey)
    (cfg : Config) (n : Node) (bump : UInt8) (expiry : Int64) (total : UInt64) : Prop where
  config : (l rt.configAddress).data = .config cfg
  configSeeds : rt.createProgramAddress .config cfg.bump = some rt.configAddress
  node : (l d.node).data = .node n
  nodeSeeds : rt.createProgramAddress (.node n.asset) n.bump = some d.node
  active : n.active = true
  address : rt.find (.session d.node d.consumer.key d.sessionSeed) = some (k, bump)
  unpaused : cfg.paused = false
  amount : 0 < d.amount
  duration : minDurationSecs ≤ d.durationSecs ∧ d.durationSecs ≤ maxDurationSecs
  expiry : checkedAddInt now d.durationSecs = some expiry
  total : checkedAdd n.totalSessions 1 = some total

theorem Admits.checks {rt : Runtime} {l : Ledger} {now : Int64} {d : Deposit rt} {k : Pubkey}
    (h : Admits rt l now d k) (hi : Inv rt l) (uncounted : Uncounted l) :
    ∃ cfg n bump expiry total, Checks rt l now d k cfg n bump expiry total := by
  obtain ⟨authority, rules, hforce, hpaused⟩ := h.unpaused
  obtain ⟨cfg, hcfg, _, rfl⟩ := charter_some hforce
  obtain ⟨provider, o, hlist, hactive⟩ := h.offered
  obtain ⟨n, hn, _, rfl⟩ := listing_some hlist
  obtain ⟨bump, hfind⟩ := h.address
  have hnow := Int64.le_toInt now
  have hlong := h.duration.1
  obtain ⟨expiry, hexpiry⟩ : ∃ e, checkedAddInt now d.durationSecs = some e :=
    ⟨_, if_pos ⟨by omega, h.expiry⟩⟩
  have hcount : n.totalSessions.toNat + (1 : UInt64).toNat < 2 ^ 64 := by
    rw [uncounted _ n hn]
    decide
  obtain ⟨total, htotal⟩ := checkedAdd_exists hcount
  exact ⟨cfg, n, bump, expiry, total, hcfg, create_of_find (hi.config _ cfg hcfg).1.address, hn,
    create_of_find (hi.node _ n hn).1.address, hactive, hfind, hpaused,
    UInt64.lt_iff_toNat_lt.mpr h.amount, ⟨Int64.le_iff_toInt_le.mpr h.duration.1,
      Int64.le_iff_toInt_le.mpr h.duration.2⟩, hexpiry, htotal⟩

/-- The ledger after an opening in lamports: the session's account holds its
record with rent and deposit, the consumer has paid for it, and nothing else has
changed. -/
structure Deposited (rt : Runtime) (l l' : Ledger) (now : Int64) (d : Deposit rt) (k : Pubkey) :
    Prop where
  record : ∃ s, (l' k).data = .session s ∧ d.Agreed l now s ∧ Opened rt l l' k s
  held : (l' k).lamports.toNat =
    max (rt.minimumBalance Session.space).toNat (l k).lamports.toNat + d.amount.toNat
  paid : (l' d.consumer.key).lamports.toNat + missingRent rt l k Session.space + d.amount.toNat =
    (l d.consumer.key).lamports.toNat
  wallet : (l' d.consumer.key).data = .system
  rest : ∀ x, x ≠ k → x ≠ d.consumer.key → l' x = l x

def OpenSession.deposit {rt : Runtime} (a : OpenSession rt) (sessionSeed amount : UInt64)
    (durationSecs : Int64) (ratePerUnit : UInt64) : Deposit rt :=
  ⟨a.node, a.consumer, none, sessionSeed, amount, durationSecs, ratePerUnit⟩

section
variable {rt : Runtime} {ctx : TxContext} {l l' : Ledger} {a : OpenSession rt}
  {sessionSeed amount ratePerUnit : UInt64} {durationSecs : Int64} {ts : List Transfer}

theorem openSessionHandler_taken (hi : Inv rt l)
    (h : openSessionHandler rt ctx l a sessionSeed amount durationSecs ratePerUnit =
      .ok (l', ts)) :
    Takes rt l ctx.unixTimestamp (a.deposit sessionSeed amount durationSecs ratePerUnit) a.session ∧
      Deposited rt l l' ctx.unixTimestamp (a.deposit sessionSeed amount durationSecs ratePerUnit)
        a.session := by
  obtain ⟨s, opened, _⟩ := openSessionHandler_effect h
  have agreed := openSessionHandler_agreed hi h opened.after
  simp only [openSessionHandler, bind_ok, loadConfig_ok, loadNode_ok, checkSeeds_ok,
    findSeeds_ok, require_ok, okOr_ok, pure_ok, Prod.mk.injEq, exitAccount_readonly,
    exitAccount_writable] at h
  obtain ⟨_, _, _, _, _, _, _, _, _, _, _, hfind, l₁, h₁, _, _, _, _, _, _, l₂, h₂, _, _, _, _, rfl,
    rfl⟩ := h
  have hck := a.consumer.key_ne hfind
  have hinit := initAccount_ok h₁
  have hpayer := initAccount_payer hck h₁
  obtain ⟨hsys, hcovered, hroom⟩ := (systemTransfer_iff hck).mp ⟨l₂, h₂⟩
  have hsend := (systemTransfer_ok h₂).2
  have hwallet : (l a.consumer.key).data = .system := by
    rwa [hinit.data, if_neg hck] at hsys
  rw [hinit.funded] at hroom
  refine ⟨⟨.of_opened opened.toOpened agreed, rfl, hwallet, ?_, hroom⟩,
    ⟨⟨s, opened.after, agreed, opened.toOpened⟩, ?_, ?_, ?_, fun x hx hxc => ?_⟩⟩
  · simp only [OpenSession.deposit]
    omega
  · rw [opened.funded, agreed.deposited]
    rfl
  · have he := hsend.lamports a.consumer.key
    rw [if_pos rfl, if_neg hck] at he
    simp only [OpenSession.deposit, Ledger.setData_lamports]
    omega
  · exact (opened.data _ hck).trans hwallet
  · have hxc : x ≠ a.consumer.key := hxc
    have he := hsend.lamports x
    rw [if_neg hxc, if_neg hx, hinit.bystander x hx hxc] at he
    exact account_ext (by simpa using he) (opened.data x hx)

/-- Nothing else is asked for. -/
theorem Takes.opens (ctx : TxContext) (hi : Inv rt l) (uncounted : Uncounted l)
    (h : Takes rt l ctx.unixTimestamp (a.deposit sessionSeed amount durationSecs ratePerUnit)
      a.session) (config : a.config = rt.configAddress) :
    ∃ l' ts, openSessionHandler rt ctx l a sessionSeed amount durationSecs ratePerUnit =
      .ok (l', ts) := by
  obtain ⟨cfg, n, bump, expiry, total, c⟩ := h.checks hi uncounted
  have hck := a.consumer.key_ne c.address
  have funds := h.funds
  simp only [OpenSession.deposit] at funds
  obtain ⟨l₁, h₁⟩ : ∃ l₁, initAccount rt l a.consumer.key a.session Session.space
      (.session default) = .ok l₁ :=
    (initAccount_iff hck).mpr ⟨h.unused, fun _ => ⟨h.wallet, by omega⟩⟩
  have hinit := initAccount_ok h₁
  have hpayer := initAccount_payer hck h₁
  have hsys : (l₁ a.consumer.key).data = .system := by
    rw [hinit.data, if_neg hck]
    exact h.wallet
  have hroom : (l₁ a.session).lamports.toNat + amount.toNat < 2 ^ 64 := by
    rw [hinit.funded]
    exact h.room
  obtain ⟨l₂, h₂⟩ := (systemTransfer_iff hck).mpr ⟨hsys, (by omega : amount.toNat ≤ _), hroom⟩
  simp only [openSessionHandler, config, bind_ok, loadConfig_ok, loadNode_ok, checkSeeds_ok,
    findSeeds_ok, require_ok, okOr_ok, pure_ok, Prod.mk.injEq]
  exact ⟨_, _, cfg, c.config, (), c.configSeeds, n, c.node, (), c.nodeSeeds, (), c.active, bump,
    c.address, l₁, h₁, (), c.unpaused, (), c.amount, (), c.duration, l₂, h₂, expiry, c.expiry,
    total, c.total, rfl, rfl⟩

end

end SolMesh
