import SolMesh.Proofs.Creation
import SolMesh.Proofs.Effects

namespace SolMesh
open Outcome Words

/-- The config is the one at the canonical address, within its limits. -/
structure ConfigOk (rt : Runtime) (x : Pubkey) (c : Config) : Prop where
  address : rt.find .config = some (x, c.bump)
  feeVault : ∃ b, rt.find .feeVault = some (c.feeVault, b)
  fee : c.feeBps.toNat ≤ 1000
  window : 0 < c.challengeWindowSecs.toInt

structure NodeOk (rt : Runtime) (x : Pubkey) (n : Node) : Prop where
  address : rt.find (.node n.asset) = some (x, n.bump)
  provider : ¬ rt.IsPda n.provider

/-- Metadata and trackers may change; who the node is does not. -/
structure Node.SameIdentity (n n' : Node) : Prop where
  asset : n'.asset = n.asset
  provider : n'.provider = n.provider
  bump : n'.bump = n.bump

theorem Node.SameIdentity.refl (n : Node) : n.SameIdentity n := ⟨rfl, rfl, rfl⟩

theorem NodeOk.of_identity {rt : Runtime} {x : Pubkey} {n n' : Node} (h : NodeOk rt x n)
    (hi : n.SameIdentity n') : NodeOk rt x n' :=
  ⟨by rw [hi.asset, hi.bump]; exact h.address, by rw [hi.provider]; exact h.provider⟩

/-- What may appear at an address that carried no record of the program. The
session an instruction is about is `busy`. -/
def NewOk (rt : Runtime) (busy : Option Pubkey) (x : Pubkey) (a : Account) : Prop :=
  match a.data with
  | .session _ => busy = some x
  | .config c => ConfigOk rt x c ∧ 0 < a.lamports.toNat
  | .node n => NodeOk rt x n ∧ 0 < a.lamports.toNat
  | .system | .token _ | .mint | .core _ | .burned | .foreign _ => True

theorem newOk_of_unowned {rt : Runtime} {busy : Option Pubkey} {x : Pubkey} {a : Account}
    (h : a.data.ownedByProgram = false) : NewOk rt busy x a := by
  unfold NewOk
  split <;> simp_all [AccountData.ownedByProgram]

/-- The account had no lamports left and is gone. -/
def Gone (l l' : Ledger) (x : Pubkey) : Prop :=
  (l x).lamports.toNat = 0 ∧ (l' x).data = .system

/-- What a step about session `busy`, if any, leaves of everything else. -/
structure Frame (rt : Runtime) (busy : Option Pubkey) (l l' : Ledger) : Prop where
  config : ∀ x c, (l x).data = .config c → Gone l l' x ∨
    ∃ c', (l' x).data = .config c' ∧ (ConfigOk rt x c → ConfigOk rt x c') ∧
      (l x).lamports.toNat ≤ (l' x).lamports.toNat
  node : ∀ x n, (l x).data = .node n → Gone l l' x ∨
    ∃ n', (l' x).data = .node n' ∧ n.SameIdentity n' ∧
      (l x).lamports.toNat ≤ (l' x).lamports.toNat
  session : ∀ x s, (l x).data = .session s → Gone l l' x ∨
    ∃ s', (l' x).data = .session s' ∧
      (busy ≠ some x → s' = s ∧ (l x).lamports.toNat ≤ (l' x).lamports.toNat)
  token : ∀ x t, (l x).data = .token t → rt.IsPda t.owner → Gone l l' x ∨
    ∃ t', (l' x).data = .token t' ∧ t'.mint = t.mint ∧ t'.owner = t.owner ∧
      (l x).lamports.toNat ≤ (l' x).lamports.toNat ∧
      ((∀ k s b, busy = some k → (l k).data = .session s →
        rt.find (.vault k) ≠ some (t.owner, b)) → t.amount.toNat ≤ t'.amount.toNat)
  born : ∀ x, (l x).data.ownedByProgram = false → NewOk rt busy x (l' x)

/-- A step that leaves the records of the program and the tokens of its
addresses alone, and creates only what is in order. -/
theorem Frame.of_kept {rt : Runtime} {busy : Option Pubkey} {l l' : Ledger}
    (kept : ∀ x, (l x).data ≠ .system → (∀ t, (l x).data = .token t → rt.IsPda t.owner) →
      (l' x).data = (l x).data ∧ (l x).lamports.toNat ≤ (l' x).lamports.toNat)
    (new : ∀ x, (l x).data.ownedByProgram = false → NewOk rt busy x (l' x)) :
    Frame rt busy l l' := by
  refine ⟨fun x c hc => .inr ?_, fun x n hn => .inr ?_, fun x s hs => .inr ?_,
    fun x t ht hpda => .inr ?_, new⟩
  · obtain ⟨hd, hl⟩ := kept x (by simp [hc]) (by simp [hc])
    exact ⟨c, hd.trans hc, id, hl⟩
  · obtain ⟨hd, hl⟩ := kept x (by simp [hn]) (by simp [hn])
    exact ⟨n, hd.trans hn, .refl n, hl⟩
  · obtain ⟨hd, hl⟩ := kept x (by simp [hs]) (by simp [hs])
    exact ⟨s, hd.trans hs, fun _ => ⟨rfl, hl⟩⟩
  · obtain ⟨hd, hl⟩ := kept x (by simp [ht]) (by simpa [ht] using hpda)
    exact ⟨t, hd.trans ht, rfl, rfl, hl, fun _ => Nat.le_refl _⟩

theorem OpenedSol.frame {rt : Runtime} {l l' : Ledger} {k : Pubkey} {s : Session}
    (h : OpenedSol rt l l' k s) : Frame rt (some k) l l' := by
  refine .of_kept (fun x hx _ => ?_) fun x hx => ?_
  · have hne : x ≠ k := ne_of_absent hx h.fresh
    exact ⟨h.data x hne, by rw [h.carrier x hne hx]⟩
  · by_cases hxk : x = k
    · subst hxk
      simp [NewOk, h.after]
    · exact newOk_of_unowned (by rwa [h.data x hxk])

theorem OpenedSpl.frame {rt : Runtime} {l l' : Ledger} {k m : Pubkey} {s : Session}
    (h : OpenedSpl rt l l' k m s) : Frame rt (some k) l l' := by
  refine .of_kept (fun x hx hpda => ?_) fun x hx => ?_
  · have hxk : x ≠ k := ne_of_absent hx h.fresh
    have hxv : x ≠ rt.vaultAta k m := ne_of_absent hx h.vaultFresh
    refine ⟨?_, by rw [h.carrier x hxk hx]⟩
    by_cases ht : ∃ t, (l x).data = .token t
    · obtain ⟨t, ht⟩ := ht
      obtain ⟨t', ht', hm, ho, ha⟩ := h.token x t ht
      have hne : t.owner ≠ s.consumer := by
        intro he
        exact h.consumer (he ▸ hpda t ht)
      rw [ht', ht, TokenAccount.ext hm ho (ha hne)]
    · exact h.data x hxk hxv fun t he => ht ⟨t, he⟩
  · by_cases hxk : x = k
    · subst hxk
      simp [NewOk, h.after]
    refine newOk_of_unowned ?_
    by_cases hxv : x = rt.vaultAta k m
    · rw [hxv, h.vault]
      rfl
    by_cases ht : ∃ t, (l x).data = .token t
    · obtain ⟨t, ht⟩ := ht
      obtain ⟨t', ht', _⟩ := h.token x t ht
      rw [ht']
      rfl
    · rwa [h.data x hxk hxv fun t he => ht ⟨t, he⟩]

theorem SessionEffect.frame {rt : Runtime} {l l' : Ledger} {ts : List Transfer} {k : Pubkey}
    {s s' : Session} {mv : SessionMove} (h : SessionEffect rt l l' ts k s s' mv)
    (lamports : ∀ x, x ≠ k → (l x).lamports.toNat ≤ (l' x).lamports.toNat)
    (token : ∀ x t, (l x).data = .token t → ∃ t', (l' x).data = .token t' ∧
      t'.mint = t.mint ∧ t'.owner = t.owner ∧
      ((∀ b, rt.find (.vault k) ≠ some (t.owner, b)) → t.amount.toNat ≤ t'.amount.toNat)) :
    Frame rt (some k) l l' := by
  have hr := h.recorded
  refine ⟨fun x c hc => .inr ?_, fun x n hn => .inr ?_, fun x t ht => .inr ?_,
    fun x t ht _ => .inr ?_, fun x hx => ?_⟩
  · have hxk : x ≠ k := ne_of_data hc hr.before (by simp)
    exact ⟨c, (hr.rest x hxk (by simp [hc]) (by simp [hc])).trans hc, id, lamports x hxk⟩
  · have hxk : x ≠ k := ne_of_data hn hr.before (by simp)
    cases hw : s.work mv with
    | none => exact ⟨n, hr.idle x n hn (.inl hw), .refl n, lamports x hxk⟩
    | some w =>
      by_cases hxn : x = s.node
      · obtain ⟨n₀, n', hn₀, hn', he⟩ := hr.worked w hw
        obtain rfl : n₀ = n := by simpa [← hxn, hn] using hn₀.symm
        refine ⟨n', by rw [hxn]; exact hn', ?_, lamports x hxk⟩
        rw [he.identity]
        exact ⟨rfl, rfl, rfl⟩
      · exact ⟨n, hr.idle x n hn (.inr hxn), .refl n, lamports x hxk⟩
  · by_cases hxk : x = k
    · subst hxk
      exact ⟨s', hr.after, fun hb => absurd rfl hb⟩
    · exact ⟨t, (hr.rest x hxk (by simp [ht]) (by simp [ht])).trans ht,
        fun _ => ⟨rfl, lamports x hxk⟩⟩
  · have hxk : x ≠ k := ne_of_data ht hr.before (by simp)
    obtain ⟨t', ht', hm, ho, ha⟩ := token x t ht
    exact ⟨t', ht', hm, ho, lamports x hxk, fun hne => ha fun b => hne k s b rfl hr.before⟩
  · have hxk : x ≠ k := by
      intro he
      subst he
      simp [hr.before, AccountData.ownedByProgram] at hx
    refine newOk_of_unowned ?_
    by_cases ht : ∃ t, (l x).data = .token t
    · obtain ⟨t, ht⟩ := ht
      obtain ⟨t', ht', _⟩ := token x t ht
      rw [ht']
      rfl
    · rwa [hr.rest x hxk (fun n hn => by simp [hn, AccountData.ownedByProgram] at hx)
        fun t he => ht ⟨t, he⟩]

theorem PaysLamports.others {rt : Runtime} {l l' : Ledger} {k x : Pubkey} {s : Session}
    {ts : List Transfer} (h : PaysLamports rt l l' k s ts) (hx : x ≠ k) :
    (l x).lamports.toNat ≤ (l' x).lamports.toNat := by
  have hd : debit x ts = 0 := debit_eq_zero fun t ht he => absurd (he.trans (h.source t ht).2) hx
  have := h.lamports x
  omega

theorem PaysTokens.others {rt : Runtime} {l l' : Ledger} {k v x : Pubkey} {s : Session}
    {ts : List Transfer} {t : TokenAccount} (h : PaysTokens rt l l' k s v ts)
    (ht : (l x).data = .token t) (hne : ∀ b, rt.find (.vault k) ≠ some (t.owner, b)) :
    debit x ts = 0 := by
  apply debit_eq_zero
  intro u hu he
  by_contra hz
  obtain ⟨a, _, ha, _, _, ho⟩ := h.rights u hu hz
  obtain rfl : a = t := by simpa [← he, ht] using ha.symm
  obtain ⟨b, hb⟩ := h.authority
  exact hne b (by rw [ho, hb])

theorem SessionCall.frame {rt : Runtime} {ctx : TxContext} {c : Call rt} {l l' : Ledger}
    {ts : List Transfer} {k : Pubkey} {s s' : Session} {mv : SessionMove}
    (h : SessionCall rt ctx c l l' ts k s s' mv) : Frame rt (some k) l l' := by
  cases hv : c.vaultToken? with
  | none =>
    obtain ⟨_, hp⟩ := h.inLamports hv
    exact h.toSessionEffect.frame (fun x hx => hp.others hx)
      fun x t ht => ⟨t, hp.tokens x t ht, rfl, rfl, fun _ => Nat.le_refl _⟩
  | some v =>
    obtain ⟨_, hp⟩ := h.inTokens v hv
    refine h.toSessionEffect.frame (fun x _ => by rw [hp.lamports]) fun x t ht => ?_
    obtain ⟨t', ht', hm, ho, he⟩ := hp.tokens x t ht
    refine ⟨t', ht', hm, ho, fun hne => ?_⟩
    have := hp.others ht hne
    omega

theorem initializeConfigHandler_frame {rt : Runtime} {l l' : Ledger} {a : InitializeConfig rt}
    {feeBps : UInt16} {window : Int64} {mplCore : Pubkey} {ts : List Transfer}
    (h : initializeConfigHandler rt l a feeBps window mplCore = .ok (l', ts)) :
    Frame rt none l l' := by
  simp only [initializeConfigHandler, bind_ok, findSeeds_ok, require_ok, pure_ok, Prod.mk.injEq,
    exitAccount_writable] at h
  obtain ⟨bump, hfind, l₁, h₁, b, hvault, _, hfee, _, hwindow, rfl, rfl⟩ := h
  have hi := initAccount_ok h₁
  refine .of_kept (fun x hx _ => ?_) fun x hx => ?_
  · have hne : x ≠ a.config := ne_of_absent hx hi.fresh
    rw [Ledger.setData_data, if_neg hne, hi.data, if_neg hne, Ledger.setData_lamports,
      hi.carrier x hne hx]
    exact ⟨rfl, Nat.le_refl _⟩
  · by_cases hxc : x = a.config
    · subst hxc
      have hpos := rt.minimumBalance_pos Config.space
      simp only [NewOk, Ledger.setData_data, if_true, Ledger.setData_lamports, hi.funded]
      exact ⟨⟨hfind, ⟨b, hvault⟩, UInt16.le_iff_toNat_le.mp hfee,
        Int64.lt_iff_toInt_lt.mp hwindow⟩, by omega⟩
    · refine newOk_of_unowned ?_
      rwa [Ledger.setData_data, if_neg hxc, hi.data, if_neg hxc]

theorem Registered.frame {rt : Runtime} {l l' : Ledger} {k : Pubkey} {n : Node}
    (h : Registered rt l l' k n) : Frame rt none l l' := by
  refine .of_kept (fun x hx _ => ?_) fun x hx => ?_
  · have hxk : x ≠ k := ne_of_absent hx h.nodeFresh
    have hxa : x ≠ n.asset := ne_of_absent hx h.assetFresh
    exact ⟨h.data x hxk hxa, by rw [h.carrier x hx]⟩
  · by_cases hxk : x = k
    · subst hxk
      simp only [NewOk, h.node]
      exact ⟨⟨h.address, h.provider⟩, h.funded⟩
    refine newOk_of_unowned ?_
    by_cases hxa : x = n.asset
    · obtain ⟨c, hc, _⟩ := h.asset.2
      rw [hxa, hc]
      rfl
    · rwa [h.data x hxk hxa]

/-- A config that an administrator rewrites within its limits. -/
theorem frame_of_config {rt : Runtime} {l : Ledger} {k : Pubkey} {c c' : Config}
    (hc : (l k).data = .config c) (hok : ConfigOk rt k c → ConfigOk rt k c') :
    Frame rt none l (l.setData k (.config c')) := by
  have kept : ∀ x, x ≠ k → ((l.setData k (.config c')) x).data = (l x).data := fun x hx => by
    rw [Ledger.setData_data, if_neg hx]
  refine ⟨fun x d hd => .inr ?_, fun x n hn => .inr ?_, fun x s hs => .inr ?_,
    fun x t ht _ => .inr ?_, fun x hx => newOk_of_unowned ?_⟩
  · by_cases hx : x = k
    · subst hx
      obtain rfl : c = d := by simpa [hc] using hd
      exact ⟨c', Ledger.setData_self _ _ _, hok, by simp⟩
    · exact ⟨d, (kept x hx).trans hd, id, by simp⟩
  · exact ⟨n, (kept x (ne_of_data hn hc (by simp))).trans hn, .refl n, by simp⟩
  · exact ⟨s, (kept x (ne_of_data hs hc (by simp))).trans hs, fun _ => ⟨rfl, by simp⟩⟩
  · exact ⟨t, (kept x (ne_of_data ht hc (by simp))).trans ht, rfl, rfl, by simp,
      fun _ => Nat.le_refl _⟩
  · rw [kept x ?_]
    · exact hx
    · intro he
      subst he
      simp [hc, AccountData.ownedByProgram] at hx

theorem AdminConfig.load_ok {rt : Runtime} {l : Ledger} {a : AdminConfig rt} {c : Config} :
    a.load rt l = .ok c ↔ (l a.config).data = .config c ∧ c.authority = a.authority.key ∧
      rt.createProgramAddress .config c.bump = some a.config := by
  simp only [AdminConfig.load, bind_ok, loadConfig_ok, checkSeeds_ok, require_ok, pure_ok]
  constructor
  · intro h
    obtain ⟨c, hc, _, ha, _, hs, rfl⟩ := h
    exact ⟨hc, ha, hs⟩
  · intro h
    obtain ⟨hc, ha, hs⟩ := h
    exact ⟨c, hc, (), ha, (), hs, rfl⟩

theorem ConfigOk.withFeeBps {rt : Runtime} {x : Pubkey} {c c' : Config} {feeBps : Option UInt16}
    (hok : ConfigOk rt x c) (h : c.withFeeBps feeBps = .ok c') : ConfigOk rt x c' := by
  cases feeBps with
  | none =>
    obtain rfl := pure_ok.mp h
    exact hok
  | some f =>
    simp only [Config.withFeeBps, bind_ok, require_ok, pure_ok] at h
    obtain ⟨_, hf, rfl⟩ := h
    exact ⟨hok.address, hok.feeVault, UInt16.le_iff_toNat_le.mp hf, hok.window⟩

theorem ConfigOk.withChallengeWindow {rt : Runtime} {x : Pubkey} {c c' : Config}
    {window : Option Int64} (hok : ConfigOk rt x c) (h : c.withChallengeWindow window = .ok c') :
    ConfigOk rt x c' := by
  cases window with
  | none =>
    obtain rfl := pure_ok.mp h
    exact hok
  | some w =>
    simp only [Config.withChallengeWindow, bind_ok, require_ok, pure_ok] at h
    obtain ⟨_, hw, rfl⟩ := h
    exact ⟨hok.address, hok.feeVault, hok.fee, Int64.lt_iff_toInt_lt.mp hw⟩

theorem updateConfigHandler_frame {rt : Runtime} {l l' : Ledger} {a : AdminConfig rt}
    {feeBps : Option UInt16} {window : Option Int64} {ts : List Transfer}
    (h : updateConfigHandler rt l a feeBps window = .ok (l', ts)) : Frame rt none l l' := by
  simp only [updateConfigHandler, bind_ok, pure_ok, Prod.mk.injEq, exitAccount_writable] at h
  obtain ⟨c, hload, c₁, h₁, c₂, h₂, rfl, rfl⟩ := h
  refine frame_of_config (AdminConfig.load_ok.mp hload).1 fun hok => ?_
  exact (hok.withFeeBps h₁).withChallengeWindow h₂

theorem setPausedHandler_frame {rt : Runtime} {l l' : Ledger} {a : AdminConfig rt}
    {paused : Bool} {ts : List Transfer} (h : setPausedHandler rt l a paused = .ok (l', ts)) :
    Frame rt none l l' := by
  simp only [setPausedHandler, bind_ok, pure_ok, Prod.mk.injEq, exitAccount_writable] at h
  obtain ⟨c, hload, rfl, rfl⟩ := h
  exact frame_of_config (AdminConfig.load_ok.mp hload).1
    fun hok => ⟨hok.address, hok.feeVault, hok.fee, hok.window⟩

theorem withdrawFeesHandler_frame {rt : Runtime} {l l' : Ledger} {a : WithdrawFees rt}
    {amount : UInt64} {ts : List Transfer}
    (h : withdrawFeesHandler rt l a amount = .ok (l', ts)) : Frame rt none l l' := by
  simp only [withdrawFeesHandler, bind_ok, loadConfig_ok, checkSeeds_ok, findSeeds_ok, require_ok,
    pure_ok, Prod.mk.injEq] at h
  obtain ⟨cfg, _, _, _, _, _, _, hsys, _, _, l₁, h₁, rfl, rfl⟩ := h
  obtain ⟨_, hsend⟩ := systemTransfer_ok h₁
  refine .of_kept (fun x hx _ => ⟨hsend.data x, ?_⟩) fun x hx =>
    newOk_of_unowned (by rwa [hsend.data])
  have hxv : x ≠ a.feeVault := ne_of_absent hx hsys
  have he := hsend.lamports x
  rw [if_neg hxv] at he
  omega

theorem setReputation_ok {l l' : Ledger} {asset authority : Pubkey} {capacity totalUnits : UInt64}
    {geo : String} {reputation : UInt32}
    (h : setReputation l asset authority capacity geo reputation totalUnits = .ok l') :
    ∃ c, (l asset).data = .core c ∧ c.updateAuthority = authority ∧
      l' = l.setData asset
        (.core { c with attributes := nodeAttributes capacity geo reputation totalUnits }) := by
  unfold setReputation at h
  split at h
  · rename_i c hc
    simp only [bind_ok, require_ok, pure_ok] at h
    obtain ⟨_, ha, rfl⟩ := h
    exact ⟨c, hc, ha, rfl⟩
  · contradiction

/-- What a node offers may change; everything it has earned stays. -/
structure Node.SameRecord (n n' : Node) : Prop extends n.SameIdentity n' where
  reputation : n'.reputation = n.reputation
  totalUnits : n'.totalUnits = n.totalUnits
  totalSessions : n'.totalSessions = n.totalSessions
  totalSettled : n'.totalSettled = n.totalSettled

theorem Node.sameRecord_withCapacity {n n' : Node} {capacity : Option UInt64}
    (h : n.withCapacity capacity = .ok n') : n.SameRecord n' := by
  cases capacity with
  | none =>
    obtain rfl := pure_ok.mp h
    exact ⟨.refl n, rfl, rfl, rfl, rfl⟩
  | some v =>
    simp only [Node.withCapacity, bind_ok, require_ok, pure_ok] at h
    obtain ⟨_, _, rfl⟩ := h
    exact ⟨⟨rfl, rfl, rfl⟩, rfl, rfl, rfl, rfl⟩

theorem Node.sameRecord_withGeo {n n' : Node} {geo : Option String}
    (h : n.withGeo geo = .ok n') : n.SameRecord n' := by
  cases geo with
  | none =>
    obtain rfl := pure_ok.mp h
    exact ⟨.refl n, rfl, rfl, rfl, rfl⟩
  | some g =>
    simp only [Node.withGeo, bind_ok, require_ok, pure_ok] at h
    obtain ⟨_, _, rfl⟩ := h
    exact ⟨⟨rfl, rfl, rfl⟩, rfl, rfl, rfl, rfl⟩

theorem Node.sameRecord_withActive (n : Node) (active : Option Bool) :
    n.SameRecord (n.withActive active) := by
  cases active <;> exact ⟨⟨rfl, rfl, rfl⟩, rfl, rfl, rfl, rfl⟩

theorem Node.SameRecord.trans {n₁ n₂ n₃ : Node} (h : n₁.SameRecord n₂) (h' : n₂.SameRecord n₃) :
    n₁.SameRecord n₃ :=
  ⟨⟨h'.asset.trans h.asset, h'.provider.trans h.provider, h'.bump.trans h.bump⟩,
    h'.reputation.trans h.reputation, h'.totalUnits.trans h.totalUnits,
    h'.totalSessions.trans h.totalSessions, h'.totalSettled.trans h.totalSettled⟩

theorem updateNodeMetaHandler_ok {rt : Runtime} {l l' : Ledger} {a : UpdateNodeMeta rt}
    {capacity : Option UInt64} {geo : Option String} {active : Option Bool} {ts : List Transfer}
    (h : updateNodeMetaHandler rt l a capacity geo active = .ok (l', ts)) :
    ∃ n n' c attributes, (l a.node).data = .node n ∧ (l n.asset).data = .core c ∧
      n.SameRecord n' ∧
      attributes = nodeAttributes n'.capacity n'.geo n'.reputation n'.totalUnits ∧
      l' = (l.setData n.asset (.core { c with attributes := attributes })).setData a.node
        (.node n') := by
  simp only [updateNodeMetaHandler, bind_ok, loadConfig_ok, loadNode_ok, checkSeeds_ok,
    require_ok, pure_ok, Prod.mk.injEq, exitAccount_writable] at h
  obtain ⟨cfg, _, _, _, n, hn, _, _, _, _, _, hasset, _, _, n₁, h₁, n₂, h₂, l₁, h₃, rfl, rfl⟩ := h
  obtain ⟨c, hc, _, rfl⟩ := setReputation_ok h₃
  rw [hasset] at hc ⊢
  exact ⟨n, n₂.withActive active, c, _, hn, hc, ((Node.sameRecord_withCapacity h₁).trans
    (Node.sameRecord_withGeo h₂)).trans (Node.sameRecord_withActive n₂ active), rfl, rfl⟩

theorem updateNodeMetaHandler_frame {rt : Runtime} {l l' : Ledger} {a : UpdateNodeMeta rt}
    {capacity : Option UInt64} {geo : Option String} {active : Option Bool} {ts : List Transfer}
    (h : updateNodeMetaHandler rt l a capacity geo active = .ok (l', ts)) :
    Frame rt none l l' := by
  obtain ⟨n, n', c, attributes, hn, hc, he, _, rfl⟩ := updateNodeMetaHandler_ok h
  have kept : ∀ x, x ≠ a.node → x ≠ n.asset → (((l.setData n.asset (.core
      { c with attributes := attributes })).setData a.node (.node n')) x).data = (l x).data :=
    fun x hxn hxa => by
    rw [Ledger.setData_data, if_neg hxn, Ledger.setData_data, if_neg hxa]
  refine ⟨fun x d hd => .inr ?_, fun x m hm => .inr ?_, fun x s hs => .inr ?_,
    fun x t ht _ => .inr ?_, fun x hx => newOk_of_unowned ?_⟩
  · exact ⟨d, (kept x (ne_of_data hd hn (by simp)) (ne_of_data hd hc (by simp))).trans hd, id,
      by simp⟩
  · by_cases hx : x = a.node
    · subst hx
      obtain rfl : n = m := by simpa [hn] using hm
      exact ⟨n', Ledger.setData_self _ _ _, he.toSameIdentity, by simp⟩
    · exact ⟨m, (kept x hx (ne_of_data hm hc (by simp))).trans hm, .refl m, by simp⟩
  · exact ⟨s, (kept x (ne_of_data hs hn (by simp)) (ne_of_data hs hc (by simp))).trans hs,
      fun _ => ⟨rfl, by simp⟩⟩
  · exact ⟨t, (kept x (ne_of_data ht hn (by simp)) (ne_of_data ht hc (by simp))).trans ht, rfl, rfl,
      by simp, fun _ => Nat.le_refl _⟩
  · have hxn : x ≠ a.node := by
      intro he
      subst he
      simp [hn, AccountData.ownedByProgram] at hx
    by_cases hxa : x = n.asset
    · rw [Ledger.setData_data, if_neg hxn, Ledger.setData_data, if_pos hxa]
      rfl
    · rwa [kept x hxn hxa]

theorem Respects.frame {rt : Runtime} {l l' : Ledger} (h : Respects rt l l') :
    Frame rt none l l' := by
  refine ⟨fun x c hc => .inr ?_, fun x n hn => .inr ?_, fun x s hs => .inr ?_,
    fun x t ht hpda => .inr ?_, fun x hx => newOk_of_unowned ?_⟩
  · obtain ⟨hd, hl⟩ := h.program x (by simp [hc, AccountData.ownedByProgram])
    exact ⟨c, hd.trans hc, id, hl⟩
  · obtain ⟨hd, hl⟩ := h.program x (by simp [hn, AccountData.ownedByProgram])
    exact ⟨n, hd.trans hn, .refl n, hl⟩
  · obtain ⟨hd, hl⟩ := h.program x (by simp [hs, AccountData.ownedByProgram])
    exact ⟨s, hd.trans hs, fun _ => ⟨rfl, hl⟩⟩
  · obtain ⟨hl, t', ht', hm, ho, ha⟩ := h.token x t ht hpda
    exact ⟨t', ht', hm, ho, hl, fun _ => ha⟩
  · by_contra hne
    rw [h.fresh x (by simpa using hne)] at hx
    simp at hx

theorem purge_frame (rt : Runtime) (l : Ledger) : Frame rt none l l.purge := by
  have gone : ∀ x, Gone l l.purge x ∨ l.purge x = l x := by
    intro x
    by_cases hz : (l x).lamports.toNat = 0
    · refine .inl ⟨hz, ?_⟩
      have : (l x).lamports = 0 := UInt64.toNat_inj.mp hz
      simp [Ledger.purge, this]
    · exact .inr (l.purge_of_pos x (by omega))
  refine ⟨fun x c hc => (gone x).imp id fun he => ?_, fun x n hn => (gone x).imp id fun he => ?_,
    fun x s hs => (gone x).imp id fun he => ?_, fun x t ht _ => (gone x).imp id fun he => ?_,
    fun x hx => newOk_of_unowned ?_⟩
  · exact ⟨c, by rw [he, hc], id, by rw [he]⟩
  · exact ⟨n, by rw [he, hn], .refl n, by rw [he]⟩
  · exact ⟨s, by rw [he, hs], fun _ => ⟨rfl, by rw [he]⟩⟩
  · exact ⟨t, by rw [he, ht], rfl, rfl, by rw [he], fun _ => Nat.le_refl _⟩
  · rcases gone x with hg | he
    · rw [hg.2]
      rfl
    · rwa [he]

/-- The session a step is about. -/
def Label.busy {rt : Runtime} : Label rt → Option Pubkey
  | .call _ c _ => c.session?
  | .external | .commit => none

/-- Whatever happens on the chain, it keeps within its frame. -/
theorem Step.frame {rt : Runtime} {l l' : Ledger} {label : Label rt}
    (h : Step rt l label l') : Frame rt label.busy l l' := by
  cases h with
  | external respects => exact respects.frame
  | commit => exact purge_frame rt l
  | @call ctx c _ _ ts hp ok =>
    change Frame rt c.session? l l'
    cases hk : c.session? with
    | none =>
      cases c with
      | initializeConfig a f w m => exact initializeConfigHandler_frame ok
      | registerNode a n u cap g r =>
        obtain ⟨_, hr⟩ := registerNodeHandler_effect ok
        exact hr.frame
      | updateConfig a f w => exact updateConfigHandler_frame ok
      | setPaused a p => exact setPausedHandler_frame ok
      | withdrawFees a n => exact withdrawFeesHandler_frame ok
      | updateNodeMeta a cap g b => exact updateNodeMetaHandler_frame ok
      | _ => simp [Call.session?] at hk
    | some k =>
      cases ho : c.opens with
      | false =>
        obtain ⟨s, s', mv, hc⟩ := Call.session_call hp ok hk ho
        exact hc.frame
      | true =>
        cases c with
        | openSession a seed n d r =>
          obtain ⟨s, hs, _⟩ := openSessionHandler_effect ok
          cases hk
          exact hs.frame
        | openSessionSpl a seed n d r =>
          obtain ⟨s, m, hs, _⟩ := openSessionSplHandler_effect ok
          cases hk
          exact hs.frame
        | _ => simp [Call.opens] at ho

end SolMesh
