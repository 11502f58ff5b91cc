import SolMesh.Model.Program

namespace SolMesh
open Outcome

def ConfigAt (rt : Runtime) (l : Ledger) (cfg : Config) : Prop :=
  ∃ x, (l x).data = .config cfg ∧ rt.createProgramAddress .config cfg.bump = some x

/-- The checks that the payout instructions make on their accounts alike. -/
structure PartiesLoaded (rt : Runtime) (l : Ledger)
    (config node session provider consumer asset mplCoreProgram : Pubkey) (cfg : Config)
    (n : Node) (s : Session) : Prop where
  configData : (l config).data = .config cfg
  configSeeds : rt.createProgramAddress .config cfg.bump = some config
  nodeData : (l node).data = .node n
  nodeSeeds : rt.createProgramAddress (.node n.asset) n.bump = some node
  sessionData : (l session).data = .session s
  hasNode : s.node = node
  hasProvider : s.provider = provider
  hasConsumer : s.consumer = consumer
  sessionSeeds : rt.createProgramAddress (.session s.node s.consumer s.sessionSeed) s.bump =
    some session
  hasAsset : asset = n.asset
  hasCore : mplCoreProgram = cfg.mplCoreProgram

theorem Settle.load_ok {rt : Runtime} {l : Ledger} {a : Settle rt} {cfg : Config} {n : Node}
    {s : Session} : a.load rt l = .ok (cfg, n, s) ↔
      PartiesLoaded rt l a.config a.node a.session a.provider a.consumer a.asset
        a.mplCoreProgram cfg n s ∧
      a.feeVault = cfg.feeVault ∧ a.instructionsSysvar = ixSysvarId := by
  simp only [Settle.load, bind_ok, loadConfig_ok, loadNode_ok, loadSession_ok, checkSeeds_ok,
    require_ok, pure_ok, Prod.mk.injEq]
  constructor
  · intro h
    obtain ⟨cfg, hc, _, hcs, n, hn, _, hns, s, hs, _, h₁, _, h₂, _, h₃, _, hss, _, ha, _, hf, _,
      hm, _, hi, rfl, rfl, rfl⟩ := h
    exact ⟨⟨hc, hcs, hn, hns, hs, h₁, h₂, h₃, hss, ha, hm⟩, hf, hi⟩
  · intro h
    obtain ⟨⟨hc, hcs, hn, hns, hs, h₁, h₂, h₃, hss, ha, hm⟩, hf, hi⟩ := h
    exact ⟨cfg, hc, (), hcs, n, hn, (), hns, s, hs, (), h₁, (), h₂, (), h₃, (), hss, (), ha, (),
      hf, (), hm, (), hi, rfl, rfl, rfl⟩

theorem FinalizeClose.load_ok {rt : Runtime} {l : Ledger} {a : FinalizeClose rt} {cfg : Config}
    {n : Node} {s : Session} : a.load rt l = .ok (cfg, n, s) ↔
      PartiesLoaded rt l a.config a.node a.session a.provider a.consumer a.asset
        a.mplCoreProgram cfg n s ∧ a.feeVault = cfg.feeVault := by
  simp only [FinalizeClose.load, bind_ok, loadConfig_ok, loadNode_ok, loadSession_ok,
    checkSeeds_ok, require_ok, pure_ok, Prod.mk.injEq]
  constructor
  · intro h
    obtain ⟨cfg, hc, _, hcs, n, hn, _, hns, s, hs, _, h₁, _, h₂, _, h₃, _, hss, _, ha, _, hf, _,
      hm, rfl, rfl, rfl⟩ := h
    exact ⟨⟨hc, hcs, hn, hns, hs, h₁, h₂, h₃, hss, ha, hm⟩, hf⟩
  · intro h
    obtain ⟨⟨hc, hcs, hn, hns, hs, h₁, h₂, h₃, hss, ha, hm⟩, hf⟩ := h
    exact ⟨cfg, hc, (), hcs, n, hn, (), hns, s, hs, (), h₁, (), h₂, (), h₃, (), hss, (), ha, (),
      hf, (), hm, rfl, rfl, rfl⟩

/-- The token accounts a payout in tokens asks for: the vault's only has to be
a token account. -/
structure TokensLoaded (rt : Runtime) (l : Ledger) (a : PayoutSpl rt) (cfg : Config) : Prop where
  authority : ∃ b, rt.find (.vault a.session) = some (a.vaultAuthority, b)
  vault : ∃ t, (l a.vaultToken).data = .token t
  provider : ∃ t, (l a.providerToken).data = .token t ∧ t.owner = a.provider
  consumer : ∃ t, (l a.consumerToken).data = .token t ∧ t.owner = a.consumer
  fee : ∃ t, (l a.feeToken).data = .token t ∧ t.owner = cfg.feeVault

theorem PayoutSpl.load_ok {rt : Runtime} {l : Ledger} {a : PayoutSpl rt} {cfg : Config} {n : Node}
    {s : Session} : a.load rt l = .ok (cfg, n, s) ↔
      PartiesLoaded rt l a.config a.node a.session a.provider a.consumer a.asset
        a.mplCoreProgram cfg n s ∧ TokensLoaded rt l a cfg := by
  simp only [PayoutSpl.load, bind_ok, loadConfig_ok, loadNode_ok, loadSession_ok,
    checkSeeds_ok, findSeeds_ok, loadToken_ok, require_ok, pure_ok, Prod.mk.injEq]
  constructor
  · intro h
    obtain ⟨cfg, hc, _, hcs, n, hn, _, hns, s, hs, _, h₁, _, h₂, _, h₃, _, hss, _, ha, b, hb, v,
      hv, p, hp, _, hpo, c, hco, _, hcoo, f, hf, _, hfo, _, hm, rfl, rfl, rfl⟩ := h
    exact ⟨⟨hc, hcs, hn, hns, hs, h₁, h₂, h₃, hss, ha, hm⟩,
      ⟨b, hb⟩, ⟨v, hv⟩, ⟨p, hp, hpo⟩, ⟨c, hco, hcoo⟩, ⟨f, hf, hfo⟩⟩
  · intro h
    obtain ⟨⟨hc, hcs, hn, hns, hs, h₁, h₂, h₃, hss, ha, hm⟩,
      ⟨b, hb⟩, ⟨v, hv⟩, ⟨p, hp, hpo⟩, ⟨c, hco, hcoo⟩, ⟨f, hf, hfo⟩⟩ := h
    exact ⟨cfg, hc, (), hcs, n, hn, (), hns, s, hs, (), h₁, (), h₂, (), h₃, (), hss, (), ha, b,
      hb, v, hv, p, hp, (), hpo, c, hco, (), hcoo, f, hf, (), hfo, (), hm, rfl, rfl, rfl⟩

theorem SettleSpl.load_ok {rt : Runtime} {l : Ledger} {a : SettleSpl rt} {cfg : Config} {n : Node}
    {s : Session} : a.load rt l = .ok (cfg, n, s) ↔
      PartiesLoaded rt l a.config a.node a.session a.provider a.consumer a.asset
        a.mplCoreProgram cfg n s ∧ TokensLoaded rt l a.toPayoutSpl cfg ∧
      a.instructionsSysvar = ixSysvarId := by
  simp only [SettleSpl.load, bind_ok, require_ok, pure_ok]
  constructor
  · intro h
    obtain ⟨_, h, _, hi, rfl⟩ := h
    obtain ⟨hp, ht⟩ := PayoutSpl.load_ok.mp h
    exact ⟨hp, ht, hi⟩
  · intro h
    obtain ⟨hp, ht, hi⟩ := h
    exact ⟨_, PayoutSpl.load_ok.mpr ⟨hp, ht⟩, (), hi, rfl⟩

/-- The checks that the remaining session instructions make alike. -/
structure SessionLoaded (rt : Runtime) (l : Ledger) (config session : Pubkey) (cfg : Config)
    (s : Session) : Prop where
  configData : (l config).data = .config cfg
  configSeeds : rt.createProgramAddress .config cfg.bump = some config
  sessionData : (l session).data = .session s
  sessionSeeds : rt.createProgramAddress (.session s.node s.consumer s.sessionSeed) s.bump =
    some session

theorem PartiesLoaded.configAt {rt : Runtime} {l : Ledger}
    {config node session provider consumer asset mplCoreProgram : Pubkey} {cfg : Config}
    {n : Node} {s : Session} (h : PartiesLoaded rt l config node session provider consumer asset
      mplCoreProgram cfg n s) : ConfigAt rt l cfg :=
  ⟨config, h.configData, h.configSeeds⟩

theorem SessionLoaded.configAt {rt : Runtime} {l : Ledger} {config session : Pubkey}
    {cfg : Config} {s : Session} (h : SessionLoaded rt l config session cfg s) :
    ConfigAt rt l cfg :=
  ⟨config, h.configData, h.configSeeds⟩

theorem UnilateralClose.load_ok {rt : Runtime} {l : Ledger} {a : UnilateralClose rt}
    {cfg : Config} {s : Session} : a.load rt l = .ok (cfg, s) ↔
      SessionLoaded rt l a.config a.session cfg s ∧ s.provider = a.provider ∧
      s.consumer = a.consumer ∧ a.instructionsSysvar = ixSysvarId := by
  simp only [UnilateralClose.load, bind_ok, loadConfig_ok, loadSession_ok, checkSeeds_ok,
    require_ok, pure_ok, Prod.mk.injEq]
  constructor
  · intro h
    obtain ⟨cfg, hc, _, hcs, s, hs, _, h₁, _, h₂, _, hss, _, hi, rfl, rfl⟩ := h
    exact ⟨⟨hc, hcs, hs, hss⟩, h₁, h₂, hi⟩
  · intro h
    obtain ⟨⟨hc, hcs, hs, hss⟩, h₁, h₂, hi⟩ := h
    exact ⟨cfg, hc, (), hcs, s, hs, (), h₁, (), h₂, (), hss, (), hi, rfl, rfl⟩

theorem CancelSession.load_ok {rt : Runtime} {l : Ledger} {a : CancelSession rt} {s : Session} :
    a.load rt l = .ok s ↔
      (∃ cfg, SessionLoaded rt l a.config a.session cfg s) ∧ s.consumer = a.consumer.key := by
  simp only [CancelSession.load, bind_ok, loadConfig_ok, loadSession_ok, checkSeeds_ok,
    require_ok, pure_ok]
  constructor
  · intro h
    obtain ⟨cfg, hc, _, hcs, s, hs, _, h₁, _, hss, rfl⟩ := h
    exact ⟨⟨cfg, hc, hcs, hs, hss⟩, h₁⟩
  · intro h
    obtain ⟨⟨cfg, hc, hcs, hs, hss⟩, h₁⟩ := h
    exact ⟨cfg, hc, (), hcs, s, hs, (), h₁, (), hss, rfl⟩

theorem ExpireSession.load_ok {rt : Runtime} {l : Ledger} {a : ExpireSession rt} {s : Session} :
    a.load rt l = .ok s ↔
      (∃ cfg, SessionLoaded rt l a.config a.session cfg s) ∧ s.consumer = a.consumer := by
  simp only [ExpireSession.load, bind_ok, loadConfig_ok, loadSession_ok, checkSeeds_ok,
    require_ok, pure_ok]
  constructor
  · intro h
    obtain ⟨cfg, hc, _, hcs, s, hs, _, h₁, _, hss, rfl⟩ := h
    exact ⟨⟨cfg, hc, hcs, hs, hss⟩, h₁⟩
  · intro h
    obtain ⟨⟨cfg, hc, hcs, hs, hss⟩, h₁⟩ := h
    exact ⟨cfg, hc, (), hcs, s, hs, (), h₁, (), hss, rfl⟩

theorem LifecycleSpl.load_ok {rt : Runtime} {l : Ledger} {a : LifecycleSpl rt} {s : Session} :
    a.load rt l = .ok s ↔
      (∃ cfg, SessionLoaded rt l a.config a.session cfg s) ∧ s.consumer = a.consumer ∧
      (∃ b, rt.find (.vault a.session) = some (a.vaultAuthority, b)) ∧
      (∃ t, (l a.vaultToken).data = .token t) ∧
      ∃ t, (l a.consumerToken).data = .token t ∧ t.owner = a.consumer := by
  simp only [LifecycleSpl.load, bind_ok, loadConfig_ok, loadSession_ok, checkSeeds_ok,
    findSeeds_ok, loadToken_ok, require_ok, pure_ok]
  constructor
  · intro h
    obtain ⟨cfg, hc, _, hcs, s, hs, _, h₁, _, hss, b, hb, v, hv, t, ht, _, hto, rfl⟩ := h
    exact ⟨⟨cfg, hc, hcs, hs, hss⟩, h₁, ⟨b, hb⟩, ⟨v, hv⟩, t, ht, hto⟩
  · intro h
    obtain ⟨⟨cfg, hc, hcs, hs, hss⟩, h₁, ⟨b, hb⟩, ⟨v, hv⟩, t, ht, hto⟩ := h
    exact ⟨cfg, hc, (), hcs, s, hs, (), h₁, (), hss, b, hb, v, hv, t, ht, (), hto, rfl⟩

end SolMesh
