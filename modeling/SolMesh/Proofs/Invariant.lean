import SolMesh.Proofs.Frame

namespace SolMesh
open Outcome Runs

structure RegistryOk (rt : Runtime) (l : Ledger) : Prop where
  config : ∀ x c, (l x).data = .config c → ConfigOk rt x c ∧ 0 < (l x).lamports.toNat
  node : ∀ x n, (l x).data = .node n → NodeOk rt x n ∧ 0 < (l x).lamports.toNat

/-- What still backs a session that is not over: its account stays rent exempt,
and the asset it was opened with covers what is left to pay. -/
structure Escrowed (rt : Runtime) (l : Ledger) (k : Pubkey) (s : Session) : Prop where
  rent : (rt.minimumBalance Session.space).toNat ≤ (l k).lamports.toNat
  lamports : s.mint = none →
    (rt.minimumBalance Session.space).toNat + s.unsettled ≤ (l k).lamports.toNat
  authority : ∀ m, s.mint = some m →
    rt.find (.vault k) = some (rt.vaultAuthority k, s.vaultBump)
  vault : ∀ m, s.mint = some m → 0 < (l (rt.vaultAta k m)).lamports.toNat ∧
    ∃ t, (l (rt.vaultAta k m)).data = .token t ∧ t.mint = m ∧
      t.owner = rt.vaultAuthority k ∧ s.unsettled ≤ t.amount.toNat

structure SessionOk (rt : Runtime) (l : Ledger) (k : Pubkey) (s : Session) : Prop where
  address : rt.find (.session s.node s.consumer s.sessionSeed) = some (k, s.bump)
  node : ∃ n, (l s.node).data = .node n ∧ n.asset = s.asset ∧ n.provider = s.provider
  config : ∃ x c, (l x).data = .config c
  consumer : ¬ rt.IsPda s.consumer
  deposit : 0 < s.deposited.toNat
  settled : s.settledToProvider.toNat ≤ s.deposited.toNat
  pending : s.status = .closing → s.settledToProvider.toNat ≤ s.pendingPayout.toNat ∧
    s.pendingPayout.toNat ≤ s.deposited.toNat
  escrow : s.status.terminal = false → Escrowed rt l k s

/-- What holds between any two steps, whoever takes them. -/
structure Inv (rt : Runtime) (l : Ledger) : Prop extends RegistryOk rt l where
  session : ∀ k s, (l k).data = .session s → SessionOk rt l k s

theorem Inv.provider {rt : Runtime} {l : Ledger} {k : Pubkey} {s : Session} (h : Inv rt l)
    (hs : (l k).data = .session s) : ¬ rt.IsPda s.provider := by
  obtain ⟨n, hn, _, hp⟩ := (h.session k s hs).node
  exact hp ▸ (h.node _ n hn).1.provider

/-- No party to a session, nor the fee vault, is one of the program's own
addresses. -/
theorem Inv.payee_ne {rt : Runtime} {l : Ledger} {k x feeVault : Pubkey} {s : Session}
    (h : Inv rt l) (hs : (l k).data = .session s) (hx : rt.IsPda x) (hne : x ≠ feeVault)
    (r : Role) : s.payee feeVault r ≠ x := by
  intro he
  subst he
  cases r with
  | provider => exact h.provider hs hx
  | consumer => exact (h.session k s hs).consumer hx
  | fee => exact hne rfl

theorem Genesis.no_session {l : Ledger} (h : Genesis l) {k : Pubkey} {s : Session} :
    (l k).data ≠ .session s := by
  intro hs
  have := h k
  simp [hs, AccountData.ownedByProgram] at this

theorem genesis_inv {rt : Runtime} {l : Ledger} (h : Genesis l) : Inv rt l := by
  have none : ∀ x, (l x).data.ownedByProgram = true → False := fun x hx => by simp [h x] at hx
  refine ⟨⟨fun x c hc => (none x ?_).elim, fun x n hn => (none x ?_).elim⟩,
    fun k s hs => absurd hs h.no_session⟩
  · simp [hc, AccountData.ownedByProgram]
  · simp [hn, AccountData.ownedByProgram]

namespace Frame

variable {rt : Runtime} {busy : Option Pubkey} {l l' : Ledger}

/-- A session record that the step was not about was there before. -/
theorem session_back (h : Frame rt busy l l') {x : Pubkey} {s : Session} (hb : busy ≠ some x)
    (hs : (l' x).data = .session s) :
    (l x).data = .session s ∧ (l x).lamports.toNat ≤ (l' x).lamports.toNat := by
  cases hd : (l x).data with
  | session s₀ =>
    rcases h.session x s₀ hd with hg | ⟨s', hs', he⟩
    · simp [hg.2] at hs
    · obtain ⟨rfl, hl⟩ := he hb
      obtain rfl : s' = s := by simpa [hs'] using hs
      exact ⟨rfl, hl⟩
  | config c =>
    rcases h.config x c hd with hg | ⟨c', hc', _⟩
    · simp [hg.2] at hs
    · simp [hc'] at hs
  | node n =>
    rcases h.node x n hd with hg | ⟨n', hn', _⟩
    · simp [hg.2] at hs
    · simp [hn'] at hs
  | system | token | mint | core | burned | foreign =>
    have hnew := h.born x (by simp [hd, AccountData.ownedByProgram])
    simp only [NewOk, hs] at hnew
    exact absurd hnew hb

theorem config_back (h : Frame rt busy l l') {x : Pubkey} {c : Config}
    (hc : (l' x).data = .config c) : (∃ c₀, (l x).data = .config c₀ ∧
      (ConfigOk rt x c₀ → ConfigOk rt x c) ∧ (l x).lamports.toNat ≤ (l' x).lamports.toNat) ∨
      (ConfigOk rt x c ∧ 0 < (l' x).lamports.toNat) := by
  cases hd : (l x).data with
  | config c₀ =>
    rcases h.config x c₀ hd with hg | ⟨c', hc', he⟩
    · simp [hg.2] at hc
    · obtain rfl : c' = c := by simpa [hc'] using hc
      exact .inl ⟨c₀, rfl, he⟩
  | session s₀ =>
    rcases h.session x s₀ hd with hg | ⟨s', hs', _⟩
    · simp [hg.2] at hc
    · simp [hs'] at hc
  | node n =>
    rcases h.node x n hd with hg | ⟨n', hn', _⟩
    · simp [hg.2] at hc
    · simp [hn'] at hc
  | system | token | mint | core | burned | foreign =>
    have hnew := h.born x (by simp [hd, AccountData.ownedByProgram])
    simp only [NewOk, hc] at hnew
    exact .inr hnew

theorem node_back (h : Frame rt busy l l') {x : Pubkey} {n : Node}
    (hn : (l' x).data = .node n) : (∃ n₀, (l x).data = .node n₀ ∧ n₀.SameIdentity n ∧
      (l x).lamports.toNat ≤ (l' x).lamports.toNat) ∨
      (NodeOk rt x n ∧ 0 < (l' x).lamports.toNat) := by
  cases hd : (l x).data with
  | node n₀ =>
    rcases h.node x n₀ hd with hg | ⟨n', hn', he⟩
    · simp [hg.2] at hn
    · obtain rfl : n' = n := by simpa [hn'] using hn
      exact .inl ⟨n₀, rfl, he⟩
  | session s₀ =>
    rcases h.session x s₀ hd with hg | ⟨s', hs', _⟩
    · simp [hg.2] at hn
    · simp [hs'] at hn
  | config c =>
    rcases h.config x c hd with hg | ⟨c', hc', _⟩
    · simp [hg.2] at hn
    · simp [hc'] at hn
  | system | token | mint | core | burned | foreign =>
    have hnew := h.born x (by simp [hd, AccountData.ownedByProgram])
    simp only [NewOk, hn] at hnew
    exact .inr hnew

theorem registry (h : Frame rt busy l l') (hr : RegistryOk rt l) : RegistryOk rt l' := by
  refine ⟨fun x c hc => ?_, fun x n hn => ?_⟩
  · rcases h.config_back hc with ⟨c₀, hc₀, hok, hl⟩ | hnew
    · obtain ⟨hc₁, hpos⟩ := hr.config x c₀ hc₀
      exact ⟨hok hc₁, by omega⟩
    · exact hnew
  · rcases h.node_back hn with ⟨n₀, hn₀, hi, hl⟩ | hnew
    · obtain ⟨hn₁, hpos⟩ := hr.node x n₀ hn₀
      exact ⟨hn₁.of_identity hi, by omega⟩
    · exact hnew

theorem config_stays (h : Frame rt busy l l') (hr : RegistryOk rt l) {x : Pubkey} {c : Config}
    (hc : (l x).data = .config c) : ∃ c', (l' x).data = .config c' := by
  rcases h.config x c hc with hg | ⟨c', hc', _⟩
  · have := (hr.config x c hc).2
    have := hg.1
    omega
  · exact ⟨c', hc'⟩

theorem node_stays (h : Frame rt busy l l') (hr : RegistryOk rt l) {x : Pubkey} {n : Node}
    (hn : (l x).data = .node n) : ∃ n', (l' x).data = .node n' ∧ n.SameIdentity n' := by
  rcases h.node x n hn with hg | ⟨n', hn', hi, _⟩
  · have := (hr.node x n hn).2
    have := hg.1
    omega
  · exact ⟨n', hn', hi⟩

/-- The parts of a session's surroundings that no step takes away. -/
theorem session_parties (h : Frame rt busy l l') (hr : RegistryOk rt l) {s : Session}
    (hn : ∃ n, (l s.node).data = .node n ∧ n.asset = s.asset ∧ n.provider = s.provider)
    (hc : ∃ x c, (l x).data = .config c) :
    (∃ n, (l' s.node).data = .node n ∧ n.asset = s.asset ∧ n.provider = s.provider) ∧
      ∃ x c, (l' x).data = .config c := by
  obtain ⟨n, hn, ha, hp⟩ := hn
  obtain ⟨n', hn', hi⟩ := h.node_stays hr hn
  obtain ⟨x, c, hc⟩ := hc
  obtain ⟨c', hc'⟩ := h.config_stays hr hc
  exact ⟨⟨n', hn', hi.asset.trans ha, hi.provider.trans hp⟩, x, c', hc'⟩

/-- A step about another session leaves the escrow at least as it was. -/
theorem escrowed (h : Frame rt busy l l') (hi : Inv rt l) {k : Pubkey} {s : Session}
    (hb : busy ≠ some k) (hs : (l k).data = .session s)
    (hlam : (l k).lamports.toNat ≤ (l' k).lamports.toNat) (he : Escrowed rt l k s) :
    Escrowed rt l' k s := by
  refine ⟨Nat.le_trans he.rent hlam, fun hm => Nat.le_trans (he.lamports hm) hlam, he.authority,
    fun m hm => ?_⟩
  obtain ⟨hpos, t, ht, htm, hto, hta⟩ := he.vault m hm
  have hauth := he.authority m hm
  have hpda : rt.IsPda t.owner := hto ▸ Runtime.isPda_of_find hauth
  rcases h.token _ t ht hpda with hg | ⟨t', ht', htm', hto', hl, ha⟩
  · have := hg.1
    omega
  -- vault authorities of different sessions differ
  have hkeep := ha fun k' s' b hb' hs' hv => by
    rw [hto] at hv
    have := rt.vault_inj (hi.session k s hs).address (hi.session k' s' hs').address hauth hv
    exact hb (this ▸ hb')
  exact ⟨by omega, t', ht', htm'.trans htm, hto'.trans hto, by omega⟩

theorem session_ok (h : Frame rt busy l l') (hi : Inv rt l) {k : Pubkey} {s : Session}
    (hb : busy ≠ some k) (hs' : (l' k).data = .session s) : SessionOk rt l' k s := by
  obtain ⟨hs, hlam⟩ := h.session_back hb hs'
  have hok := hi.session k s hs
  obtain ⟨hn, hc⟩ := h.session_parties hi.toRegistryOk hok.node hok.config
  exact ⟨hok.address, hn, hc, hok.consumer, hok.deposit, hok.settled, hok.pending,
    fun ht => h.escrowed hi hb hs hlam (hok.escrow ht)⟩

end Frame

theorem OpenedSol.session_ok {rt : Runtime} {l l' : Ledger} {k : Pubkey} {s : Session}
    (h : OpenedSol rt l l' k s) (hi : Inv rt l) : SessionOk rt l' k s := by
  obtain ⟨n, hn, ha, hp⟩ := h.node
  obtain ⟨cfg, x, hc, _⟩ := h.config
  obtain ⟨hn', hc'⟩ := h.frame.session_parties hi.toRegistryOk ⟨n, hn, ha.symm, hp.symm⟩
    ⟨x, cfg, hc⟩
  have hfund := h.funded
  refine ⟨h.address, hn', hc', h.consumer, h.deposit, by simp [h.settled], by simp [h.status],
    fun _ => ⟨by omega, fun _ => ?_, by simp [h.mint], by simp [h.mint]⟩⟩
  have hu : s.unsettled = s.deposited.toNat := by simp [Session.unsettled, h.settled]
  omega

theorem OpenedSpl.session_ok {rt : Runtime} {l l' : Ledger} {k m : Pubkey} {s : Session}
    (h : OpenedSpl rt l l' k m s) (hi : Inv rt l) : SessionOk rt l' k s := by
  obtain ⟨n, hn, ha, hp⟩ := h.node
  obtain ⟨cfg, x, hc, _⟩ := h.config
  obtain ⟨hn', hc'⟩ := h.frame.session_parties hi.toRegistryOk ⟨n, hn, ha.symm, hp.symm⟩
    ⟨x, cfg, hc⟩
  have hfund := h.funded
  refine ⟨h.address, hn', hc', h.consumer, h.deposit, by simp [h.settled], by simp [h.status],
    fun _ => ⟨by omega, by simp [h.mint], fun _ _ => h.authority, fun m' hm' => ?_⟩⟩
  obtain rfl : m = m' := by simpa [h.mint] using hm'
  exact ⟨h.vaultFunded, _, h.vault, rfl, rfl, by simp [Session.unsettled, h.settled]⟩

/-- The escrow of a session that stays alive covers what is left after the
payouts of one of its own instructions. -/
theorem SessionCall.escrowed {rt : Runtime} {ctx : TxContext} {c : Call rt} {l l' : Ledger}
    {ts : List Transfer} {k : Pubkey} {s s' : Session} {mv : SessionMove}
    (h : SessionCall rt ctx c l l' ts k s s' mv) (he : Escrowed rt l k s)
    (hle : s.settledToProvider ≤ s.deposited) (ht : s'.status.terminal = false) :
    Escrowed rt l' k s' := by
  have terms := h.step.terms
  have hflow := (h.step.outflow hle).2.1 ht
  have hpaid := h.paid
  have hrefund := h.refunded
  cases hv : c.vaultToken? with
  | none =>
    obtain ⟨hmint, hp⟩ := h.inLamports hv
    have hbal := hp.lamports k
    rw [debit_source fun t ht => (hp.source t ht).2] at hbal
    rcases hmint with hm | ⟨_, hts⟩ | ⟨_, hterm⟩
    · have hl := he.lamports hm
      refine ⟨by omega, fun _ => by omega, fun m hm' => ?_, fun m hm' => ?_⟩ <;>
        simp [terms.mint, hm] at hm'
    · subst hts
      simp only [earnings_nil, received_nil, credit_nil, Nat.add_zero] at hbal hpaid hrefund
      refine ⟨by have := he.rent; omega, fun hm => ?_, fun m hm => ?_, fun m hm => ?_⟩
      · have := he.lamports (terms.mint ▸ hm)
        omega
      · rw [terms.vaultBump]
        exact he.authority m (terms.mint ▸ hm)
      · obtain ⟨hpos, t, hl, htm, hto, hta⟩ := he.vault m (terms.mint ▸ hm)
        have hne : rt.vaultAta k m ≠ k := ne_of_data hl h.recorded.before (by simp)
        have := hp.others hne
        exact ⟨by omega, t, hp.tokens _ t hl, htm, hto, by omega⟩
    · simp [ht] at hterm
  | some v =>
    obtain ⟨hmint, hp⟩ := h.inTokens v hv
    refine ⟨?_, fun hm => absurd (terms.mint ▸ hm) hmint, fun m hm => ?_, fun m hm => ?_⟩
    · rw [hp.lamports]
      exact he.rent
    · rw [terms.vaultBump]
      exact he.authority m (terms.mint ▸ hm)
    · obtain ⟨hpos, t, hl, htm, hto, hta⟩ := he.vault m (terms.mint ▸ hm)
      obtain ⟨t', ht', htm', hto', hbal⟩ := hp.tokens _ t hl
      have hdebit := debit_le (rt.vaultAta k m) ts
      exact ⟨by rw [hp.lamports]; exact hpos, t', ht', htm'.trans htm, hto'.trans hto, by omega⟩

/-- The amounts on record stay in order. -/
theorem Session.Step.amounts {rt : Runtime} {k : Pubkey} {s s' : Session} {mv : SessionMove}
    (h : Session.Step rt k s mv s') (hle : s.settledToProvider.toNat ≤ s.deposited.toNat)
    (hp : s.status = .closing → s.settledToProvider.toNat ≤ s.pendingPayout.toNat ∧
      s.pendingPayout.toNat ≤ s.deposited.toNat) :
    s'.settledToProvider.toNat ≤ s'.deposited.toNat ∧
      (s'.status = .closing → s'.settledToProvider.toNat ≤ s'.pendingPayout.toNat ∧
        s'.pendingPayout.toNat ≤ s'.deposited.toNat) := by
  cases h with
  | checkpoint status accepts paid =>
    exact ⟨accepts.covered, fun hc => by simp [Session.settle, status] at hc⟩
  | settle status accepts paid rest => exact ⟨accepts.covered, fun hc => by cases hc⟩
  | initiate deadline status accepts => exact ⟨hle, fun _ => ⟨accepts.keeps, accepts.covered⟩⟩
  | challenge now status early accepts =>
    exact ⟨hle, fun _ => ⟨accepts.keeps, accepts.covered⟩⟩
  | finalize now status late paid rest => exact ⟨(hp status).2, fun hc => by cases hc⟩
  | cancel status unused rest => exact ⟨hle, fun hc => by cases hc⟩
  | expire now status late rest => exact ⟨hle, fun hc => by cases hc⟩

theorem SessionCall.session_ok {rt : Runtime} {ctx : TxContext} {c : Call rt} {l l' : Ledger}
    {ts : List Transfer} {k : Pubkey} {s s' : Session} {mv : SessionMove}
    (h : SessionCall rt ctx c l l' ts k s s' mv) (hi : Inv rt l) : SessionOk rt l' k s' := by
  have hok := hi.session k s h.recorded.before
  have terms := h.step.terms
  obtain ⟨hn, hc⟩ := h.frame.session_parties hi.toRegistryOk hok.node hok.config
  obtain ⟨hsettled, hpending⟩ := h.step.amounts hok.settled hok.pending
  refine ⟨?_, ?_, hc, ?_, ?_, hsettled, hpending, fun ht => h.escrowed (hok.escrow h.step.active)
    (UInt64.le_iff_toNat_le.mpr hok.settled) ht⟩
  · rw [terms.node, terms.consumer, terms.sessionSeed, terms.bump]
    exact hok.address
  · rw [terms.node, terms.asset, terms.provider]
    exact hn
  · rw [terms.consumer]
    exact hok.consumer
  · rw [terms.deposited]
    exact hok.deposit

/-- What a call that names a session did: it opened the session, in either
asset, or it was an instruction on an open record. -/
theorem Call.on_session {rt : Runtime} {ctx : TxContext} {c : Call rt} {l l' : Ledger}
    {ts : List Transfer} {k : Pubkey} (hp : ctx.precompiled rt = true)
    (h : c.exec ctx l = .ok (l', ts)) (hk : c.session? = some k) :
    (c.opens = true ∧ ts = [] ∧ ∃ s, OpenedSol rt l l' k s ∨ ∃ m, OpenedSpl rt l l' k m s) ∨
      (c.opens = false ∧ ∃ s s' mv, SessionCall rt ctx c l l' ts k s s' mv) := by
  cases ho : c.opens with
  | false => exact .inr ⟨rfl, Call.session_call hp h hk ho⟩
  | true =>
    refine .inl ⟨rfl, ?_⟩
    cases c with
    | openSession a seed n d r =>
      obtain ⟨s, hs, hts⟩ := openSessionHandler_effect h
      cases hk
      exact ⟨hts, s, .inl hs⟩
    | openSessionSpl a seed n d r =>
      obtain ⟨s, m, hs, hts⟩ := openSessionSplHandler_effect h
      cases hk
      exact ⟨hts, s, .inr ⟨m, hs⟩⟩
    | _ => simp [Call.opens] at ho

theorem Step.inv {rt : Runtime} {l l' : Ledger} {label : Label rt} (hi : Inv rt l)
    (h : Step rt l label l') : Inv rt l' := by
  have hf := h.frame
  refine ⟨hf.registry hi.toRegistryOk, fun k s hs => ?_⟩
  by_cases hb : label.busy = some k
  · cases h with
    | external | commit => simp [Label.busy] at hb
    | call hp ok =>
      rcases Call.on_session hp ok hb with ⟨_, _, s₁, ho | ⟨m, ho⟩⟩ | ⟨_, s₀, s₁, mv, hc⟩
      · obtain rfl : s₁ = s := by simpa [ho.after] using hs
        exact ho.session_ok hi
      · obtain rfl : s₁ = s := by simpa [ho.after] using hs
        exact ho.session_ok hi
      · obtain rfl : s₁ = s := by simpa [hc.recorded.after] using hs
        exact hc.session_ok hi
  · exact hf.session_ok hi hb hs

/-- The invariant holds after every run from the program's deployment. -/
theorem run_inv {rt : Runtime} {start l : Ledger} {tr : History rt} (genesis : Genesis start)
    (run : Run (Step rt) start tr l) : Inv rt l :=
  run.invariant (genesis_inv genesis) Step.inv

/-- Nothing that happens elsewhere touches the record of a session that is not
over. -/
theorem Step.session_stays {rt : Runtime} {l l' : Ledger} {label : Label rt} (hi : Inv rt l)
    (h : Step rt l label l') {k : Pubkey} {s : Session} (hb : label.busy ≠ some k)
    (hs : (l k).data = .session s) (ht : s.status.terminal = false) :
    (l' k).data = .session s := by
  have hrent := ((hi.session k s hs).escrow ht).rent
  have hmin := rt.minimumBalance_pos Session.space
  rcases h.frame.session k s hs with hg | ⟨s', hs', he⟩
  · have := hg.1
    omega
  · rw [hs', (he hb).1]

end SolMesh
