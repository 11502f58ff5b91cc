import SolMesh.Proofs.Progress
import SolMesh.Proofs.Replay

namespace SolMesh
open Outcome Runs

/-- The moves of a session's status. A checkpoint is none of them. -/
inductive StatusEdge : SessionStatus → SessionStatus → Prop
  | settle : StatusEdge .open .settled
  | initiate : StatusEdge .open .closing
  | cancel : StatusEdge .open .cancelled
  | expire : StatusEdge .open .expired
  | challenge : StatusEdge .closing .closing
  | finalize : StatusEdge .closing .settled

/-- The instructions that are left once a session is in dispute. -/
def Call.disputes {rt : Runtime} : Call rt → Bool
  | .challenge .. | .finalizeClose .. | .finalizeCloseSpl .. => true
  | _ => false

/-- An instruction on an existing session takes it either open or closing. -/
theorem Call.loads_of_ok {rt : Runtime} {ctx : TxContext} {c : Call rt} {l : Ledger} {r : Effect}
    {k : Pubkey} (h : c.exec ctx l = .ok r) (hk : c.session? = some k) (hc : c.opens = false) :
    ∃ s, (l k).data = .session s ∧ s.status = if c.disputes then .closing else .open := by
  obtain ⟨l', ts⟩ := r
  cases c with
  | initializeConfig | registerNode | updateConfig | setPaused | withdrawFees
  | updateNodeMeta => simp [Call.session?] at hk
  | openSession | openSessionSpl => simp [Call.opens] at hc
  | checkpointSettle a u | settleSession a u =>
    obtain ⟨_, _, s, _, _, _, _, _, _, hload, hstatus, _⟩ := applyState_ok.mp h
    cases hk
    exact ⟨s, (Settle.load_ok.mp hload).1.sessionData, hstatus⟩
  | checkpointSettleSpl a u | settleSessionSpl a u =>
    obtain ⟨_, _, s, _, _, _, _, _, _, hload, hstatus, _⟩ := applyStateSpl_ok.mp h
    cases hk
    exact ⟨s, (SettleSpl.load_ok.mp hload).1.sessionData, hstatus⟩
  | initiateUnilateralClose a u =>
    obtain ⟨_, s, _, hload, _, hstatus, _⟩ := initiateHandler_ok.mp h
    cases hk
    exact ⟨s, (UnilateralClose.load_ok.mp hload).1.sessionData, hstatus⟩
  | challenge a u =>
    obtain ⟨_, s, hload, hstatus, _⟩ := challengeHandler_ok.mp h
    cases hk
    exact ⟨s, (UnilateralClose.load_ok.mp hload).1.sessionData, hstatus⟩
  | finalizeClose a =>
    obtain ⟨_, _, s, _, _, _, _, _, _, hload, hstatus, _⟩ := finalizeHandler_ok.mp h
    cases hk
    exact ⟨s, (FinalizeClose.load_ok.mp hload).1.sessionData, hstatus⟩
  | finalizeCloseSpl a =>
    obtain ⟨_, _, s, _, _, _, _, _, _, hload, hstatus, _⟩ := finalizeCloseSplHandler_ok.mp h
    cases hk
    exact ⟨s, (PayoutSpl.load_ok.mp hload).1.sessionData, hstatus⟩
  | cancelSession a =>
    obtain ⟨s, hload, hstatus, _⟩ := cancelHandler_ok.mp h
    cases hk
    obtain ⟨⟨_, hl⟩, _⟩ := CancelSession.load_ok.mp hload
    exact ⟨s, hl.sessionData, hstatus⟩
  | expireSession a =>
    obtain ⟨s, hload, hstatus, _⟩ := expireHandler_ok.mp h
    cases hk
    obtain ⟨⟨_, hl⟩, _⟩ := ExpireSession.load_ok.mp hload
    exact ⟨s, hl.sessionData, hstatus⟩
  | cancelSessionSpl a =>
    obtain ⟨s, hload, hstatus, _⟩ := cancelSessionSplHandler_ok.mp h
    cases hk
    obtain ⟨⟨_, hl⟩, _⟩ := LifecycleSpl.load_ok.mp hload
    exact ⟨s, hl.sessionData, hstatus⟩
  | expireSessionSpl a =>
    obtain ⟨s, hload, hstatus, _⟩ := expireSessionSplHandler_ok.mp h
    cases hk
    obtain ⟨⟨_, hl⟩, _⟩ := LifecycleSpl.load_ok.mp hload
    exact ⟨s, hl.sessionData, hstatus⟩

/-- A session opens at an address that holds no data. -/
theorem Call.opens_fresh {rt : Runtime} {ctx : TxContext} {c : Call rt} {l : Ledger} {r : Effect}
    {k : Pubkey} (h : c.exec ctx l = .ok r) (hk : c.session? = some k) (hc : c.opens = true) :
    (l k).data = .system := by
  obtain ⟨l', ts⟩ := r
  cases c with
  | openSession a seed n d rate =>
    obtain ⟨s, ho, _⟩ := openSessionHandler_effect h
    cases hk
    exact ho.fresh
  | openSessionSpl a seed n d rate =>
    obtain ⟨s, m, ho, _⟩ := openSessionSplHandler_effect h
    cases hk
    exact ho.fresh
  | _ => simp [Call.opens] at hc

theorem Call.status_of_ok {rt : Runtime} {ctx : TxContext} {c : Call rt} {l : Ledger} {r : Effect}
    {k : Pubkey} {s : Session} (h : c.exec ctx l = .ok r) (hk : c.session? = some k)
    (hs : (l k).data = .session s) :
    c.opens = false ∧ s.status = if c.disputes then .closing else .open := by
  cases hc : c.opens with
  | false =>
    obtain ⟨s', hs', hstatus⟩ := c.loads_of_ok h hk hc
    obtain rfl : s' = s := by simpa [hs] using hs'.symm
    exact ⟨rfl, hstatus⟩
  | true =>
    have hfresh := c.opens_fresh h hk hc
    simp [hs] at hfresh

/-- No instruction that names a session succeeds once it is over. -/
theorem Call.fails_of_terminal {rt : Runtime} {ctx : TxContext} {c : Call rt} {l : Ledger}
    {r : Effect} {k : Pubkey} {s : Session} (hk : c.session? = some k)
    (hs : (l k).data = .session s) (ht : s.status.terminal = true) : c.exec ctx l ≠ .ok r := by
  intro h
  obtain ⟨_, hstatus⟩ := Call.status_of_ok h hk hs
  rw [hstatus] at ht
  split at ht <;> simp [SessionStatus.terminal] at ht

theorem Call.disputes_of_closing {rt : Runtime} {ctx : TxContext} {c : Call rt} {l : Ledger}
    {r : Effect} {k : Pubkey} {s : Session} (h : c.exec ctx l = .ok r) (hk : c.session? = some k)
    (hs : (l k).data = .session s) (hc : s.status = .closing) : c.disputes = true := by
  obtain ⟨_, hstatus⟩ := Call.status_of_ok h hk hs
  rw [hc] at hstatus
  by_contra hd
  simp [hd] at hstatus

/-- How a record may follow another within the life of a session. -/
structure Session.Advances (s s' : Session) : Prop where
  status : s'.status = s.status ∨ StatusEdge s.status s'.status
  terms : s.SameTerms s'
  settled : s.settledToProvider ≤ s'.settledToProvider

theorem Session.SameTerms.refl (s : Session) : s.SameTerms s := by
  constructor <;> rfl

theorem Session.Advances.refl (s : Session) : s.Advances s :=
  ⟨.inl rfl, .refl s, UInt64.le_refl _⟩

theorem Session.Step.advances {rt : Runtime} {k : Pubkey} {s s' : Session} {mv : SessionMove}
    (h : Session.Step rt k s mv s') : s.Advances s' := by
  have grows := h.settled_grows
  refine ⟨?_, h.terms, UInt64.le_iff_toNat_le.mpr (by omega)⟩
  cases h with
  | checkpoint => exact .inl rfl
  | settle status => exact .inr (status ▸ .settle)
  | initiate deadline status => exact .inr (status ▸ .initiate)
  | challenge now status => exact .inl rfl
  | finalize now status => exact .inr (status ▸ .finalize)
  | cancel status => exact .inr (status ▸ .cancel)
  | expire now status => exact .inr (status ▸ .expire)

/-- What an event in the life of session `k` does to it. -/
structure LifeEvent (rt : Runtime) (k : Pubkey) (x : Event rt) (s s' : Session) : Prop where
  before : (x.before k).data = .session s
  after : (x.after k).data = .session s'
  advances : s.Advances s'
  taken : ∀ u, Event.update k x = some u → s.lastNonce < u.nonce ∧ s'.lastNonce = u.nonce
  idle : Event.update k x = none → s'.lastNonce = s.lastNonce
  absorbed : s.status.terminal = true → x.label.busy ≠ some k ∧ s' = s ∧
    (x.before k).lamports ≤ (x.after k).lamports ∧
    ∀ m, s.mint = some m → x.before.tokens (rt.vaultAta k m) ≤ x.after.tokens (rt.vaultAta k m)
  closing : s.status = .closing → ∀ ctx c ts, x.label = .call ctx c ts →
    c.session? = some k → c.disputes = true

theorem Session.Step.nonce_idle {rt : Runtime} {k : Pubkey} {s s' : Session} {mv : SessionMove}
    (h : Session.Step rt k s mv s') (hm : mv.message? = none) : s'.lastNonce = s.lastNonce := by
  cases h with
  | checkpoint | settle | initiate | challenge => cases hm
  | finalize | cancel | expire => rfl

/-- The life of a session so far: it was opened under its present terms, and
every event since has kept the rules. -/
structure Lived (rt : Runtime) (k : Pubkey) (tr : History rt) (s : Session) : Prop where
  opening : ∃ x s₀, latest (Event.opens k) tr = some x ∧ (x.after k).data = .session s₀ ∧
    s₀.status = .open ∧ s₀.settledToProvider = 0 ∧ s₀.lastNonce = 0 ∧ s₀.SameTerms s
  events : ∀ x ∈ life k tr, ∃ s₁ s₂, LifeEvent rt k x s₁ s₂ ∧ s₂.SameTerms s

theorem Lived.snoc {rt : Runtime} {k : Pubkey} {tr : History rt} {x : Event rt} {s s' : Session}
    (h : Lived rt k tr s) (ho : x.opens k = false) (hx : LifeEvent rt k x s s') :
    Lived rt k (tr ++ [x]) s' := by
  have terms := hx.advances.terms
  obtain ⟨y, s₀, hlast, hafter, hstatus, hsettled, hnonce, hterms⟩ := h.opening
  refine ⟨⟨y, s₀, by simp [ho, hlast], hafter, hstatus, hsettled, hnonce, hterms.trans terms⟩, ?_⟩
  rw [life_snoc ho]
  refine forall_mem_snoc (fun z hz => ?_) ⟨s, s', hx, .refl s'⟩
  obtain ⟨s₁, s₂, hz, hterms⟩ := h.events z hz
  exact ⟨s₁, s₂, hz, hterms.trans terms⟩

theorem LifeEvent.of_call {rt : Runtime} {k : Pubkey} {l l' : Ledger} {ctx : TxContext}
    {c : Call rt} {ts : List Transfer} {s s' : Session} {mv : SessionMove}
    (hstep : Step rt l (.call ctx c ts) l')
    (hm : Event.move k ⟨l, .call ctx c ts, l'⟩ = some mv)
    (hc : SessionCall rt ctx c l l' ts k s s' mv) :
    LifeEvent rt k ⟨l, .call ctx c ts, l'⟩ s s' := by
  have hupdate := hstep.update_eq k
  rw [hm, Option.bind_some] at hupdate
  refine ⟨hc.recorded.before, hc.recorded.after, hc.step.advances, fun u hu => ?_, fun hu => ?_,
    fun ht => ?_, fun hclosing ctx' c' ts' hl hk' => ?_⟩
  · have hmessage := hupdate.symm.trans hu
    exact ⟨UInt64.lt_iff_toNat_lt.mpr (hc.step.accepts hmessage).newer, hc.step.nonce.2 u hmessage⟩
  · exact hc.step.nonce_idle (hupdate.symm.trans hu)
  · simp [hc.step.active] at ht
  · cases hl
    cases hstep with
    | call hp ok => exact Call.disputes_of_closing ok hk' hc.recorded.before hclosing

theorem LifeEvent.of_bystander {rt : Runtime} {k : Pubkey} {l l' : Ledger} {label : Label rt}
    {s : Session} (hi : Inv rt l) (hstep : Step rt l label l') (hb : label.busy ≠ some k)
    (hs : (l k).data = .session s) (hs' : (l' k).data = .session s)
    (hlam : (l k).lamports.toNat ≤ (l' k).lamports.toNat)
    (hkept : ∀ m, s.mint = some m → VaultKept rt l k m) :
    LifeEvent rt k ⟨l, label, l'⟩ s s := by
  have hupdate : Event.update k ⟨l, label, l'⟩ = none := by
    rw [hstep.update_eq k, (Event.bystander l l' hb).2.2]
    rfl
  refine ⟨hs, hs', .refl s, fun u hu => ?_, fun _ => rfl, fun _ => ⟨hb, rfl, ?_, fun m hm => ?_⟩,
    fun _ ctx c ts hl hk => ?_⟩
  · simp [hupdate] at hu
  · exact UInt64.le_iff_toNat_le.mpr hlam
  · exact ((hkept m hm).bystander hi hs hstep hb).2
  · obtain rfl : label = .call ctx c ts := hl
    exact absurd hk hb

theorem run_lived {rt : Runtime} {start l : Ledger} {tr : History rt} (genesis : Genesis start)
    (run : Run (Step rt) start tr l) (k : Pubkey) :
    ∀ s, (l k).data = .session s → Lived rt k tr s := by
  refine run.history (fun tr l => ∀ s, (l k).data = .session s → Lived rt k tr s) ?_ ?_
  · intro s hs
    exact absurd hs genesis.no_session
  · intro tr l label l' run ih hstep s hs
    cases hstep.session_event k with
    | opening s₁ ho _ hopened =>
      have hop := Opened.of_either hopened
      obtain rfl : s₁ = s := by simpa [hop.after] using hs
      refine ⟨⟨⟨l, label, l'⟩, s₁, by simp [ho], hop.after, hop.status, hop.settled, hop.nonce,
        .refl s₁⟩, ?_⟩
      rw [life_opening ho]
      simp
    | call ctx c ts s₀ s₁ mv hl hk ho _ hm hc =>
      obtain rfl : s₁ = s := by simpa [hc.recorded.after] using hs
      subst hl
      exact (ih s₀ hc.recorded.before).snoc ho (.of_call hstep hm hc)
    | bystander hb ho _ _ =>
      obtain ⟨hs₀, hlam⟩ := hstep.frame.session_back hb hs
      exact (ih s hs₀).snoc ho (.of_bystander (run_inv genesis run) hstep hb hs₀ hs hlam
        fun m hm => (run_vault genesis run k m s hs₀ hm).kept)

/-- The life of every session: its status follows the diagram and its terms
stay, each accepted update is newer than all before it, a dispute can only be
challenged or finalized, and what is over stays as it is. -/
theorem session_lifecycle {rt : Runtime} {start l : Ledger} {tr : History rt}
    (genesis : Genesis start) (run : Run (Step rt) start tr l) (k : Pubkey) (s : Session)
    (hs : (l k).data = .session s) :
    Lived rt k tr s ∧
      ((acceptedFor k (life k tr)).Pairwise fun u v => u.nonce < v.nonce) ∧
      (acceptedFor k (life k tr)).Nodup ∧
      ((acceptedFor k (life k tr)).getLast?.elim 0 StateUpdate.nonce = s.lastNonce) ∧
      (s.status = .cancelled → s.lastNonce = 0) ∧
      (s.status.terminal = true → ∀ (ctx : TxContext) (c : Call rt) (r : Effect),
        c.session? = some k → c.exec ctx l ≠ .ok r) ∧
      (s.status = .closing → ∀ (ctx : TxContext) (c : Call rt) (r : Effect),
        c.session? = some k → c.exec ctx l = .ok r → c.disputes = true) := by
  obtain ⟨a, ctr, htr⟩ := run_tracked genesis run k s hs
  have order := Channel.run_ordered htr.run
  have increasing : (acceptedFor k (life k tr)).Pairwise fun u v => u.nonce < v.nonce := by
    have h := order.increasing
    rw [htr.accepted run] at h
    exact h.imp fun hn => UInt64.lt_iff_toNat_lt.mpr hn
  have hnonce := htr.agree.nonce
  refine ⟨run_lived genesis run k s hs, increasing, increasing.imp fun hlt he => ?_, ?_,
    fun hc => ?_, fun ht ctx c r hk => Call.fails_of_terminal hk hs ht,
    fun hc ctx c r hk h => Call.disputes_of_closing h hk hs hc⟩
  · rw [he] at hlt
    exact UInt64.lt_irrefl _ hlt
  · rw [htr.last run]
    cases ha : a.last with
    | none =>
      rw [Channel.State.nonce_none ha] at hnonce
      exact UInt64.toNat_inj.mp hnonce
    | some u =>
      rw [Channel.State.nonce_some ha] at hnonce
      exact UInt64.toNat_inj.mp hnonce
  · rw [Channel.State.nonce_none (htr.agree.cancelled hc)] at hnonce
    exact UInt64.toNat_inj.mp hnonce.symm

section
open Localnet Transaction

theorem session_lifecycle_disputed :
    (acceptedFor (session 7) (life (session 7) disputedSession.2)).getLast?.elim 0
      StateUpdate.nonce = 2 := by
  have run : Run (Step rt) Localnet.start disputedSession.2 disputedSession.1 := submit_run _ _
  exact (session_lifecycle start_genesis run (session 7)
    { opened 7 1000000 none 0 with
      settledToProvider := 400000, lastNonce := 2, pendingPayout := 400000, pendingUnits := 1500
      status := .settled, challengeDeadline := 10 } (by decide +kernel)).2.2.2.1

end

end SolMesh
