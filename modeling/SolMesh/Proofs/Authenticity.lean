import Mathlib.Algebra.Order.BigOperators.Group.List
import SolMesh.Model.Localnet
import SolMesh.Proofs.Conservation

namespace SolMesh
open Outcome Runs

/-- What a payout has to release from the escrow. -/
def Call.due {rt : Runtime} (s : Session) : Call rt → Nat
  | .checkpointSettle _ u | .checkpointSettleSpl _ u =>
    u.owedToProvider.toNat - s.settledToProvider.toNat
  | .settleSession .. | .finalizeClose .. | .cancelSession .. | .expireSession ..
  | .settleSessionSpl .. | .finalizeCloseSpl .. | .cancelSessionSpl .. | .expireSessionSpl .. =>
    s.unsettled
  | _ => 0

/-- If the event was a payout in tokens with anything to release, it was told
to draw on the vault that the session was opened with. -/
def DrawsOnVault {rt : Runtime} (k m : Pubkey) (x : Event rt) : Prop :=
  ∀ ctx c ts v s, x.label = .call ctx c ts → c.session? = some k → c.vaultToken? = some v →
    (x.before k).data = .session s → v = rt.vaultAta k m ∨ c.due s = 0

/-- The payouts of an event in tokens left the session's vault for accounts of
its mint that belong to its parties, and they are what the session's record
says was paid. -/
structure AuthenticPayout {rt : Runtime} (k m : Pubkey) (x : Event rt) (ts : List Transfer) :
    Prop where
  moved : ∀ t ∈ ts, t.amount ≠ 0 → t.source = rt.vaultAta k m ∧
    (∃ a, (x.before t.source).data = .token a ∧ a.mint = m) ∧
    ∃ s b, (x.before k).data = .session s ∧ (x.before t.dest).data = .token b ∧ b.mint = m ∧
      b.owner = s.payee rt.feeVault t.role
  balances : ∀ y t, (x.before y).data = .token t →
    x.after.tokens y + debit y ts = x.before.tokens y + credit y ts
  released : x.before.tokens (rt.vaultAta k m) =
    x.after.tokens (rt.vaultAta k m) + earnings ts + received .consumer ts
  settled : ∀ s s', (x.before k).data = .session s → (x.after k).data = .session s' →
    s'.settledToProvider.toNat = s.settledToProvider.toNat + earnings ts

/-- By how much the event lowered the balance of a token account. -/
def Event.tokensOut {rt : Runtime} (y : Pubkey) (x : Event rt) : Nat :=
  x.before.tokens y - x.after.tokens y

theorem amount_le_debit {t : Transfer} {ts : List Transfer} (h : t ∈ ts) :
    t.amount.toNat ≤ debit t.source ts := by
  apply List.le_sum_of_mem
  exact List.mem_map.mpr ⟨t, h, if_pos rfl⟩

namespace SessionCall

variable {rt : Runtime} {ctx : TxContext} {c : Call rt} {l l' : Ledger} {ts : List Transfer}
  {k m v : Pubkey} {s s' : Session} {mv : SessionMove}

/-- A payout releases what is due. -/
theorem due (h : SessionCall rt ctx c l l' ts k s s' mv) :
    earnings ts + received .consumer ts = c.due s := by
  have hmove := h.move
  have hpaid := h.paid
  have hrefund := h.refunded
  have hstep := h.step
  cases c with
  | checkpointSettle a u | checkpointSettleSpl a u =>
    cases hmove
    cases hstep with
    | checkpoint status accepts paid =>
      simp only [Channel.Move.refund] at hrefund
      simp only [Call.due]
      omega
  | settleSession a u | settleSessionSpl a u =>
    cases hmove
    cases hstep with
    | settle status accepts paid rest =>
      simp only [Call.due, Session.unsettled]
      omega
  | finalizeClose a | finalizeCloseSpl a =>
    cases hmove
    generalize ctx.unixTimestamp.toInt = time at hstep
    cases hstep with
    | finalize now status late paid rest =>
      simp only [Call.due, Session.unsettled]
      omega
  | cancelSession a | expireSession a | cancelSessionSpl a | expireSessionSpl a =>
    cases hmove
    cases hstep with
    | cancel status unused rest | expire now status late rest =>
      simp only [Channel.Move.payout] at hpaid
      simp only [Call.due, Session.unsettled]
      omega
  | initiateUnilateralClose a u | challenge a u =>
    cases hmove
    simp only [Channel.Move.payout, Channel.Move.refund] at hpaid hrefund
    simp only [Call.due]
    omega
  | _ => simp [Call.move] at hmove

/-- No party to a session is its vault authority. -/
theorem payee_ne (h : SessionCall rt ctx c l l' ts k s s' mv) (hi : Inv rt l)
    (hm : s.mint = some m) (hv : c.vaultToken? = some v) :
    ∀ t ∈ ts, ∃ b, (l t.dest).data = .token b ∧ b.owner = s.payee rt.feeVault t.role ∧
      b.owner ≠ rt.vaultAuthority k := by
  intro t ht
  obtain ⟨_, hp⟩ := h.inTokens v hv
  obtain ⟨cfg, hcfg, hdest⟩ := hp.dest
  obtain ⟨_, hfee⟩ := hcfg.feeVault hi
  have hok := hi.session k s h.recorded.before
  have hauth := (hok.escrow h.step.active).authority m hm
  have hpda := Runtime.isPda_of_find hauth
  obtain ⟨b, hb, howner⟩ := hdest t ht
  rw [← Runtime.feeVault_of_find hfee] at howner
  refine ⟨b, hb, howner, ?_⟩
  rw [howner, Runtime.feeVault_of_find hfee]
  exact hi.payee_ne h.recorded.before hpda (rt.vault_ne_feeVault hauth hfee) t.role

/-- A payout in tokens that is told to draw on the session's vault pays its
parties out of it, in its mint. -/
theorem authentic (h : SessionCall rt ctx c l l' ts k s s' mv) (hi : Inv rt l)
    (hm : s.mint = some m) (hv : c.vaultToken? = some v)
    (hdraw : v = rt.vaultAta k m ∨ c.due s = 0) (label : Label rt) :
    AuthenticPayout k m ⟨l, label, l'⟩ ts := by
  obtain ⟨_, hp⟩ := h.inTokens v hv
  have hok := hi.session k s h.recorded.before
  obtain ⟨_, t, ht, htm, hto, _⟩ := (hok.escrow h.step.active).vault m hm
  have hdue := h.due
  have hpayee := h.payee_ne hi hm hv
  have hsource : ∀ u ∈ ts, u.amount ≠ 0 → u.source = rt.vaultAta k m := by
    intro u hu hne
    rcases hdraw with hd | hz
    · rw [(hp.source u hu).2, hd]
    · have h₁ := amount_le_debit hu
      have h₂ := debit_le u.source ts
      exact absurd (UInt64.toNat_inj.mp (by rw [UInt64.toNat_zero]; omega)) hne
  have hdebit : debit (rt.vaultAta k m) ts = earnings ts + received .consumer ts := by
    rcases hdraw with hd | hz
    · exact debit_source fun u hu => by rw [(hp.source u hu).2, hd]
    · have := debit_le (rt.vaultAta k m) ts
      omega
  have hcredit : credit (rt.vaultAta k m) ts = 0 := by
    apply credit_eq_zero
    intro u hu he
    obtain ⟨b, hb, _, hne⟩ := hpayee u hu
    obtain rfl : t = b := by simpa [← he, ht] using hb
    exact absurd hto hne
  have hbalance : ∀ y a, (l y).data = .token a →
      l'.tokens y + debit y ts = l.tokens y + credit y ts := by
    intro y a ha
    obtain ⟨a', ha', _, _, hbal⟩ := hp.tokens y a ha
    rw [Ledger.tokens_of_data ha, Ledger.tokens_of_data ha']
    exact hbal
  refine ⟨?_, hbalance, ?_, ?_⟩
  · intro u hu hne
    have hsrc := hsource u hu hne
    obtain ⟨a, b, ha, hb, hab, _⟩ := hp.rights u hu hne
    obtain rfl : t = a := by simpa [hsrc, ht] using ha
    obtain ⟨b', hb', howner, _⟩ := hpayee u hu
    obtain rfl : b = b' := by simpa [hb] using hb'
    exact ⟨hsrc, ⟨t, ha, htm⟩, s, b, h.recorded.before, hb, hab ▸ htm, howner⟩
  · have := hbalance _ t ht
    simp only [hdebit, hcredit] at this ⊢
    omega
  · intro s₀ s₁ h₀ h₁
    obtain rfl : s = s₀ := by simpa [h.recorded.before] using h₀
    obtain rfl : s' = s₁ := by simpa [h.recorded.after] using h₁
    rw [h.step.settled_grows, h.paid]

end SessionCall

/-- Every payout in tokens that the event made for session `k` is authentic. -/
def AuthenticEvent {rt : Runtime} (k m : Pubkey) (x : Event rt) : Prop :=
  ∀ ctx c ts, x.label = .call ctx c ts → c.session? = some k → c.isSplPayout = true →
    AuthenticPayout k m x ts

/-- The event paid out no lamports for session `k`. -/
def NoStrayPayout {rt : Runtime} (k : Pubkey) (x : Event rt) : Prop :=
  ∀ ctx c ts, x.label = .call ctx c ts → c.session? = some k → c.isSolPayout = false

/-- The vault of a session in tokens stands, and outlives the session. -/
structure VaultKept (rt : Runtime) (l : Ledger) (k m : Pubkey) : Prop where
  authority : ∃ b, rt.find (.vault k) = some (rt.vaultAuthority k, b)
  account : ∃ t, (l (rt.vaultAta k m)).data = .token t ∧ t.owner = rt.vaultAuthority k
  funded : 0 < (l (rt.vaultAta k m)).lamports.toNat

theorem OpenedSpl.vaultKept {rt : Runtime} {l l' : Ledger} {k m : Pubkey} {s : Session}
    (h : OpenedSpl rt l l' k m s) : VaultKept rt l' k m :=
  ⟨⟨_, h.authority⟩, ⟨_, h.vault, rfl⟩, h.vaultFunded⟩

theorem VaultKept.call {rt : Runtime} {ctx : TxContext} {c : Call rt} {l l' : Ledger}
    {ts : List Transfer} {k m : Pubkey} {s s' : Session} {mv : SessionMove}
    (h : VaultKept rt l k m) (hc : SessionCall rt ctx c l l' ts k s s' mv) :
    VaultKept rt l' k m := by
  obtain ⟨t, ht, ho⟩ := h.account
  have hfunded := h.funded
  cases hv : c.vaultToken? with
  | none =>
    obtain ⟨_, hp⟩ := hc.inLamports hv
    have hgrows := hp.others (ne_of_data ht hc.recorded.before (by simp))
    exact ⟨h.authority, ⟨t, hp.tokens _ t ht, ho⟩, by omega⟩
  | some v =>
    obtain ⟨_, hp⟩ := hc.inTokens v hv
    obtain ⟨t', ht', _, ho', _⟩ := hp.tokens _ t ht
    exact ⟨h.authority, ⟨t', ht', ho'.trans ho⟩, by rw [hp.lamports]; exact hfunded⟩

/-- A step about something else takes nothing out of the vault. -/
theorem VaultKept.bystander {rt : Runtime} {l l' : Ledger} {label : Label rt} {k m : Pubkey}
    {s : Session} (h : VaultKept rt l k m) (hi : Inv rt l) (hs : (l k).data = .session s)
    (hstep : Step rt l label l') (hb : label.busy ≠ some k) :
    VaultKept rt l' k m ∧ l.tokens (rt.vaultAta k m) ≤ l'.tokens (rt.vaultAta k m) := by
  obtain ⟨t, ht, ho⟩ := h.account
  obtain ⟨b, hauth⟩ := h.authority
  have hfunded := h.funded
  have hpda : rt.IsPda t.owner := ho ▸ Runtime.isPda_of_find hauth
  rcases hstep.frame.token _ t ht hpda with hg | ⟨t', ht', _, ho', hl, ha⟩
  · have := hg.1
    omega
  · rw [Ledger.tokens_of_data ht, Ledger.tokens_of_data ht']
    refine ⟨⟨⟨b, hauth⟩, ⟨t', ht', ho'.trans ho⟩, by omega⟩, ha ?_⟩
    -- vault authorities of different sessions differ
    intro k' s' b' hb' hs' hv
    rw [ho] at hv
    have := rt.vault_inj (hi.session k s hs).address (hi.session k' s' hs').address hauth hv
    exact hb (this ▸ hb')

/-- The tokens of a session's vault over its life. -/
structure VaultTrail (rt : Runtime) (k m : Pubkey) (tr : History rt) (l : Ledger) : Prop where
  kept : VaultKept rt l k m
  authentic : (∀ x ∈ life k tr, DrawsOnVault k m x) → ∀ x ∈ life k tr, AuthenticEvent k m x
  released : (∀ x ∈ life k tr, DrawsOnVault k m x ∧ NoStrayPayout k x) →
    total (Event.tokensOut (rt.vaultAta k m)) (life k tr) =
      earned k (life k tr) + paidTo k .consumer (life k tr)

theorem VaultTrail.opening {rt : Runtime} {k m : Pubkey} {tr : History rt} {l l' : Ledger}
    {label : Label rt} {s : Session} (ho : Event.opens k ⟨l, label, l'⟩ = true)
    (h : OpenedSpl rt l l' k m s) : VaultTrail rt k m (tr ++ [⟨l, label, l'⟩]) l' := by
  have hl : life k (tr ++ [⟨l, label, l'⟩]) = [] := life_opening ho
  exact ⟨h.vaultKept, by simp [hl], fun _ => by rw [hl]; rfl⟩

theorem VaultTrail.call {rt : Runtime} {k m : Pubkey} {tr : History rt} {l l' : Ledger}
    {ctx : TxContext} {c : Call rt} {ts : List Transfer} {s s' : Session} {mv : SessionMove}
    (h : VaultTrail rt k m tr l) (hi : Inv rt l) (hm : s.mint = some m)
    (hk : c.session? = some k) (ho : Event.opens k ⟨l, .call ctx c ts, l'⟩ = false)
    (ht : Event.transfers k ⟨l, .call ctx c ts, l'⟩ = ts)
    (hc : SessionCall rt ctx c l l' ts k s s' mv) :
    VaultTrail rt k m (tr ++ [⟨l, .call ctx c ts, l'⟩]) l' := by
  have hlife : life k (tr ++ [⟨l, .call ctx c ts, l'⟩]) =
      life k tr ++ [⟨l, .call ctx c ts, l'⟩] := life_snoc ho
  have hpayout : ∀ v, c.vaultToken? = some v →
      DrawsOnVault k m (⟨l, .call ctx c ts, l'⟩ : Event rt) →
        AuthenticPayout k m (⟨l, .call ctx c ts, l'⟩ : Event rt) ts := fun v hv hd =>
    hc.authentic hi hm hv (hd ctx c ts v s rfl hk hv hc.recorded.before) _
  refine ⟨h.kept.call hc, ?_, ?_⟩ <;> rw [hlife]
  · intro hd
    obtain ⟨hearlier, hlast⟩ := List.forall_mem_append.mp hd
    refine forall_mem_snoc (h.authentic hearlier) ?_
    intro ctx' c' ts' hl _ hspl
    cases hl
    obtain ⟨v, hv⟩ := Call.vaultToken_of_spl hspl
    exact hpayout v hv (hlast _ (List.mem_singleton_self _))
  · intro hd
    have hold := h.released fun y hy => hd y (List.mem_append_left _ hy)
    obtain ⟨hdraw, hstray⟩ := hd ⟨l, .call ctx c ts, l'⟩ (by simp)
    have hout : Event.tokensOut (rt.vaultAta k m) (⟨l, .call ctx c ts, l'⟩ : Event rt) =
        earnings ts + received .consumer ts := by
      simp only [Event.tokensOut]
      cases hv : c.vaultToken? with
      | some v =>
        have := (hpayout v hv hdraw).released
        simp only at this
        omega
      | none =>
        obtain ⟨hmint, hp⟩ := hc.inLamports hv
        obtain ⟨t, htok, _⟩ := h.kept.account
        have hsol := hstray ctx c ts rfl hk
        rcases hmint with hnone | ⟨_, hts⟩ | ⟨hignores, _⟩
        · simp [hm] at hnone
        · rw [Ledger.tokens_of_data htok, Ledger.tokens_of_data (hp.tokens _ t htok), hts]
          simp
        · simp [Call.solPayout_of_ignoresMint hignores] at hsol
    simp only [earned, paidTo, total_snoc, ht, hout] at hold ⊢
    omega

theorem VaultTrail.bystander {rt : Runtime} {k m : Pubkey} {tr : History rt} {l l' : Ledger}
    {label : Label rt} {s : Session} (h : VaultTrail rt k m tr l) (hi : Inv rt l)
    (hs : (l k).data = .session s) (hstep : Step rt l label l') (hb : label.busy ≠ some k)
    (ho : Event.opens k ⟨l, label, l'⟩ = false)
    (ht : Event.transfers k ⟨l, label, l'⟩ = []) :
    VaultTrail rt k m (tr ++ [⟨l, label, l'⟩]) l' := by
  have hlife : life k (tr ++ [⟨l, label, l'⟩]) = life k tr ++ [⟨l, label, l'⟩] := life_snoc ho
  obtain ⟨hkept, hgrows⟩ := h.kept.bystander hi hs hstep hb
  refine ⟨hkept, ?_, ?_⟩ <;> rw [hlife]
  · intro hd
    refine forall_mem_snoc (h.authentic (List.forall_mem_append.mp hd).1) ?_
    intro ctx c ts hl hk _
    cases hl
    exact absurd hk hb
  · intro hd
    have hold := h.released fun y hy => hd y (List.mem_append_left _ hy)
    have hout : Event.tokensOut (rt.vaultAta k m) (⟨l, label, l'⟩ : Event rt) = 0 := by
      simp only [Event.tokensOut]
      omega
    simpa [earned, paidTo, ht, hout] using hold

theorem run_vault {rt : Runtime} {start l : Ledger} {tr : History rt} (genesis : Genesis start)
    (run : Run (Step rt) start tr l) (k m : Pubkey) :
    ∀ s, (l k).data = .session s → s.mint = some m → VaultTrail rt k m tr l := by
  refine run.history (fun tr l => ∀ s, (l k).data = .session s → s.mint = some m →
    VaultTrail rt k m tr l) ?_ ?_
  · intro s hs
    exact absurd hs genesis.no_session
  · intro tr l label l' run ih hstep s hs hm
    have hi := run_inv genesis run
    cases hstep.session_event k with
    | opening s₁ ho ht hopened =>
      rcases hopened with h | ⟨m', h⟩
      · obtain rfl : s₁ = s := by simpa [h.after] using hs
        simp [h.mint] at hm
      · obtain rfl : s₁ = s := by simpa [h.after] using hs
        obtain rfl : m' = m := by simpa [h.mint] using hm
        exact .opening ho h
    | call ctx c ts s₀ s₁ mv hl hk ho ht hmv hc =>
      obtain rfl : s₁ = s := by simpa [hc.recorded.after] using hs
      have hm₀ : s₀.mint = some m := hc.step.terms.mint ▸ hm
      subst hl
      exact (ih s₀ hc.recorded.before hm₀).call hi hm₀ hk ho ht hc
    | bystander hb ho ht hmv =>
      obtain ⟨hs₀, _⟩ := hstep.frame.session_back hb hs
      exact (ih s hs₀ hm).bystander hi hs₀ hstep hb ho ht

/-- As long as the payouts in tokens for a session draw on its own vault, they
pay its parties in its mint what its record says; and a session that ended so
has released its whole deposit. -/
theorem spl_payouts_authentic {rt : Runtime} {start l : Ledger} {tr : History rt}
    (genesis : Genesis start) (run : Run (Step rt) start tr l) (k m : Pubkey) (s : Session)
    (hs : (l k).data = .session s) (hm : s.mint = some m)
    (draws : ∀ x ∈ life k tr, DrawsOnVault k m x) :
    (∀ x ∈ life k tr, AuthenticEvent k m x) ∧
      ((∀ x ∈ life k tr, NoStrayPayout k x) →
        total (Event.tokensOut (rt.vaultAta k m)) (life k tr) =
            earned k (life k tr) + paidTo k .consumer (life k tr) ∧
          earned k (life k tr) = s.settledToProvider.toNat ∧
          (s.status.terminal = true →
            total (Event.tokensOut (rt.vaultAta k m)) (life k tr) = s.deposited.toNat)) := by
  have trail := run_vault genesis run k m s hs hm
  refine ⟨trail.authentic draws, fun stray => ?_⟩
  obtain ⟨a, ctr, htr⟩ := run_tracked genesis run k s hs
  have books := Channel.run_conserved htr.run
  have hout := trail.released fun x hx => ⟨draws x hx, stray x hx⟩
  have hearned := htr.earned
  have hrefunded := htr.refunded
  have hpay := books.payouts
  have hsettled := htr.agree.settled
  refine ⟨hout, by omega, fun ht => ?_⟩
  have hclosed : a.phase = .closed := by
    rw [htr.agree.phase]
    exact (SessionStatus.phase_closed _).mpr ht
  have hall := books.closed hclosed
  omega

section
open Localnet Transaction

/-- A session in tokens that is checkpointed and settled. -/
def settledTokens : Ledger × History Localnet.rt :=
  submit Localnet.start (deploy ++ [openSpl 8 5000,
    cosigned 5 (update 8 1 300 10)
      (.checkpointSettleSpl ⟨payoutAccounts 8, ixSysvarId⟩ (update 8 1 300 10)),
    cosigned 6 (update 8 2 400 20)
      (.settleSessionSpl ⟨payoutAccounts 8, ixSysvarId⟩ (update 8 2 400 20))])

theorem spl_payouts_authentic_settled :
    total (Event.tokensOut (rt.vaultAta (session 8) mint)) (life (session 8) settledTokens.2) =
      5000 := by
  have run : Run (Step rt) Localnet.start settledTokens.2 settledTokens.1 := submit_run _ _
  have looks : (life (session 8) settledTokens.2).all (Event.passes · fun c =>
      c.vaultToken? = some (vaultToken 8) && !c.isSolPayout) = true := by decide +kernel
  have looked : ∀ x ∈ life (session 8) settledTokens.2, ∀ ctx c ts, x.label = .call ctx c ts →
      c.vaultToken? = some (vaultToken 8) ∧ c.isSolPayout = false := by
    intro x hx ctx c ts hl
    simpa using passes_of_mem looks hx hl
  refine ((spl_payouts_authentic start_genesis run (session 8) mint
    { opened 8 5000 (some mint) 255 with
      settledToProvider := 400, lastNonce := 2, pendingUnits := 20, status := .settled }
    (by decide +kernel) rfl ?_).2 ?_).2.2 rfl
  · intro x hx ctx c ts v s hl _ hv _
    rw [(looked x hx ctx c ts hl).1] at hv
    exact .inl (Option.some.inj hv).symm
  · intro x hx ctx c ts hl _
    exact (looked x hx ctx c ts hl).2

def fakeVault : Pubkey := 23
def fakeConsumerToken : Pubkey := 24

/-- Somebody has put tokens of a worthless mint under the vault authority. -/
def counterfeit : Ledger := fun k =>
  if k = fakeVault then ⟨2039280, .token ⟨otherMint, vaultAuthority 7, 1000000⟩⟩
  else if k = fakeConsumerToken then ⟨2039280, .token ⟨otherMint, 3, 0⟩⟩
  else Localnet.start k

/-- The session expires, and anybody may hand the consumer the worthless tokens. -/
def counterfeitRefund : Ledger × History Localnet.rt :=
  submit counterfeit (deploy ++ [openSpl 7 1000000,
    submitted 61 (.expireSessionSpl ⟨config, session 7, 3, vaultAuthority 7, fakeVault,
      fakeConsumerToken, stranger⟩)])

/-- The event pays tokens for the session from elsewhere than its vault. -/
def paysFromElsewhere (k m : Pubkey) (x : Event Localnet.rt) : Bool :=
  match x.label with
  | .call _ c ts => c.session? = some k && c.isSplPayout &&
      ts.any fun t => t.amount ≠ 0 && t.source ≠ Localnet.rt.vaultAta k m
  | .external | .commit => false

theorem spl_payouts_not_authentic : ¬ ∀ (rt : Runtime) (start l : Ledger) (tr : History rt)
    (k m : Pubkey) (s : Session), Genesis start → Run (Step rt) start tr l →
    (l k).data = .session s → s.mint = some m → ∀ x ∈ life k tr, AuthenticEvent k m x := by
  intro h
  have genesis : Genesis counterfeit := by
    intro k
    unfold counterfeit
    split_ifs
    · rfl
    · rfl
    · exact start_genesis k
  have run : Run (Step Localnet.rt) counterfeit counterfeitRefund.2 counterfeitRefund.1 :=
    submit_run _ _
  have strays : (life (session 7) counterfeitRefund.2).any
      (paysFromElsewhere (session 7) mint) = true := by decide +kernel
  obtain ⟨x, hx, hlook⟩ := List.any_eq_true.mp strays
  have authentic := h Localnet.rt counterfeit counterfeitRefund.1 counterfeitRefund.2 (session 7)
    mint { opened 7 1000000 (some mint) 255 with status := .expired } genesis run
    (by decide +kernel) rfl x hx
  cases hl : x.label with
  | external | commit => simp [paysFromElsewhere, hl] at hlook
  | call ctx c ts =>
    simp only [paysFromElsewhere, hl, Bool.and_eq_true, decide_eq_true_eq, List.any_eq_true]
      at hlook
    obtain ⟨⟨hk, hspl⟩, t, ht, hne, hsrc⟩ := hlook
    exact hsrc ((authentic ctx c ts hl hk hspl).moved t ht hne).1

/-- The session is over and its vault still full. -/
example : (counterfeitRefund.1 (session 7)).data =
      .session { opened 7 1000000 (some mint) 255 with status := .expired } ∧
    counterfeitRefund.1.tokens (vaultToken 7) = 1000000 := by
  decide +kernel

end

end SolMesh
