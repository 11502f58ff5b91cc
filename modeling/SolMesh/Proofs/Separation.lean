import SolMesh.Model.Localnet
import SolMesh.Proofs.Attempts
import SolMesh.Proofs.Conservation

namespace SolMesh
open Outcome Runs

/-- A payout releases the asset that the session it names holds in escrow. -/
def Separated {rt : Runtime} (l : Ledger) (c : Call rt) : Prop :=
  ∀ k s, c.session? = some k → (l k).data = .session s →
    (c.isSolPayout = true → s.mint = none) ∧ (c.isSplPayout = true → s.mint ≠ none)

/-- One of the instructions that do not look at the mint is aimed at a session
in tokens whose own account holds as many lamports as tokens are unsettled. -/
def Exposed {rt : Runtime} (l : Ledger) (c : Call rt) : Prop :=
  c.ignoresMint = true ∧ ∃ k s, c.session? = some k ∧ (l k).data = .session s ∧
    s.mint ≠ none ∧ s.unsettled ≤ (l k).lamports.toNat

/-- An exit of a session in tokens that pays lamports needs as many lamports as
tokens are unsettled. -/
theorem SessionCall.exposed {rt : Runtime} {ctx : TxContext} {c : Call rt} {l l' : Ledger}
    {ts : List Transfer} {k : Pubkey} {s s' : Session} {mv : SessionMove}
    (h : SessionCall rt ctx c l l' ts k s s' mv) (hi : Inv rt l) (hk : c.session? = some k)
    (hsol : c.isSolPayout = true) (hm : s.mint ≠ none) : Exposed l c := by
  obtain ⟨hmint, hp⟩ := h.inLamports (Call.vaultToken_of_sol hsol)
  rcases hmint with hnone | ⟨hno, _⟩ | ⟨hignores, hterm⟩
  · exact absurd hnone hm
  · simp [hsol] at hno
  · have hs := h.recorded.before
    have hle := UInt64.le_iff_toNat_le.mpr (hi.session k s hs).settled
    have hflow := (h.step.outflow hle).2.2 hterm
    have hbal := hp.balance hi hs
    have hpaid := h.paid
    have hrefund := h.refunded
    exact ⟨hignores, k, s, hk, hs, hm, by omega⟩

theorem separated_of_ok {rt : Runtime} {l l' : Ledger} {ctx : TxContext} {c : Call rt}
    {ts : List Transfer} (hi : Inv rt l) (hp : ctx.precompiled rt = true)
    (h : c.exec ctx l = .ok (l', ts)) (hsafe : ¬ Exposed l c) : Separated l c := by
  intro k s hk hs
  rcases Call.on_session hp h hk with ⟨ho, _, _⟩ | ⟨_, s₀, s', mv, hc⟩
  · obtain ⟨hsol, hspl⟩ := Call.not_payout_of_opens ho
    simp [hsol, hspl]
  · obtain rfl : s₀ = s := by simpa [hc.recorded.before] using hs
    constructor
    · intro hsol
      by_contra hm
      exact hsafe (hc.exposed hi hk hsol hm)
    · intro hspl
      obtain ⟨v, hv⟩ := Call.vaultToken_of_spl hspl
      exact (hc.inTokens v hv).1

/-- The event closed session `k`, which was alive before it and is over after it. -/
def Closes {rt : Runtime} (k : Pubkey) (x : Event rt) (c : Call rt) : Prop :=
  (∃ ctx ts, x.label = .call ctx c ts) ∧ c.session? = some k ∧
    (c.isSolPayout = true ∨ c.isSplPayout = true) ∧
    (∃ s, (x.before k).data = .session s ∧ s.status.terminal = false) ∧
    ∃ s, (x.after k).data = .session s ∧ s.status.terminal = true

theorem Call.payout_of_close {rt : Runtime} {ctx : TxContext} {c : Call rt} {k : Pubkey}
    {s s' : Session} {ts : List Transfer} {mv : SessionMove} (hm : c.move ctx s' ts = some mv)
    (hstep : Session.Step rt k s mv s') (ht : s'.status.terminal = true) :
    c.isSolPayout = true ∨ c.isSplPayout = true := by
  cases hstep with
  | checkpoint status =>
    simp [Session.settle, status, SessionStatus.terminal] at ht
  | initiate => simp [SessionStatus.terminal] at ht
  | challenge now status =>
    simp [Session.propose, status, SessionStatus.terminal] at ht
  | settle | finalize | cancel | expire =>
    cases c <;> simp_all [Call.move, Call.isSolPayout, Call.isSplPayout]

/-- Some event of the history closed each session that is over. -/
theorem run_closed {rt : Runtime} {start l : Ledger} {tr : History rt}
    (genesis : Genesis start) (run : Run (Step rt) start tr l) (k : Pubkey) :
    ∀ s, (l k).data = .session s → s.status.terminal = true →
      ∃ x ∈ tr, ∃ c, Closes k x c ∧
        ∀ s₀, (x.before k).data = .session s₀ → s₀.mint = s.mint := by
  refine run.history (fun tr l => ∀ s, (l k).data = .session s → s.status.terminal = true →
    ∃ x ∈ tr, ∃ c, Closes k x c ∧
      ∀ s₀, (x.before k).data = .session s₀ → s₀.mint = s.mint) ?_ ?_
  · intro s hs
    exact absurd hs genesis.no_session
  · intro tr l label l' _ ih hstep s hs ht
    cases hstep.session_event k with
    | opening s₁ ho hts hopened =>
      have hop := Opened.of_either hopened
      obtain rfl : s₁ = s := by simpa [hop.after] using hs
      simp [hop.status, SessionStatus.terminal] at ht
    | call ctx c ts s₀ s₁ mv hl hk ho hts hm hc =>
      obtain rfl : s₁ = s := by simpa [hc.recorded.after] using hs
      refine ⟨⟨l, label, l'⟩, by simp, c, ⟨⟨ctx, ts, hl⟩, hk,
        Call.payout_of_close hc.move hc.step ht, ⟨s₀, hc.recorded.before, hc.step.active⟩,
        s₁, hc.recorded.after, ht⟩, ?_⟩
      intro s₂ hs₂
      obtain rfl : s₀ = s₂ := by simpa [hc.recorded.before] using hs₂
      exact hc.step.terms.mint.symm
    | bystander hb ho hts hm =>
      obtain ⟨hs₀, _⟩ := hstep.frame.session_back hb hs
      obtain ⟨x, hx, hclosed⟩ := ih s hs₀ ht
      exact ⟨x, List.mem_append_left _ hx, hclosed⟩

/-- As long as nobody submits a `finalize_close`, `cancel_session` or
`expire_session` for a session in tokens whose account could afford it, every
payout releases the asset in escrow, and so does the exit of every session
that is over. -/
theorem escrow_types_separated {rt : Runtime} {start l : Ledger}
    {tr : List (Transition Ledger (Trial rt))} (genesis : Genesis start)
    (run : Run (Attempt rt) start tr l)
    (guarded : ∀ x ∈ tr, ∀ ctx c, x.label.call? = some (ctx, c) → ¬ Exposed x.before c) :
    (∀ x ∈ taken tr, ∀ ctx c ts, x.label = .call ctx c ts → Separated x.before c) ∧
      (∀ (ctx : TxContext) (c : Call rt) (r : Effect), ctx.precompiled rt = true →
        ¬ Exposed l c → c.exec ctx l = .ok r → Separated l c) ∧
      ∀ k s, (l k).data = .session s → s.status.terminal = true →
        ∃ x ∈ taken tr, ∃ c, Closes k x c ∧
          (s.mint = none → c.isSolPayout = true) ∧ (s.mint ≠ none → c.isSplPayout = true) := by
  have steps := run_taken run
  have separated : ∀ x ∈ taken tr, ∀ ctx c ts, x.label = .call ctx c ts →
      Separated x.before c := by
    intro x hx ctx c ts hlabel
    obtain ⟨pre, post, _, hpre, hstep, _⟩ := steps.split hx
    rw [hlabel] at hstep
    cases hstep with
    | call hp ok =>
      refine separated_of_ok (run_inv genesis hpre) hp ok ?_
      apply guarded _ (mem_taken.mp hx) ctx c
      simp [hlabel, Trial.call?]
  refine ⟨separated, ?_, ?_⟩
  · intro ctx c r hp hsafe hok
    exact separated_of_ok (run_inv genesis steps) hp hok hsafe
  · intro k s hs ht
    obtain ⟨x, hx, c, hclose, hmint⟩ := run_closed genesis steps k s hs ht
    have hc := hclose
    obtain ⟨⟨ctx, ts, hlabel⟩, hk, hpayout, ⟨s₀, hs₀, _⟩, _⟩ := hclose
    obtain ⟨hsol, hspl⟩ := separated x hx ctx c ts hlabel k s₀ hk hs₀
    rw [hmint s₀ hs₀] at hsol hspl
    refine ⟨x, hx, c, hc, ?_, ?_⟩
    · intro hm
      rcases hpayout with h | h
      · exact h
      · exact absurd hm (hspl h)
    · intro hm
      rcases hpayout with h | h
      · exact absurd (hsol h) hm
      · exact h

/-- A wallet sends lamports to some account. -/
def External.transfer {rt : Runtime} (src : Signer rt) (dst : Pubkey) (amount : UInt64) :
    External rt where
  run l := systemTransfer l src.key dst amount
  writable := [src.key, dst]
  respects := by
    intro l l' h
    obtain ⟨hsys, hs⟩ := systemTransfer_ok h
    have grows : ∀ x, (l x).data ≠ .system → (l x).lamports.toNat ≤ (l' x).lamports.toNat := by
      intro x hx
      have hne : x ≠ src.key := fun he => hx (he ▸ hsys)
      have := hs.lamports x
      rw [if_neg hne] at this
      omega
    have stays : ∀ x, (l x).data ≠ .system → 0 < (l x).lamports.toNat →
        0 < (l' x).lamports.toNat := fun x hx hpos => Nat.lt_of_lt_of_le hpos (grows x hx)
    refine ⟨fun k hk => ⟨hs.data k, grows k fun he => ?_⟩, fun k hk => hs.data k ▸ hk,
      fun k t ht _ => ⟨grows k (by simp [ht]), t, by rw [hs.data, ht], rfl, rfl, Nat.le_refl _⟩,
      fun k a ha _ => ⟨stays k (by simp [ha]), .inr ⟨a, by rw [hs.data, ha], rfl, rfl⟩⟩,
      fun k hk => ⟨stays k (by simp [hk]), by rw [hs.data, hk]⟩⟩
    simp [he, AccountData.ownedByProgram] at hk
  untouched := by
    intro l l' h k hk
    obtain ⟨_, hs⟩ := systemTransfer_ok h
    simp only [List.mem_cons, List.not_mem_nil, or_false, not_or] at hk
    have hbal := hs.lamports k
    rw [if_neg hk.1, if_neg hk.2] at hbal
    exact account_ext (by omega) (hs.data k)

section
open Localnet Transaction

/-- A session in tokens, just opened. Somebody has sent it lamports. -/
def tokenSession (amount : UInt64) : Ledger × History Localnet.rt :=
  submit Localnet.start (deploy ++ [openSpl 7 amount,
    ⟨[⟨0, [], [.external (.transfer stranger (session 7) 1000000)]⟩], 1⟩])

/-- Anybody may try to expire it through the instruction for lamports. -/
def strayExpiry : Call Localnet.rt :=
  .expireSession ⟨config, session 7, 3, stranger⟩

/-- The deposit is larger than what lies on the account, so the stray expiry is
refused, and the one in tokens may follow. -/
theorem escrow_types_separated_refused :
    Separated (tokenSession 5000000).1 (.expireSessionSpl ⟨config, session 7, 3, vaultAuthority 7,
      vaultToken 7, consumerToken, stranger⟩ : Call Localnet.rt) := by
  have steps : Run (Step Localnet.rt) Localnet.start (tokenSession 5000000).2
      (tokenSession 5000000).1 := submit_run _ _
  have failed : strayExpiry.exec ⟨[], 0, 61⟩ (tokenSession 5000000).1 =
      .error (.custom .mathOverflow) := by rfl
  have run := (run_took steps).snoc (.refused rfl failed)
  have looks : (tokenSession 5000000).2.all (Event.passes · fun c => !c.ignoresMint) = true := by
    decide +kernel
  have data : ((tokenSession 5000000).1 (session 7)).data =
      .session (opened 7 5000000 (some mint) 255) := by decide +kernel
  have poor : ((tokenSession 5000000).1 (session 7)).lamports.toNat < 5000000 := by
    decide +kernel
  obtain ⟨r, hr⟩ := exists_ok (by decide +kernel : ((.expireSessionSpl ⟨config, session 7, 3,
    vaultAuthority 7, vaultToken 7, consumerToken, stranger⟩ : Call Localnet.rt).exec ⟨[], 0, 61⟩
      (tokenSession 5000000).1).isOk = true)
  refine (escrow_types_separated start_genesis run ?_).2.1 ⟨[], 0, 61⟩ _ r rfl ?_ hr
  · intro x hx ctx c hc he
    rcases List.mem_append.mp hx with hx | hx
    · obtain ⟨y, hy, rfl⟩ := List.mem_map.mp hx
      obtain ⟨before, label, after⟩ := y
      cases label with
      | call ctx' c' ts =>
        cases hc
        have hminds := passes_of_mem looks hy rfl
        simp [he.1] at hminds
      | external | commit => simp [Trial.call?] at hc
    · obtain rfl := List.mem_singleton.mp hx
      cases hc
      obtain ⟨_, k, s, hk, hs, _, hle⟩ := he
      cases hk
      obtain rfl : opened 7 5000000 (some mint) 255 = s := by simpa [data] using hs
      exact absurd hle (Nat.not_le_of_lt poor)
  · intro he
    cases he.1

/-- With a smaller deposit the consumer gets lamports in place of the tokens,
and the account stays rent exempt. -/
theorem escrow_types_not_separated : ¬ ∀ (rt : Runtime) (start l l' : Ledger) (tr : History rt)
    (ctx : TxContext) (c : Call rt) (ts : List Transfer), Genesis start →
    Run (Step rt) start tr l → Step rt l (.call ctx c ts) l' → Separated l c := by
  intro h
  have run : Run (Step Localnet.rt) Localnet.start (tokenSession 1000000).2
      (tokenSession 1000000).1 := submit_run _ _
  have succeeds : (strayExpiry.exec ⟨[], 0, 61⟩ (tokenSession 1000000).1).isOk = true := by
    decide +kernel
  obtain ⟨⟨l', ts⟩, hok⟩ := exists_ok succeeds
  have hsep := h Localnet.rt Localnet.start (tokenSession 1000000).1 l' (tokenSession 1000000).2
    ⟨[], 0, 61⟩ strayExpiry ts start_genesis run (.call rfl hok) (session 7)
    (opened 7 1000000 (some mint) 255) rfl (by decide +kernel)
  simpa [opened] using hsep.1 rfl

/-- The tokens stay in the vault of a session that is over. -/
example : ((submit (tokenSession 1000000).1 [submitted 61 strayExpiry]).1 (session 7)).data =
      .session { opened 7 1000000 (some mint) 255 with status := .expired } ∧
    (submit (tokenSession 1000000).1 [submitted 61 strayExpiry]).1.tokens (vaultToken 7) =
      1000000 := by
  decide +kernel

end

end SolMesh
