import SolMesh.Model.Parties
import SolMesh.Proofs.ExitAvailability

namespace SolMesh
open Outcome Words Runs

/-- Since session `k` was opened no update has been accepted for it, and the
provider has earned nothing. -/
structure Unused {rt : Runtime} (k : Pubkey) (tr : History rt) : Prop where
  accepted : acceptedFor k (life k tr) = []
  earned : earned k (life k tr) = 0

theorem Tracked.unused {rt : Runtime} {start l : Ledger} {k : Pubkey} {tr : History rt}
    {s : Session} {a : Channel.State StateUpdate} {ctr : Channel.Trace StateUpdate}
    (h : Tracked rt k (life k tr) s a ctr) (run : Run (Step rt) start tr l)
    (hnone : a.last = none) : Unused k tr := by
  have hdue := Channel.State.due_none hnone
  have hshares := (Channel.run_shares h.run).1
  constructor
  · rw [← List.getLast?_eq_none_iff, h.last run]
    exact hnone
  · rw [h.earned]
    omega

/-- A call that cancelled session `s`, which had settled nothing. The whole
deposit went back in lamports for a session in lamports, and for one in tokens
when its own vault was named, to an account of the consumer for its mint. -/
structure Cancelled {rt : Runtime} (l : Ledger) (c : Call rt) (ts : List Transfer) (l' : Ledger)
    (k : Pubkey) (s : Session) : Prop where
  call : c.cancels = true ∧ c.session? = some k
  before : (l k).data = .session s
  after : (l' k).data = .session (s.close .cancelled)
  settled : s.settledToProvider = 0
  earned : earnings ts = 0
  lamports : s.mint = none → RefundedLamports l l' k s .cancelled s.deposited.toNat
  tokens : ∀ m a, s.mint = some m → c = .cancelSessionSpl a → a.vaultToken = rt.vaultAta k m →
    RefundedTokens l l' k (rt.vaultAta k m) a.consumerToken s .cancelled s.deposited.toNat ∧
      ∃ t, (l a.consumerToken).data = .token t ∧ t.mint = m ∧ t.owner = s.consumer

section
variable {rt : Runtime} {ctx : TxContext} {c : Call rt} {l l' : Ledger} {ts : List Transfer}
  {k m : Pubkey} {s : Session}

theorem IsOpen.cancelled_lamports (h : IsOpen rt l k s) {a : CancelSession rt}
    (hk : a.session = k) (hload : a.load rt l = .ok s) (settled : s.settledToProvider = 0)
    (ok : refundConsumer l s a.session a.consumer.key .cancelled = .ok (l', ts)) :
    RefundedLamports l l' k s .cancelled s.deposited.toNat := by
  obtain ⟨_, hconsumer⟩ := CancelSession.load_ok.mp hload
  rw [hk, ← hconsumer] at ok
  have hrefund := refundConsumer_refunds h.consumer_ne ok
  rwa [settled, UInt64.toNat_zero, Nat.sub_zero] at hrefund

theorem IsOpen.cancelled_tokens (h : IsOpen rt l k s) (hm : s.mint = some m)
    {a : LifecycleSpl rt} (hk : a.session = k) (hv : a.vaultToken = rt.vaultAta k m)
    (hload : a.load rt l = .ok s) (settled : s.settledToProvider = 0)
    (ok : refundConsumerSpl rt l a s .cancelled = .ok (l', ts)) :
    RefundedTokens l l' k (rt.vaultAta k m) a.consumerToken s .cancelled s.deposited.toNat ∧
      ∃ t, (l a.consumerToken).data = .token t ∧ t.mint = m ∧ t.owner = s.consumer := by
  obtain ⟨_, hconsumer, _, _, t, ht, howner⟩ := LifecycleSpl.load_ok.mp hload
  obtain ⟨_, v, hvault, hvm, hvo, _⟩ := h.escrowed.vault m hm
  have hauth := h.escrowed.authority m hm
  rw [← hconsumer] at howner
  have hvault' : (l a.vaultToken).data = .token v := hv ▸ hvault
  -- the consumer is a wallet, and the vault belongs to a derived address
  have hne : a.consumerToken ≠ a.vaultToken := by
    intro heq
    obtain rfl : v = t := by simpa [← heq, ht] using hvault'.symm
    exact h.ok.consumer (howner ▸ hvo ▸ Runtime.isPda_of_find hauth)
  have hrefund := refundConsumerSpl_refunds (hk ▸ h.data) hvault' ht hne ok
  rw [settled, UInt64.toNat_zero, Nat.sub_zero, hk, hv] at hrefund
  refine ⟨hrefund, t, ht, ?_, howner⟩
  obtain ⟨rem, mid, hrem, rfl, hpaid, rfl⟩ := refundConsumerSpl_ok.mp ok
  have hr := checkedSub_some.mp hrem
  have hpos := h.ok.deposit
  rw [settled, UInt64.toNat_zero] at hr
  have hne₀ : rem ≠ 0 := by
    intro hz
    rw [hz, UInt64.toNat_zero] at hr
    omega
  obtain ⟨x, y, hx, hy, hxy, _⟩ := hpaid.moves.rights _ List.mem_cons_self hne₀
  obtain rfl : v = x := by simpa [hvault'] using hx
  obtain rfl : t = y := by simpa [ht] using hy
  exact hxy ▸ hvm

end

/-- A cancellation succeeds only while nothing has been accepted for the session. -/
theorem Call.cancelled {rt : Runtime} {start l l' : Ledger} {tr : History rt} {ctx : TxContext}
    {c : Call rt} {ts : List Transfer} {k : Pubkey} (genesis : Genesis start)
    (run : Run (Step rt) start tr l) (ok : c.exec ctx l = .ok (l', ts)) (hc : c.cancels = true)
    (hk : c.session? = some k) : ∃ s, s.lastNonce = 0 ∧ Cancelled l c ts l' k s := by
  have hi := run_inv genesis run
  have earned : ∀ {s s' mv}, SessionEffect rt l l' ts k s s' mv →
      s.settledToProvider = s'.settledToProvider → earnings ts = 0 := by
    intro s s' mv he hsame
    have hgrows := he.step.settled_grows
    have hpaid := he.paid
    rw [hsame] at hgrows
    omega
  have unsettled : ∀ {s}, (l k).data = .session s → s.lastNonce = 0 →
      s.settledToProvider = 0 := by
    intro s hs hnonce
    apply UInt64.toNat_inj.mp
    rw [settled_zero_of_unused genesis run hs hnonce, UInt64.toNat_zero]
  cases c with
  | cancelSession a =>
    cases hk
    obtain ⟨s, he, _⟩ := cancelHandler_effect ok
    obtain ⟨s₀, hload, hstatus, hunused, hrefund⟩ := cancelHandler_ok.mp ok
    obtain ⟨⟨_, loaded⟩, _⟩ := CancelSession.load_ok.mp hload
    obtain rfl : s = s₀ := by simpa [he.recorded.before] using loaded.sessionData
    have hs := he.recorded.before
    have hsettled := unsettled hs hunused
    exact ⟨s, hunused, ⟨rfl, rfl⟩, hs, he.recorded.after, hsettled, earned he rfl,
      fun _ => IsOpen.cancelled_lamports ⟨hi, hs, hstatus⟩ rfl hload hsettled hrefund, by simp⟩
  | cancelSessionSpl a =>
    cases hk
    obtain ⟨s, hmint, he, _⟩ := cancelSessionSplHandler_effect ok
    obtain ⟨s₀, hload, hstatus, _, hunused, _, hrefund⟩ := cancelSessionSplHandler_ok.mp ok
    obtain ⟨⟨_, loaded⟩, _⟩ := LifecycleSpl.load_ok.mp hload
    obtain rfl : s = s₀ := by simpa [he.recorded.before] using loaded.sessionData
    have hs := he.recorded.before
    have hsettled := unsettled hs hunused
    refine ⟨s, hunused, ⟨rfl, rfl⟩, hs, he.recorded.after, hsettled, earned he rfl,
      fun hm => absurd hm hmint, fun m b hm hb hv => ?_⟩
    cases hb
    exact IsOpen.cancelled_tokens ⟨hi, hs, hstatus⟩ hm rfl hv hload hsettled hrefund
  | _ => simp [Call.cancels] at hc

/-- Only a cancellation leaves a session cancelled. -/
theorem SessionCall.cancels {rt : Runtime} {ctx : TxContext} {c : Call rt} {l l' : Ledger}
    {ts : List Transfer} {k : Pubkey} {s s' : Session} {mv : SessionMove}
    (h : SessionCall rt ctx c l l' ts k s s' mv) (ok : c.exec ctx l = .ok (l', ts))
    (hk : c.session? = some k) (hcancelled : s'.status = .cancelled) : c.cancels = true := by
  have hmove := h.move
  have hexpired : ∀ s₀ mv, SessionEffect rt l l' ts k s₀ { s₀ with status := .expired } mv →
      c.cancels = true := by
    intro s₀ mv he
    have hs' := h.recorded.after.symm.trans he.recorded.after
    simp only [AccountData.session.injEq] at hs'
    simp [hs'] at hcancelled
  have hstep := h.step
  cases c with
  | cancelSession a | cancelSessionSpl a => rfl
  | expireSession a =>
    cases hk
    obtain ⟨s₀, he, _⟩ := expireHandler_effect ok
    exact hexpired s₀ _ he
  | expireSessionSpl a =>
    cases hk
    obtain ⟨s₀, _, he, _⟩ := expireSessionSplHandler_effect ok
    exact hexpired s₀ _ he
  | checkpointSettle a u | checkpointSettleSpl a u =>
    cases hmove
    cases hstep with
    | checkpoint status => simp [Session.settle, status] at hcancelled
  | settleSession a u | settleSessionSpl a u =>
    cases hmove
    cases hstep
    cases hcancelled
  | initiateUnilateralClose a u =>
    cases hmove
    generalize s'.challengeDeadline.toInt = deadline at hstep
    cases hstep
    cases hcancelled
  | challenge a u =>
    cases hmove
    generalize ctx.unixTimestamp.toInt = now at hstep
    cases hstep with
    | challenge now status => simp [Session.propose, status] at hcancelled
  | finalizeClose a | finalizeCloseSpl a =>
    cases hmove
    generalize ctx.unixTimestamp.toInt = now at hstep
    cases hstep
    cases hcancelled
  | _ => simp [Call.move] at hmove

/-- Every session that ended cancelled was cancelled in its life. -/
theorem run_cancelled {rt : Runtime} {start l : Ledger} {tr : History rt}
    (genesis : Genesis start) (run : Run (Step rt) start tr l) (k : Pubkey) :
    ∀ s, (l k).data = .session s → s.status = .cancelled →
      ∃ x ∈ life k tr, ∃ ctx c ts s₀, x.label = .call ctx c ts ∧
        Cancelled x.before c ts x.after k s₀ ∧ s = s₀.close .cancelled := by
  refine run.history (fun tr l => ∀ s, (l k).data = .session s → s.status = .cancelled →
    ∃ x ∈ life k tr, ∃ ctx c ts s₀, x.label = .call ctx c ts ∧
      Cancelled x.before c ts x.after k s₀ ∧ s = s₀.close .cancelled) ?_ ?_
  · intro s hs
    exact absurd hs genesis.no_session
  · intro tr l label l' run ih hstep s hs hcancelled
    cases hstep.session_event k with
    | opening s₁ _ _ hopened =>
      have hop := Opened.of_either hopened
      obtain rfl : s₁ = s := by simpa [hop.after] using hs
      simp [hop.status] at hcancelled
    | call ctx c ts s₀ s₁ mv hl hk ho _ _ hc =>
      obtain rfl : s₁ = s := by simpa [hc.recorded.after] using hs
      subst hl
      cases hstep with
      | call _ ok =>
        obtain ⟨s₂, _, cancelled⟩ := Call.cancelled genesis run ok
          (hc.cancels ok hk hcancelled) hk
        rw [life_snoc ho]
        refine ⟨⟨l, .call ctx c ts, l'⟩, by simp, ctx, c, ts, s₂, rfl, cancelled, ?_⟩
        simpa [hc.recorded.after] using cancelled.after
    | bystander hb ho _ _ =>
      obtain ⟨hs₀, _⟩ := hstep.frame.session_back hb hs
      obtain ⟨x, hx, rest⟩ := ih s hs₀ hcancelled
      rw [life_snoc ho]
      exact ⟨x, List.mem_append_left _ hx, rest⟩

/-- Every update that the chain accepts was signed before. -/
theorem accepted_signed {rt : Runtime} {start w : World} {tr : List (Transition World (Act rt))}
    (run : Run (World.Step rt) start tr w) :
    ∀ x ∈ onChain tr, ∀ ctx c ts u, x.label = .call ctx c ts → c.update? = some u →
      u ∈ w.signed := by
  refine run.history (fun tr w => ∀ x ∈ onChain tr, ∀ ctx c ts u, x.label = .call ctx c ts →
    c.update? = some u → u ∈ w.signed) (fun x hx => by simp [onChain, project] at hx) ?_
  intro tr w act w' _ ih step x hx ctx c ts u hl hu
  cases step with
  | cosign =>
    exact List.mem_append_left _ (ih x (by simpa [onChain, project, Act.label?] using hx) ctx c ts u
      hl hu)
  | chain step signed =>
    rename_i l' label
    have hsplit : onChain (tr ++ [⟨w, .chain label, { w with ledger := l' }⟩]) =
        onChain tr ++ [⟨w.ledger, label, l'⟩] := by simp [onChain, project, Act.label?]
    rw [hsplit, List.mem_append, List.mem_singleton] at hx
    rcases hx with hx | hx
    · exact ih x hx ctx c ts u hl hu
    · subst hx
      exact signed ctx c ts u hl hu

/-- A consumer can cancel only as long as the chain has accepted no update for
the session. Then the whole deposit goes back in its own asset, out of the
session's own escrow. What the parties have signed and not submitted does not
count. -/
theorem cancelled_unused {rt : Runtime} {start : Ledger} {w : World}
    {tr : List (Transition World (Act rt))} (genesis : Genesis start)
    (run : Run (World.Step rt) ⟨start, []⟩ tr w) (k : Pubkey) :
    (∀ (ctx : TxContext) (c : Call rt) (l' : Ledger) (ts : List Transfer), c.cancels = true →
      c.session? = some k → c.exec ctx w.ledger = .ok (l', ts) →
        Unused k (onChain tr) ∧ ∃ s, Cancelled w.ledger c ts l' k s) ∧
      (∀ s, (w.ledger k).data = .session s → s.status = .cancelled →
        Unused k (onChain tr) ∧ ∃ x ∈ life k (onChain tr), ∃ ctx c ts s₀,
          x.label = .call ctx c ts ∧ Cancelled x.before c ts x.after k s₀ ∧
            s = s₀.close .cancelled) ∧
      ∀ x ∈ onChain tr, ∀ ctx c ts u, x.label = .call ctx c ts → c.update? = some u →
        u ∈ w.signed := by
  have steps := run_onChain run
  refine ⟨?_, ?_, accepted_signed run⟩
  · intro ctx c l' ts hc hk hok
    obtain ⟨s, hunused, cancelled⟩ := Call.cancelled genesis steps hok hc hk
    obtain ⟨a, ctr, htr⟩ := run_tracked genesis steps k s cancelled.before
    have hnone := htr.agree.last_none (last_positive htr.run) hunused
    exact ⟨htr.unused steps hnone, s, cancelled⟩
  · intro s hs hcancelled
    obtain ⟨a, ctr, htr⟩ := run_tracked genesis steps k s hs
    have hnone := htr.agree.cancelled hcancelled
    exact ⟨htr.unused steps hnone, run_cancelled genesis steps k s hs hcancelled⟩

section
open Localnet Transaction

/-- The parties have signed for work worth 400000 in an open session. -/
def usage : StateUpdate := update 7 1 400000 1500

def cancellation : Call Localnet.rt :=
  .cancelSession ⟨config, session 7, consumer⟩

theorem usage_signed : ∃ tr, Run (World.Step Localnet.rt) ⟨Localnet.start, []⟩ tr
    ⟨freshSession.1, [usage]⟩ := by
  have steps : Run (Step Localnet.rt) Localnet.start freshSession.2 freshSession.1 :=
    submit_run _ _
  have looks : freshSession.2.all (Event.passes · fun c => c.update?.isNone) = true := by
    decide +kernel
  have unsigned : ∀ x ∈ freshSession.2, ∀ ctx c ts u, x.label = .call ctx c ts →
      c.update? = some u → u ∈ ([] : List StateUpdate) := by
    intro x hx ctx c ts u hl hu
    have hnone := passes_of_mem looks hx hl
    simp [hu] at hnone
  obtain ⟨tr, run⟩ := run_world [] steps unsigned
  exact ⟨_, run.snoc (.cosign _ usage)⟩

/-- The consumer cancels all the same. -/
theorem cancelled_unused_signed : ∃ l' ts,
    cancellation.exec ⟨[], 0, 9⟩ freshSession.1 = .ok (l', ts) ∧
      RefundedLamports freshSession.1 l' (session 7) (opened 7 1000000 none 0) .cancelled
        1000000 := by
  obtain ⟨tr, run⟩ := usage_signed
  obtain ⟨⟨l', ts⟩, hok⟩ := exists_ok
    (by decide +kernel : (cancellation.exec ⟨[], 0, 9⟩ freshSession.1).isOk = true)
  obtain ⟨_, s, cancelled⟩ := (cancelled_unused start_genesis run (session 7)).1
    ⟨[], 0, 9⟩ cancellation l' ts rfl rfl hok
  have data : (freshSession.1 (session 7)).data = .session (opened 7 1000000 none 0) := by
    decide +kernel
  obtain rfl : opened 7 1000000 none 0 = s := by simpa [data] using cancelled.before
  exact ⟨l', ts, hok, cancelled.lamports rfl⟩

/-- Signing alone does not protect the provider. -/
theorem cancelled_despite_usage : ¬ ∀ (rt : Runtime) (start : Ledger) (w : World)
    (tr : List (Transition World (Act rt))) (k : Pubkey) (s : Session) (u : StateUpdate)
    (ctx : TxContext) (c : Call rt) (r : Effect), Genesis start →
    Run (World.Step rt) ⟨start, []⟩ tr w → (w.ledger k).data = .session s → u ∈ w.signed →
    u.domain = stateDomain → u.session = k → s.lastNonce < u.nonce → 0 < u.owedToProvider →
    u.owedToProvider ≤ s.deposited → c.cancels = true → c.session? = some k →
    c.exec ctx w.ledger ≠ .ok r := by
  intro h
  obtain ⟨tr, run⟩ := usage_signed
  obtain ⟨r, hok⟩ := exists_ok
    (by decide +kernel : (cancellation.exec ⟨[], 0, 9⟩ freshSession.1).isOk = true)
  exact h Localnet.rt Localnet.start ⟨freshSession.1, [usage]⟩ tr (session 7)
    (opened 7 1000000 none 0) usage ⟨[], 0, 9⟩ cancellation r start_genesis run (by decide +kernel)
    (by simp) rfl rfl (by decide) (by decide) (by decide) rfl rfl hok

end

end SolMesh
