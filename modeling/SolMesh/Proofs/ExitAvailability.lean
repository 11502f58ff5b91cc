import SolMesh.Proofs.Conservation
import SolMesh.Proofs.DisputeExit
import SolMesh.Proofs.Progress

namespace SolMesh
open Outcome Words Runs

/-- The consumer cancels with the session's own accounts, and can receive. -/
structure CancelSession.Own {rt : Runtime} (l : Ledger) (k : Pubkey) (s : Session)
    (a : CancelSession rt) : Prop where
  config : ∃ cfg, (l a.config).data = .config cfg
  session : a.session = k
  consumer : a.consumer.key = s.consumer
  room : (l s.consumer).lamports.toNat + s.unsettled < 2 ^ 64

/-- Anybody expires the session with its own accounts, and its consumer can
receive. -/
structure ExpireSession.Own {rt : Runtime} (l : Ledger) (k : Pubkey) (s : Session)
    (a : ExpireSession rt) : Prop where
  config : ∃ cfg, (l a.config).data = .config cfg
  session : a.session = k
  consumer : a.consumer = s.consumer
  room : (l s.consumer).lamports.toNat + s.unsettled < 2 ^ 64

/-- The exits in tokens with the session's own accounts and its vault, into an
account of the consumer that can receive. -/
structure LifecycleSpl.Own {rt : Runtime} (l : Ledger) (k m : Pubkey) (s : Session)
    (a : LifecycleSpl rt) : Prop where
  config : ∃ cfg, (l a.config).data = .config cfg
  session : a.session = k
  consumer : a.consumer = s.consumer
  vaultAuthority : a.vaultAuthority = rt.vaultAuthority k
  vaultToken : a.vaultToken = rt.vaultAta k m
  receiver : OwnedBy l a.consumerToken s.consumer ∧ TakesTokens l a.consumerToken m s.unsettled

/-- The session ended with a refund of `n` lamports, and nothing else changed. -/
structure RefundedLamports (l l' : Ledger) (k : Pubkey) (s : Session) (status : SessionStatus)
    (n : Nat) : Prop where
  record : (l' k).data = .session (s.close status)
  escrow : (l' k).lamports.toNat + n = (l k).lamports.toNat
  consumer : (l' s.consumer).lamports.toNat = (l s.consumer).lamports.toNat + n
  rest : ∀ x, x ≠ k → x ≠ s.consumer → l' x = l x

/-- The session ended with a refund of `n` tokens out of vault `v` to account
`x`, and nothing else changed. -/
structure RefundedTokens (l l' : Ledger) (k v x : Pubkey) (s : Session) (status : SessionStatus)
    (n : Nat) : Prop where
  record : (l' k).data = .session (s.close status)
  escrow : l'.tokens v + n = l.tokens v
  consumer : l'.tokens x = l.tokens x + n
  rest : ∀ y, y ≠ k → y ≠ v → y ≠ x → l' y = l y

theorem refundConsumer_refunds {l l' : Ledger} {s : Session} {k : Pubkey}
    {status : SessionStatus} {ts : List Transfer} (hne : s.consumer ≠ k)
    (h : refundConsumer l s k s.consumer status = .ok (l', ts)) :
    RefundedLamports l l' k s status (s.deposited.toNat - s.settledToProvider.toNat) := by
  obtain ⟨rem, mid, hrem, rfl, hpaid, rfl⟩ := refundConsumer_ok.mp h
  have hr := checkedSub_some.mp hrem
  have hm := hpaid.moves
  have he : rem.toNat = s.deposited.toNat - s.settledToProvider.toNat := by omega
  rw [← he]
  refine ⟨by simp, ?_, ?_, fun x hk hx => ?_⟩
  · have hbal := hm.lamports k
    simp only [debit_cons, credit_cons, debit_nil, credit_nil, if_true, Ne.symm hne, if_false]
      at hbal
    rw [Ledger.setData_lamports]
    omega
  · have hbal := hm.lamports s.consumer
    simp only [debit_cons, credit_cons, debit_nil, credit_nil, if_true, hne, if_false] at hbal
    rw [Ledger.setData_lamports]
    omega
  · have hbal := hm.lamports x
    simp only [debit_cons, credit_cons, debit_nil, credit_nil, hk, hx, if_false] at hbal
    apply account_ext
    · rw [Ledger.setData_lamports]
      omega
    · rw [Ledger.setData_data, if_neg hk, hm.data]

theorem refundConsumerSpl_refunds {rt : Runtime} {l l' : Ledger} {a : LifecycleSpl rt} {s : Session}
    {status : SessionStatus} {ts : List Transfer} {v x : TokenAccount}
    (hs : (l a.session).data = .session s) (hv : (l a.vaultToken).data = .token v)
    (hx : (l a.consumerToken).data = .token x) (hne : a.consumerToken ≠ a.vaultToken)
    (h : refundConsumerSpl rt l a s status = .ok (l', ts)) :
    RefundedTokens l l' a.session a.vaultToken a.consumerToken s status
      (s.deposited.toNat - s.settledToProvider.toNat) := by
  obtain ⟨rem, mid, hrem, rfl, hpaid, rfl⟩ := refundConsumerSpl_ok.mp h
  have hr := checkedSub_some.mp hrem
  have hm := hpaid.moves
  have he : rem.toNat = s.deposited.toNat - s.settledToProvider.toNat := by omega
  rw [← he]
  refine ⟨by simp, ?_, ?_, fun y hk hyv hyx => ?_⟩
  · obtain ⟨t, ht, _, _, hbal⟩ := hm.token _ v hv
    simp only [debit_cons, credit_cons, debit_nil, credit_nil, if_true, Ne.symm hne, if_false]
      at hbal
    rw [Ledger.tokens_of_data hv, Ledger.tokens_of_data ((token_of_record hs hv).trans ht)]
    omega
  · obtain ⟨t, ht, _, _, hbal⟩ := hm.token _ x hx
    simp only [debit_cons, credit_cons, debit_nil, credit_nil, if_true, hne, if_false] at hbal
    rw [Ledger.tokens_of_data hx, Ledger.tokens_of_data ((token_of_record hs hx).trans ht)]
    omega
  · apply account_ext
    · rw [Ledger.setData_lamports, hm.lamports]
    · rw [Ledger.setData_data, if_neg hk]
      by_cases htok : ∃ t, (l y).data = .token t
      · obtain ⟨t, ht⟩ := htok
        obtain ⟨t', ht', hmint, howner, hbal⟩ := hm.token y t ht
        simp only [debit_cons, credit_cons, debit_nil, credit_nil, hyv, hyx, if_false] at hbal
        have hamount : t'.amount = t.amount := UInt64.toNat_inj.mp (by omega)
        rw [ht', ht, TokenAccount.ext hmint howner hamount]
      · exact hm.data y fun t ht => htok ⟨t, ht⟩

/-- What a session that is open in a reachable ledger can rely on. -/
structure IsOpen (rt : Runtime) (l : Ledger) (k : Pubkey) (s : Session) : Prop where
  inv : Inv rt l
  data : (l k).data = .session s
  status : s.status = .open

namespace IsOpen

variable {rt : Runtime} {l : Ledger} {k m : Pubkey} {s : Session}

theorem ok (h : IsOpen rt l k s) : SessionOk rt l k s := h.inv.session k s h.data

theorem escrowed (h : IsOpen rt l k s) : Escrowed rt l k s :=
  h.ok.escrow (by simp [h.status, SessionStatus.terminal])

theorem consumer_ne (h : IsOpen rt l k s) : s.consumer ≠ k := by
  intro he
  exact h.ok.consumer (he ▸ Runtime.isPda_of_find h.ok.address)

theorem loaded (h : IsOpen rt l k s) {config : Pubkey} (hc : ∃ cfg, (l config).data = .config cfg) :
    ∃ cfg, SessionLoaded rt l config k cfg s := by
  obtain ⟨cfg, hc⟩ := hc
  exact ⟨cfg, hc, create_of_find (h.inv.config _ cfg hc).1.address, h.data,
    create_of_find h.ok.address⟩

theorem refund_amount (h : IsOpen rt l k s) :
    ∃ rem, checkedSub s.deposited s.settledToProvider = some rem ∧ rem.toNat = s.unsettled := by
  obtain ⟨rem, hrem⟩ := checkedSub_exists h.ok.settled
  have hr := checkedSub_some.mp hrem
  refine ⟨rem, hrem, ?_⟩
  simp only [Session.unsettled]
  omega

/-- The refund out of a session's own account never fails. -/
theorem refund_exists (h : IsOpen rt l k s) (hm : s.mint = none) (status : SessionStatus)
    (room : (l s.consumer).lamports.toNat + s.unsettled < 2 ^ 64) :
    ∃ l' ts, refundConsumer l s k s.consumer status = .ok (l', ts) ∧
      RefundedLamports l l' k s status (s.deposited.toNat - s.settledToProvider.toNat) := by
  obtain ⟨rem, hrem, he⟩ := h.refund_amount
  have cover := h.escrowed.lamports hm
  have hne := h.consumer_ne
  obtain ⟨mid, hpaid⟩ : ∃ mid, LamportsPaid l [⟨k, .consumer, k, s.consumer, rem⟩] mid := by
    obtain ⟨mid, h₁⟩ := pdaTransferLamports_exists (Ne.symm hne)
      (show rem.toNat ≤ (l k).lamports.toNat by omega)
      (show (l s.consumer).lamports.toNat + rem.toNat < 2 ^ 64 by omega)
    exact ⟨mid, .cons h₁ (.nil mid)⟩
  have hok : refundConsumer l s k s.consumer status = .ok _ :=
    refundConsumer_ok.mpr ⟨rem, mid, hrem, rfl, hpaid, rfl⟩
  exact ⟨_, _, hok, refundConsumer_refunds hne hok⟩

theorem own_loaded (h : IsOpen rt l k s) (hm : s.mint = some m) {a : LifecycleSpl rt}
    (own : a.Own l k m s) : a.load rt l = .ok s := by
  obtain ⟨hconfig, hsession, hconsumer, hauthority, hvault, ⟨t, ht, hto⟩, _⟩ := own
  obtain ⟨_, v, hv, _⟩ := h.escrowed.vault m hm
  refine LifecycleSpl.load_ok.mpr ⟨hsession ▸ h.loaded hconfig, hconsumer.symm, ⟨s.vaultBump, ?_⟩,
    ⟨v, hvault ▸ hv⟩, t, ht, hto.trans hconsumer.symm⟩
  rw [hsession, hauthority]
  exact h.escrowed.authority m hm

/-- Nor does the refund out of its vault. -/
theorem refundSpl_exists (h : IsOpen rt l k s) (hm : s.mint = some m) (status : SessionStatus)
    {a : LifecycleSpl rt} (own : a.Own l k m s) :
    ∃ l' ts, refundConsumerSpl rt l a s status = .ok (l', ts) ∧
      RefundedTokens l l' k (rt.vaultAta k m) a.consumerToken s status
        (s.deposited.toNat - s.settledToProvider.toNat) := by
  obtain ⟨⟨x, hx, hxo⟩, x', hx', hxm, room⟩ := own.receiver
  obtain rfl : x = x' := by simpa [hx] using hx'
  obtain ⟨_, v, hv, hvm, hvo, cover⟩ := h.escrowed.vault m hm
  have hauth := h.escrowed.authority m hm
  obtain ⟨rem, hrem, he⟩ := h.refund_amount
  have hv' : (l a.vaultToken).data = .token v := own.vaultToken ▸ hv
  -- the consumer is a wallet, and the vault belongs to a derived address
  have hne : a.consumerToken ≠ a.vaultToken := by
    intro heq
    obtain rfl : v = x := by simpa [← heq, hx] using hv'.symm
    exact h.ok.consumer (hxo ▸ hvo ▸ Runtime.isPda_of_find hauth)
  obtain ⟨mid, h₁⟩ := transferFromVault_exists
    (show rt.createProgramAddress (.vault a.session) s.vaultBump = some a.vaultAuthority by
      rw [own.session, own.vaultAuthority]
      exact create_of_find hauth) hv' hx (hvm.trans hxm.symm)
    (hvo.trans own.vaultAuthority.symm) (show rem.toNat ≤ v.amount.toNat by omega)
    (show x.amount.toNat + rem.toNat < 2 ^ 64 by omega)
  obtain ⟨l', ts, hok⟩ : ∃ l' ts, refundConsumerSpl rt l a s status = .ok (l', ts) :=
    ⟨_, _, refundConsumerSpl_ok.mpr ⟨rem, mid, hrem, rfl, .cons h₁ (.nil mid), rfl⟩⟩
  have hdata : (l a.session).data = .session s := own.session ▸ h.data
  have hrefund := refundConsumerSpl_refunds hdata hv' hx hne hok
  rw [own.session, own.vaultToken] at hrefund
  exact ⟨_, _, hok, hrefund⟩

theorem expire (h : IsOpen rt l k s) (hm : s.mint = none) (ctx : TxContext) {a : ExpireSession rt}
    (own : a.Own l k s) :
    (s.expiry < ctx.unixTimestamp → ∃ l' ts, expireHandler rt ctx l a = .ok (l', ts) ∧
      RefundedLamports l l' k s .expired (s.deposited.toNat - s.settledToProvider.toNat)) ∧
      (¬ s.expiry < ctx.unixTimestamp →
        expireHandler rt ctx l a = .error (.custom .sessionNotExpired)) := by
  obtain ⟨hconfig, hsession, hconsumer, room⟩ := own
  have hload : a.load rt l = .ok s :=
    ExpireSession.load_ok.mpr ⟨hsession ▸ h.loaded hconfig, hconsumer.symm⟩
  constructor
  · intro late
    obtain ⟨l', ts, hok, hrefund⟩ := h.refund_exists hm .expired room
    refine ⟨l', ts, expireHandler_ok.mpr ⟨s, hload, h.status, late, ?_⟩, hrefund⟩
    rw [hsession, hconsumer]
    exact hok
  · intro early
    simp [expireHandler, hload, h.status, early, require, bind, Except.bind]

theorem cancel (h : IsOpen rt l k s) (hm : s.mint = none) {a : CancelSession rt}
    (own : a.Own l k s) :
    (s.lastNonce = 0 → ∃ l' ts, cancelHandler rt l a = .ok (l', ts) ∧
      RefundedLamports l l' k s .cancelled (s.deposited.toNat - s.settledToProvider.toNat)) ∧
      (s.lastNonce ≠ 0 → cancelHandler rt l a = .error (.custom .sessionHasUsage)) := by
  obtain ⟨hconfig, hsession, hconsumer, room⟩ := own
  have hload : a.load rt l = .ok s :=
    CancelSession.load_ok.mpr ⟨hsession ▸ h.loaded hconfig, hconsumer.symm⟩
  constructor
  · intro unused
    obtain ⟨l', ts, hok, hrefund⟩ := h.refund_exists hm .cancelled room
    refine ⟨l', ts, cancelHandler_ok.mpr ⟨s, hload, h.status, unused, ?_⟩, hrefund⟩
    rw [hsession, hconsumer]
    exact hok
  · intro used
    simp [cancelHandler, hload, h.status, used, require, bind, Except.bind]

theorem expireSpl (h : IsOpen rt l k s) (hm : s.mint = some m) (ctx : TxContext)
    {a : LifecycleSpl rt} (own : a.Own l k m s) :
    (s.expiry < ctx.unixTimestamp → ∃ l' ts, expireSessionSplHandler rt ctx l a = .ok (l', ts) ∧
      RefundedTokens l l' k (rt.vaultAta k m) a.consumerToken s .expired
        (s.deposited.toNat - s.settledToProvider.toNat)) ∧
      (¬ s.expiry < ctx.unixTimestamp →
        expireSessionSplHandler rt ctx l a = .error (.custom .sessionNotExpired)) := by
  have hload := h.own_loaded hm own
  constructor
  · intro late
    obtain ⟨l', ts, hok, hrefund⟩ := h.refundSpl_exists hm .expired own
    exact ⟨l', ts, expireSessionSplHandler_ok.mpr ⟨s, hload, h.status, by simp [hm], late, hok⟩,
      hrefund⟩
  · intro early
    simp [expireSessionSplHandler, hload, h.status, hm, early, require, bind, Except.bind]

theorem cancelSpl (h : IsOpen rt l k s) (hm : s.mint = some m) {a : LifecycleSpl rt}
    (own : a.Own l k m s) (hsigner : a.signer.key = s.consumer) :
    (s.lastNonce = 0 → ∃ l' ts, cancelSessionSplHandler rt l a = .ok (l', ts) ∧
      RefundedTokens l l' k (rt.vaultAta k m) a.consumerToken s .cancelled
        (s.deposited.toNat - s.settledToProvider.toNat)) ∧
      (s.lastNonce ≠ 0 →
        cancelSessionSplHandler rt l a = .error (.custom .sessionHasUsage)) := by
  have hload := h.own_loaded hm own
  constructor
  · intro unused
    obtain ⟨l', ts, hok, hrefund⟩ := h.refundSpl_exists hm .cancelled own
    exact ⟨l', ts, cancelSessionSplHandler_ok.mpr ⟨s, hload, h.status, by simp [hm], unused,
      hsigner, hok⟩, hrefund⟩
  · intro used
    simp [cancelSessionSplHandler, hload, h.status, hm, used, require, bind, Except.bind]

end IsOpen

/-- A session that has accepted nothing has paid nothing. -/
theorem settled_zero_of_unused {rt : Runtime} {start l : Ledger} {tr : History rt}
    (genesis : Genesis start) (run : Run (Step rt) start tr l) {k : Pubkey} {s : Session}
    (hs : (l k).data = .session s) (unused : s.lastNonce = 0) :
    s.settledToProvider.toNat = 0 := by
  obtain ⟨a, ctr, htr⟩ := run_tracked genesis run k s hs
  have hnone := htr.agree.last_none (last_positive htr.run) unused
  have hdue := Channel.State.due_none hnone
  have hle := (Channel.run_valid htr.run).settled_le
  have hsettled := htr.agree.settled
  omega

/-- Whatever has happened, an open session can be left over its own accounts.
After its expiry anybody can return what is unsettled, and as long as nothing
has been accepted its consumer can take back the whole deposit. Before that
these instructions are refused for that reason and no other. -/
theorem open_session_exits {rt : Runtime} {start l : Ledger} {tr : History rt}
    (genesis : Genesis start) (run : Run (Step rt) start tr l) (k : Pubkey) (s : Session)
    (hs : (l k).data = .session s) (hopen : s.status = .open) (ctx : TxContext) :
    (s.mint = none →
      (∀ a : ExpireSession rt, a.Own l k s →
        (s.expiry < ctx.unixTimestamp → ∃ l' ts,
          (Call.expireSession a).exec ctx l = .ok (l', ts) ∧
          RefundedLamports l l' k s .expired (s.deposited.toNat - s.settledToProvider.toNat)) ∧
        (¬ s.expiry < ctx.unixTimestamp →
          (Call.expireSession a).exec ctx l = .error (.custom .sessionNotExpired))) ∧
      ∀ a : CancelSession rt, a.Own l k s →
        (s.lastNonce = 0 → ∃ l' ts, (Call.cancelSession a).exec ctx l = .ok (l', ts) ∧
          RefundedLamports l l' k s .cancelled s.deposited.toNat) ∧
        (s.lastNonce ≠ 0 →
          (Call.cancelSession a).exec ctx l = .error (.custom .sessionHasUsage))) ∧
    ∀ m, s.mint = some m → ∀ a : LifecycleSpl rt, a.Own l k m s →
      ((s.expiry < ctx.unixTimestamp → ∃ l' ts,
          (Call.expireSessionSpl a).exec ctx l = .ok (l', ts) ∧
          RefundedTokens l l' k (rt.vaultAta k m) a.consumerToken s .expired
            (s.deposited.toNat - s.settledToProvider.toNat)) ∧
        (¬ s.expiry < ctx.unixTimestamp →
          (Call.expireSessionSpl a).exec ctx l = .error (.custom .sessionNotExpired))) ∧
      (a.signer.key = s.consumer →
        (s.lastNonce = 0 → ∃ l' ts, (Call.cancelSessionSpl a).exec ctx l = .ok (l', ts) ∧
          RefundedTokens l l' k (rt.vaultAta k m) a.consumerToken s .cancelled
            s.deposited.toNat) ∧
        (s.lastNonce ≠ 0 →
          (Call.cancelSessionSpl a).exec ctx l = .error (.custom .sessionHasUsage))) := by
  have h : IsOpen rt l k s := ⟨run_inv genesis run, hs, hopen⟩
  have whole : s.lastNonce = 0 →
      s.deposited.toNat - s.settledToProvider.toNat = s.deposited.toNat := by
    intro unused
    have := settled_zero_of_unused genesis run hs unused
    omega
  refine ⟨fun hm => ⟨fun a own => h.expire hm ctx own, fun a own => ?_⟩,
    fun m hm a own => ⟨h.expireSpl hm ctx own, fun hsigner => ?_⟩⟩
  · obtain ⟨succeeds, refused⟩ := h.cancel hm own
    exact ⟨fun unused => whole unused ▸ succeeds unused, refused⟩
  · obtain ⟨succeeds, refused⟩ := h.cancelSpl hm own hsigner
    exact ⟨fun unused => whole unused ▸ succeeds unused, refused⟩

section
open Localnet Transaction

/-- A program that was paused after two sessions were opened. -/
def pausedSessions : Ledger × History Localnet.rt :=
  submit Localnet.start (deploy ++ [openSol 7 1000000, openSpl 8 500000,
    submitted 1 (.setPaused ⟨config, authority⟩ true)])

theorem open_session_exits_paused :
    (∃ l' ts, (Call.cancelSession ⟨config, session 7, consumer⟩).exec ⟨[], 0, 9⟩
        pausedSessions.1 = .ok (l', ts) ∧
      RefundedLamports pausedSessions.1 l' (session 7) (opened 7 1000000 none 0) .cancelled
        1000000) ∧
    ∃ l' ts, (Call.expireSessionSpl ⟨config, session 8, 3, vaultAuthority 8, vaultToken 8,
        consumerToken, stranger⟩).exec ⟨[], 0, 61⟩ pausedSessions.1 = .ok (l', ts) ∧
      RefundedTokens pausedSessions.1 l' (session 8) (vaultToken 8) consumerToken
        (opened 8 500000 (some mint) 255) .expired 500000 := by
  have run : Run (Step Localnet.rt) Localnet.start pausedSessions.2 pausedSessions.1 :=
    submit_run _ _
  have hc : ∃ cfg, (pausedSessions.1 config).data = .config cfg :=
    ⟨{ deployedConfig with paused := true }, by decide +kernel⟩
  have hx : (pausedSessions.1 consumerToken).data = .token ⟨mint, 3, 999500000⟩ := by
    decide +kernel
  constructor
  · refine (((open_session_exits start_genesis run (session 7) (opened 7 1000000 none 0)
      (by decide +kernel) rfl ⟨[], 0, 9⟩).1 rfl).2 ⟨config, session 7, consumer⟩
        ⟨hc, rfl, rfl, ?_⟩).1 rfl
    decide +kernel
  · refine ((open_session_exits start_genesis run (session 8) (opened 8 500000 (some mint) 255)
      (by decide +kernel) rfl ⟨[], 0, 61⟩).2 mint rfl ⟨config, session 8, 3, vaultAuthority 8,
        vaultToken 8, consumerToken, stranger⟩ ⟨hc, rfl, rfl, ?_, ?_, ⟨_, hx, rfl⟩,
          _, hx, rfl, by decide⟩).1.1 (by decide)
    · decide +kernel
    · decide +kernel

end

end SolMesh
