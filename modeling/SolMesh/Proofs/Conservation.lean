import SolMesh.Model.Localnet
import SolMesh.Proofs.History

namespace SolMesh
open Runs

namespace Event

variable {rt : Runtime} (k : Pubkey) (x : Event rt)

/-- By how much the event lowered the balance of an account. -/
def outflow : Nat := (x.before k).lamports.toNat - (x.after k).lamports.toNat

def inflow : Nat := (x.after k).lamports.toNat - (x.before k).lamports.toNat

/-- The event's payouts for the session went from its account to its parties,
and the balances of the chain changed by exactly them. -/
structure Delivered (s : Session) : Prop where
  parties : ∀ t ∈ Event.transfers k x, t.source = k ∧ t.dest = s.payee rt.feeVault t.role
  balances : Event.transfers k x ≠ [] → ∀ y, (x.after y).lamports.toNat +
    debit y (Event.transfers k x) = (x.before y).lamports.toNat + credit y (Event.transfers k x)

end Event

theorem ConfigAt.feeVault {rt : Runtime} {l : Ledger} {cfg : Config} (hi : Inv rt l)
    (h : ConfigAt rt l cfg) : ∃ b, rt.find .feeVault = some (cfg.feeVault, b) := by
  obtain ⟨x, hx, _⟩ := h
  exact (hi.config x cfg hx).1.feeVault

/-- The receivers of a session's payouts are never the session itself. -/
theorem PaysLamports.dest_ne {rt : Runtime} {l l' : Ledger} {k : Pubkey} {s : Session}
    {ts : List Transfer} (h : PaysLamports rt l l' k s ts) (hi : Inv rt l)
    (hs : (l k).data = .session s) :
    ∀ t ∈ ts, t.dest = s.payee rt.feeVault t.role ∧ t.dest ≠ k := by
  intro t ht
  obtain ⟨cfg, hcfg, hdest⟩ := h.dest
  obtain ⟨b, hb⟩ := hcfg.feeVault hi
  have hok := hi.session k s hs
  have hpda := Runtime.isPda_of_find hok.address
  have hd : t.dest = s.payee rt.feeVault t.role := by
    rw [Runtime.feeVault_of_find hb]
    exact hdest t ht
  refine ⟨hd, ?_⟩
  rw [hd, Runtime.feeVault_of_find hb]
  exact hi.payee_ne hs hpda (rt.session_ne_feeVault hok.address hb) t.role

/-- A session's account pays out exactly what its instruction paid. -/
theorem PaysLamports.balance {rt : Runtime} {l l' : Ledger} {k : Pubkey} {s : Session}
    {ts : List Transfer} (h : PaysLamports rt l l' k s ts) (hi : Inv rt l)
    (hs : (l k).data = .session s) :
    (l' k).lamports.toNat + earnings ts + received .consumer ts = (l k).lamports.toNat := by
  have hbal := h.lamports k
  rw [debit_source fun t ht => (h.source t ht).2,
    credit_eq_zero fun t ht he => absurd he.symm (h.dest_ne hi hs t ht).2] at hbal
  omega

/-- The lamports of a session's account over its life. -/
structure LamportTrail (rt : Runtime) (k : Pubkey) (tr : History rt) (l : Ledger) (s : Session) :
    Prop where
  delivered : ∀ x ∈ life k tr, Event.Delivered k x s
  outflow : total (Event.outflow k) (life k tr) =
    earned k (life k tr) + paidTo k .consumer (life k tr)
  balance : ∃ opening, latest (Event.opens k) tr = some opening ∧
    (l k).lamports.toNat + total (Event.outflow k) (life k tr) =
      max (rt.minimumBalance Session.space).toNat (opening.before k).lamports.toNat +
        s.deposited.toNat + total (Event.inflow k) (life k tr)

theorem Event.Delivered.of_terms {rt : Runtime} {k : Pubkey} {x : Event rt} {s s' : Session}
    (h : Event.Delivered k x s) (ht : s.SameTerms s') : Event.Delivered k x s' := by
  refine ⟨fun t hm => ?_, h.balances⟩
  obtain ⟨hs, hd⟩ := h.parties t hm
  refine ⟨hs, hd.trans ?_⟩
  cases t.role <;> simp [Session.payee, ht.provider, ht.consumer]

theorem LamportTrail.opening {rt : Runtime} {k : Pubkey} {tr : History rt} {l : Ledger}
    {label : Label rt} {l' : Ledger} {s : Session}
    (ho : Event.opens k ⟨l, label, l'⟩ = true) (h : OpenedSol rt l l' k s) :
    LamportTrail rt k (tr ++ [⟨l, label, l'⟩]) l' s := by
  have hl : life k (tr ++ [⟨l, label, l'⟩]) = [] := life_opening ho
  refine ⟨by simp [hl], by rw [hl]; rfl, ⟨l, label, l'⟩, by simp [ho], ?_⟩
  rw [hl]
  exact h.funded

theorem LamportTrail.call {rt : Runtime} {k : Pubkey} {tr : History rt} {l l' : Ledger}
    {label : Label rt} {ctx : TxContext} {c : Call rt} {ts : List Transfer} {s s' : Session}
    {mv : SessionMove} (h : LamportTrail rt k tr l s) (hi : Inv rt l) (hm : s.mint = none)
    (ho : Event.opens k ⟨l, label, l'⟩ = false)
    (ht : Event.transfers k ⟨l, label, l'⟩ = ts)
    (hc : SessionCall rt ctx c l l' ts k s s' mv) :
    LamportTrail rt k (tr ++ [⟨l, label, l'⟩]) l' s' := by
  have hv : c.vaultToken? = none := by
    cases hv : c.vaultToken? with
    | none => rfl
    | some v => exact absurd hm (hc.inTokens v hv).1
  obtain ⟨_, hp⟩ := hc.inLamports hv
  have hs := hc.recorded.before
  have hbal := hp.balance hi hs
  have hlife : life k (tr ++ [⟨l, label, l'⟩]) = life k tr ++ [⟨l, label, l'⟩] := life_snoc ho
  have hout : Event.outflow k (⟨l, label, l'⟩ : Event rt) =
      earnings ts + received .consumer ts := by
    simp only [Event.outflow]
    omega
  have hin : Event.inflow k (⟨l, label, l'⟩ : Event rt) = 0 := by
    simp only [Event.inflow]
    omega
  have hflow := h.outflow
  obtain ⟨opening, hlast, hb⟩ := h.balance
  refine ⟨?_, ?_, opening, by simp [ho, hlast], ?_⟩
  · rw [hlife]
    refine forall_mem_snoc (fun x hx => (h.delivered x hx).of_terms hc.step.terms) ?_
    refine Event.Delivered.of_terms ⟨fun t hmem => ?_, fun _ => ?_⟩ hc.step.terms
    · rw [ht] at hmem
      exact ⟨(hp.source t hmem).2, (hp.dest_ne hi hs t hmem).1⟩
    · rw [ht]
      exact hp.lamports
  · rw [hlife, total_snoc, hout]
    simp only [earned, paidTo, total_snoc, ht] at hflow ⊢
    omega
  · rw [hlife, total_snoc, total_snoc, hout, hin, hc.step.terms.deposited]
    omega

theorem LamportTrail.bystander {rt : Runtime} {k : Pubkey} {tr : History rt} {l l' : Ledger}
    {label : Label rt} {s : Session} (h : LamportTrail rt k tr l s)
    (ho : Event.opens k ⟨l, label, l'⟩ = false) (ht : Event.transfers k ⟨l, label, l'⟩ = [])
    (hlam : (l k).lamports.toNat ≤ (l' k).lamports.toNat) :
    LamportTrail rt k (tr ++ [⟨l, label, l'⟩]) l' s := by
  have hlife : life k (tr ++ [⟨l, label, l'⟩]) = life k tr ++ [⟨l, label, l'⟩] := life_snoc ho
  have hout : Event.outflow k (⟨l, label, l'⟩ : Event rt) = 0 := by
    simp only [Event.outflow]
    omega
  have hin : Event.inflow k (⟨l, label, l'⟩ : Event rt) =
      (l' k).lamports.toNat - (l k).lamports.toNat := rfl
  have hflow := h.outflow
  obtain ⟨opening, hlast, hb⟩ := h.balance
  refine ⟨?_, ?_, opening, by simp [ho, hlast], ?_⟩
  · rw [hlife]
    exact forall_mem_snoc h.delivered ⟨by simp [ht], fun hne => absurd ht hne⟩
  · rw [hlife, total_snoc, hout]
    simpa [earned, paidTo, ht] using hflow
  · rw [hlife, total_snoc, total_snoc, hout, hin]
    omega

theorem run_lamports {rt : Runtime} {start l : Ledger} {tr : History rt}
    (genesis : Genesis start) (run : Run (Step rt) start tr l) (k : Pubkey) :
    ∀ s, (l k).data = .session s → s.mint = none → LamportTrail rt k tr l s := by
  refine run.history (fun tr l => ∀ s, (l k).data = .session s → s.mint = none →
    LamportTrail rt k tr l s) (fun s hs => ?_) ?_
  · exact absurd hs genesis.no_session
  · intro tr l label l' run ih hstep s hs hm
    have hi := run_inv genesis run
    cases hstep.session_event k with
    | opening s₁ ho ht hopened =>
      rcases hopened with h | ⟨m, h⟩
      · obtain rfl : s₁ = s := by simpa [h.after] using hs
        exact .opening ho h
      · obtain rfl : s₁ = s := by simpa [h.after] using hs
        simp [h.mint] at hm
    | call ctx c ts s₀ s₁ mv hl hk ho ht hmv hc =>
      obtain rfl : s₁ = s := by simpa [hc.recorded.after] using hs
      have hm₀ : s₀.mint = none := hc.step.terms.mint ▸ hm
      exact (ih s₀ hc.recorded.before hm₀).call hi hm₀ ho ht hc
    | bystander hb ho ht hmv =>
      obtain ⟨hs₀, hlam⟩ := hstep.frame.session_back hb hs
      exact (ih s hs₀ hm).bystander ho ht hlam

theorem SessionStatus.phase_closed (st : SessionStatus) :
    st.phase = .closed ↔ st.terminal = true := by
  cases st <;> simp [SessionStatus.phase, SessionStatus.terminal]

/-- The books of a session that holds lamports: what has left its account is
what is settled, split between provider and fee vault, until an exit returns
the rest of the deposit to the consumer. -/
theorem sol_session_conserved {rt : Runtime} {start l : Ledger} {tr : History rt}
    (genesis : Genesis start) (run : Run (Step rt) start tr l) (k : Pubkey) (s : Session)
    (hs : (l k).data = .session s) (hm : s.mint = none) :
    (∀ x ∈ life k tr, Event.Delivered k x s) ∧
      total (Event.outflow k) (life k tr) = paidTo k .provider (life k tr) +
        paidTo k .fee (life k tr) + paidTo k .consumer (life k tr) ∧
      (s.status = .open ∨ s.status = .closing →
        paidTo k .provider (life k tr) + paidTo k .fee (life k tr) =
          s.settledToProvider.toNat ∧ paidTo k .consumer (life k tr) = 0) ∧
      (s.status = .settled ∨ s.status = .cancelled ∨ s.status = .expired →
        paidTo k .provider (life k tr) + paidTo k .fee (life k tr) +
          paidTo k .consumer (life k tr) = s.deposited.toNat) ∧
      ∃ opening, latest (Event.opens k) tr = some opening ∧
        (l k).lamports.toNat + total (Event.outflow k) (life k tr) =
          max (rt.minimumBalance Session.space).toNat (opening.before k).lamports.toNat +
            s.deposited.toNat + total (Event.inflow k) (life k tr) := by
  obtain ⟨a, ctr, htr⟩ := run_tracked genesis run k s hs
  have trail := run_lamports genesis run k s hs hm
  have books := Channel.run_conserved htr.run
  have hearned := htr.earned
  have hrefunded := htr.refunded
  have hout := trail.outflow
  rw [earned_eq] at hearned hout
  refine ⟨trail.delivered, hout, fun ha => ?_, fun hd => ?_, trail.balance⟩
  · have hlive : a.phase ≠ .closed := by
      rw [htr.agree.phase]
      rcases ha with h | h <;> simp [h, SessionStatus.phase]
    have hpay := books.payouts
    have hzero := books.live hlive
    have hsettled := htr.agree.settled
    omega
  · have hclosed : a.phase = .closed := by
      rw [htr.agree.phase]
      rcases hd with h | h | h <;> simp [h, SessionStatus.phase]
    have hall := books.closed hclosed
    omega

section
open Localnet Transaction

/-- A checkpoint, a fee change, and a second update that is disputed and paid. -/
def disputedSession : Ledger × History Localnet.rt :=
  submit Localnet.start (deploy ++ [openSol 7 1000000,
    cosigned 5 (update 7 1 300001 1000)
      (.checkpointSettle (settleAccounts 7) (update 7 1 300001 1000)),
    submitted 6 (.updateConfig ⟨config, authority⟩ (some 777) none),
    cosigned 7 (update 7 2 400000 1500)
      (.initiateUnilateralClose (closeAccounts 7 provider) (update 7 2 400000 1500)),
    submitted 11 (.finalizeClose (finalizeAccounts 7))])

theorem sol_session_conserved_disputed :
    paidTo (session 7) .provider (life (session 7) disputedSession.2) +
      paidTo (session 7) .fee (life (session 7) disputedSession.2) +
      paidTo (session 7) .consumer (life (session 7) disputedSession.2) = 1000000 := by
  have run : Run (Step rt) Localnet.start disputedSession.2 disputedSession.1 := submit_run _ _
  have books := sol_session_conserved start_genesis run (session 7)
    { opened 7 1000000 none 0 with
      settledToProvider := 400000, lastNonce := 2, pendingPayout := 400000, pendingUnits := 1500
      status := .settled, challengeDeadline := 10 } (by decide +kernel) rfl
  exact books.2.2.2.1 (.inl rfl)

end

end SolMesh
