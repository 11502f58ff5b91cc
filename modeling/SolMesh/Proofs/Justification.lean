import SolMesh.Proofs.Conservation
import SolMesh.Proofs.Lifecycle

namespace SolMesh
open Outcome Runs

/-- Whoever has an update accepted has it checked against the session's record. -/
theorem Call.verified_of_ok {rt : Runtime} {ctx : TxContext} {c : Call rt} {l : Ledger}
    {r : Effect} {k : Pubkey} {u : StateUpdate} (h : c.exec ctx l = .ok r)
    (hk : c.session? = some k) (hu : c.update? = some u) :
    ∃ s, (l k).data = .session s ∧ verifyCosignedState ctx s k u = .ok () := by
  obtain ⟨l', ts⟩ := r
  cases c with
  | checkpointSettle a v | settleSession a v =>
    obtain ⟨_, _, s, _, _, _, _, _, _, hload, _, _, _, hverify, _⟩ := applyState_ok.mp h
    cases hk
    cases hu
    exact ⟨s, (Settle.load_ok.mp hload).1.sessionData, hverify⟩
  | checkpointSettleSpl a v | settleSessionSpl a v =>
    obtain ⟨_, _, s, _, _, _, _, _, _, hload, _, _, _, hverify, _⟩ := applyStateSpl_ok.mp h
    cases hk
    cases hu
    exact ⟨s, (SettleSpl.load_ok.mp hload).1.sessionData, hverify⟩
  | initiateUnilateralClose a v =>
    obtain ⟨_, s, _, hload, _, _, _, hverify, _⟩ := initiateHandler_ok.mp h
    cases hk
    cases hu
    exact ⟨s, (UnilateralClose.load_ok.mp hload).1.sessionData, hverify⟩
  | challenge a v =>
    obtain ⟨_, s, hload, _, _, _, hverify, _⟩ := challengeHandler_ok.mp h
    cases hk
    cases hu
    exact ⟨s, (UnilateralClose.load_ok.mp hload).1.sessionData, hverify⟩
  | _ => simp [Call.update?] at hu

/-- An update that an event accepted is that of its call. -/
theorem Event.update_some {rt : Runtime} {k : Pubkey} {x : Event rt} {u : StateUpdate}
    (h : x.update k = some u) : ∃ ctx c ts, x.label = .call ctx c ts ∧ c.session? = some k ∧
      c.update? = some u := by
  obtain ⟨before, label, after⟩ := x
  cases label with
  | external | commit => contradiction
  | call ctx c ts =>
    simp only [Event.update] at h
    split at h
    · rename_i hk
      exact ⟨ctx, c, ts, rfl, hk, h⟩
    · contradiction

/-- The event is a call for the session with this update, in a transaction that
presents both parties' signatures over it. -/
def Event.Cosigned {rt : Runtime} (k : Pubkey) (s : Session) (u : StateUpdate) (x : Event rt) :
    Prop :=
  ∃ ctx c ts, x.label = .call ctx c ts ∧ c.session? = some k ∧ c.update? = some u ∧
    CoSigned rt ctx k s u

/-- Every update accepted in the life of a session came with the signatures of
its parties. -/
theorem accepted_cosigned {rt : Runtime} {start l : Ledger} {tr : History rt}
    (genesis : Genesis start) (run : Run (Step rt) start tr l) {k : Pubkey} {s : Session}
    (hs : (l k).data = .session s) :
    ∀ u ∈ acceptedFor k (life k tr), ∃ x ∈ life k tr, x.Cosigned k s u := by
  intro u hu
  obtain ⟨x, hx, hupdate⟩ := List.mem_filterMap.mp hu
  obtain ⟨ctx, c, ts, hl, hk, hcu⟩ := Event.update_some hupdate
  obtain ⟨s₁, s₂, event, terms⟩ := (run_lived genesis run k s hs).events x hx
  have hstep := run.step_of_mem (mem_life hx)
  rw [hl] at hstep
  cases hstep with
  | call precompiled ok =>
    obtain ⟨s₀, hs₀, hverify⟩ := Call.verified_of_ok ok hk hcu
    obtain rfl : s₁ = s₀ := by simpa [event.before] using hs₀
    exact ⟨x, hx, ctx, c, ts, hl, hk, hcu,
      (cosigned_of_verify precompiled hverify).of_terms (event.advances.terms.trans terms)⟩

/-- What a session has on record about its money, and what it has paid. -/
structure Unpaid {rt : Runtime} (k : Pubkey) (s : Session) (tr : History rt) : Prop where
  settled : s.settledToProvider = 0
  pending : s.pendingPayout = 0
  provider : paidTo k .provider tr = 0
  fee : paidTo k .fee tr = 0

/-- The update that stands behind the record: accepted in this history with
both parties' signatures, carrying the record's nonce, and owing what is
settled or, in a dispute, pending. -/
structure Justifies {rt : Runtime} (k : Pubkey) (s : Session) (tr : History rt)
    (u : StateUpdate) : Prop where
  cosigned : ∃ x ∈ tr, x.Cosigned k s u
  nonce : u.nonce = s.lastNonce
  settled : s.status = .open ∨ s.status = .settled ∨ s.status = .expired →
    u.owedToProvider = s.settledToProvider
  pending : s.status = .closing →
    u.owedToProvider = s.pendingPayout ∧ u.unitsConsumed = s.pendingUnits

theorem Session.Matches.justified {rt : Runtime} {k : Pubkey} {s : Session} {tr : History rt}
    {a : Channel.State StateUpdate} (h : s.Matches a) (hv : a.Valid) {u : StateUpdate}
    (hu : a.last = some u) (hn : u.nonce = s.lastNonce) (hc : ∃ x ∈ tr, x.Cosigned k s u) :
    Justifies k s tr u := by
  have hdue : a.due = u.owedToProvider.toNat := Channel.State.due_some hu
  refine ⟨hc, hn, fun hs => ?_, fun hs => ⟨?_, ?_⟩⟩
  · have hphase : a.phase ≠ .closing := by
      rw [h.phase]
      rcases hs with hs | hs | hs <;> simp [hs, SessionStatus.phase]
    apply UInt64.toNat_inj.mp
    rw [← hdue, ← h.settled, hv.paid hphase]
  · apply UInt64.toNat_inj.mp
    rw [← hdue, h.pending hs]
  · have hunits := h.units
    simpa [hu] using hunits

/-- Whatever a session has on record, or has paid, goes back to an update both
parties signed. -/
theorem cosigned_justification {rt : Runtime} {start l : Ledger} {tr : History rt}
    (genesis : Genesis start) (run : Run (Step rt) start tr l) (k : Pubkey) (s : Session)
    (hs : (l k).data = .session s) :
    (s.lastNonce = 0 → Unpaid k s (life k tr)) ∧
      (0 < s.lastNonce → ∃ u, Justifies k s (life k tr) u ∧
        paidTo k .provider (life k tr) + paidTo k .fee (life k tr) ≤ u.owedToProvider.toNat) ∧
      ∀ u ∈ acceptedFor k (life k tr),
        (∀ v ∈ acceptedFor k (life k tr), v.nonce ≤ u.nonce) →
          paidTo k .consumer (life k tr) + u.owedToProvider.toNat ≤ s.deposited.toNat := by
  obtain ⟨a, ctr, htr⟩ := run_tracked genesis run k s hs
  have valid := Channel.run_valid htr.run
  have ordered := Channel.run_ordered htr.run
  obtain ⟨hpaid, hrest⟩ := Channel.run_shares htr.run
  have haccepted := htr.accepted run
  rw [← htr.earned, earned_eq] at hpaid
  rw [← htr.refunded] at hrest
  refine ⟨fun hz => ?_, fun hpos => ?_, fun u hu hmax => ?_⟩
  · have hnone := htr.agree.last_none (last_positive htr.run) hz
    have hdue := Channel.State.due_none hnone
    have hsettled := htr.agree.settled
    have hle := valid.settled_le
    refine ⟨?_, htr.agree.unused hnone, by omega, by omega⟩
    apply UInt64.toNat_inj.mp
    rw [UInt64.toNat_zero]
    omega
  · obtain ⟨u, hu, hn⟩ := htr.agree.last_of_nonce (UInt64.lt_iff_toNat_lt.mp hpos)
    have hdue : a.due = u.owedToProvider.toNat := Channel.State.due_some hu
    have hmem : u ∈ acceptedFor k (life k tr) :=
      List.mem_of_getLast? ((htr.last run).trans hu)
    exact ⟨u, htr.agree.justified valid hu hn (accepted_cosigned genesis run hs u hmem),
      hdue ▸ hpaid⟩
  · rw [← haccepted] at hu hmax
    have hlast : a.last = some u := by
      apply ordered.eq_last hu
      cases hl : a.last with
      | none =>
        rw [Channel.State.nonce_none hl]
        exact Nat.zero_le _
      | some v =>
        have hv : v ∈ Channel.accepted ctr := List.mem_of_getLast? (ordered.last ▸ hl)
        rw [Channel.State.nonce_some hl]
        exact UInt64.le_iff_toNat_le.mp (hmax v hv)
    rw [Channel.State.due_some hlast] at hrest
    exact hrest

section
open Localnet

theorem cosigned_justification_disputed : ∃ u ctx, CoSigned Localnet.rt ctx (session 7)
    (opened 7 1000000 none 0) u ∧ u.nonce = 2 ∧ u.owedToProvider = 400000 := by
  have run : Run (Step Localnet.rt) Localnet.start disputedSession.2 disputedSession.1 :=
    Transaction.submit_run _ _
  obtain ⟨u, hu, _⟩ := (cosigned_justification start_genesis run (session 7)
    { opened 7 1000000 none 0 with
      settledToProvider := 400000, lastNonce := 2, pendingPayout := 400000, pendingUnits := 1500
      status := .settled, challengeDeadline := 10 } (by decide +kernel)).2.1 (by decide)
  obtain ⟨x, _, ctx, _, _, _, _, _, cosigned⟩ := hu.cosigned
  exact ⟨u, ctx, ⟨cosigned.domain, cosigned.session, cosigned.precompiled, cosigned.provider,
    cosigned.consumer⟩, hu.nonce, hu.settled (.inr (.inl rfl))⟩

end

end SolMesh
