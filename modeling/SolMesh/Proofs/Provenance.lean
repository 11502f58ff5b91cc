import SolMesh.Proofs.Conservation
import SolMesh.Proofs.Governance
import SolMesh.Proofs.NodeOffers

namespace SolMesh
open Outcome Words Runs

/-- What a consumer signs to open a session. -/
structure Deposit (rt : Runtime) where
  node : Pubkey
  consumer : Signer rt
  mint : Option Pubkey
  sessionSeed : UInt64
  amount : UInt64
  durationSecs : Int64
  ratePerUnit : UInt64

def Call.deposit? {rt : Runtime} : Call rt → Option (Deposit rt)
  | .openSession a seed amount duration rate =>
    some ⟨a.node, a.consumer, none, seed, amount, duration, rate⟩
  | .openSessionSpl a seed amount duration rate =>
    some ⟨a.node, a.consumer, some a.mint, seed, amount, duration, rate⟩
  | _ => none

/-- The record has the terms of the deposit, made at this time on this ledger:
the program was not paused, and the provider offered the node. -/
structure Deposit.Agreed {rt : Runtime} (d : Deposit rt) (l : Ledger) (now : Int64)
    (s : Session) : Prop where
  node : s.node = d.node
  consumer : s.consumer = d.consumer.key
  mint : s.mint = d.mint
  sessionSeed : s.sessionSeed = d.sessionSeed
  deposited : s.deposited = d.amount
  ratePerUnit : s.ratePerUnit = d.ratePerUnit
  openedAt : s.openedAt = now
  expiry : s.expiry.toInt = now.toInt + d.durationSecs.toInt
  amount : 0 < d.amount.toNat
  duration : 1 ≤ d.durationSecs.toInt ∧ d.durationSecs.toInt ≤ 2592000
  offered : ∃ o, (l d.node).data.listing = some (s.provider, o) ∧ o.active = true ∧
    o.asset = s.asset
  unpaused : ∃ authority rules, inForce rt l = some (authority, rules) ∧ rules.paused = false

section
variable {rt : Runtime} {ctx : TxContext} {l l' : Ledger} {ts : List Transfer} {k : Pubkey}
  {s s' : Session}

theorem Deposit.Agreed.of_terms {d : Deposit rt} {now : Int64} (h : d.Agreed l now s)
    (terms : s.SameTerms s') : d.Agreed l now s' where
  node := terms.node.trans h.node
  consumer := terms.consumer.trans h.consumer
  mint := terms.mint.trans h.mint
  sessionSeed := terms.sessionSeed.trans h.sessionSeed
  deposited := terms.deposited.trans h.deposited
  ratePerUnit := terms.ratePerUnit.trans h.ratePerUnit
  openedAt := terms.openedAt.trans h.openedAt
  expiry := terms.expiry ▸ h.expiry
  amount := h.amount
  duration := h.duration
  offered := by
    rw [terms.provider, terms.asset]
    exact h.offered
  unpaused := h.unpaused

theorem Inv.unpaused (hi : Inv rt l) {x : Pubkey} {c : Config} (hc : (l x).data = .config c)
    (hp : c.paused = false) :
    ∃ authority rules, inForce rt l = some (authority, rules) ∧ rules.paused = false := by
  refine ⟨c.authority, c.rules, ?_, hp⟩
  rw [inForce, hi.at_address hc, hc]
  rfl

theorem duration_bounds {d : Int64} (h : minDurationSecs ≤ d ∧ d ≤ maxDurationSecs) :
    1 ≤ d.toInt ∧ d.toInt ≤ 2592000 :=
  ⟨Int64.le_iff_toInt_le.mp h.1, Int64.le_iff_toInt_le.mp h.2⟩

theorem openSessionHandler_agreed {a : OpenSession rt} {sessionSeed amount : UInt64}
    {durationSecs : Int64} {ratePerUnit : UInt64} (hi : Inv rt l)
    (h : openSessionHandler rt ctx l a sessionSeed amount durationSecs ratePerUnit =
      .ok (l', ts)) (hs : (l' a.session).data = .session s) :
    Deposit.Agreed ⟨a.node, a.consumer, none, sessionSeed, amount, durationSecs, ratePerUnit⟩ l
      ctx.unixTimestamp s := by
  simp only [openSessionHandler, bind_ok, loadConfig_ok, loadNode_ok, require_ok, okOr_ok, pure_ok,
    Prod.mk.injEq, exitAccount_readonly, exitAccount_writable] at h
  obtain ⟨cfg, hcfg, _, _, n, hn, _, _, _, hactive, _, _, _, _, _, hpaused, _, hamount, _,
    hduration, _, _, expiry, hexpiry, _, _, rfl, rfl⟩ := h
  rw [Ledger.setData_self] at hs
  cases hs
  exact ⟨rfl, rfl, rfl, rfl, rfl, rfl, rfl, checkedAddInt_some.mp hexpiry,
    UInt64.lt_iff_toNat_lt.mp hamount, duration_bounds hduration,
    ⟨n.offer, by rw [hn]; rfl, hactive, rfl⟩, hi.unpaused hcfg hpaused⟩

theorem openSessionSplHandler_agreed {a : OpenSessionSpl rt} {sessionSeed amount : UInt64}
    {durationSecs : Int64} {ratePerUnit : UInt64} (hi : Inv rt l)
    (h : openSessionSplHandler rt ctx l a sessionSeed amount durationSecs ratePerUnit =
      .ok (l', ts)) (hs : (l' a.session).data = .session s) :
    Deposit.Agreed ⟨a.node, a.consumer, some a.mint, sessionSeed, amount, durationSecs,
      ratePerUnit⟩ l ctx.unixTimestamp s := by
  simp only [openSessionSplHandler, initAssociatedToken_ok, bind_ok, loadConfig_ok, loadNode_ok,
    require_ok, okOr_ok, pure_ok, Prod.mk.injEq, exitAccount_readonly, exitAccount_writable] at h
  obtain ⟨cfg, hcfg, _, _, n, hn, _, _, _, hactive, _, _, _, _, _, _, _, _, _, _, _, _, _, _, _, _,
    _, hpaused, _, hamount, _, hduration, _, _, expiry, hexpiry, _, _, rfl, rfl⟩ := h
  rw [Ledger.setData_self] at hs
  cases hs
  exact ⟨rfl, rfl, rfl, rfl, rfl, rfl, rfl, checkedAddInt_some.mp hexpiry,
    UInt64.lt_iff_toNat_lt.mp hamount, duration_bounds hduration,
    ⟨n.offer, by rw [hn]; rfl, hactive, rfl⟩, hi.unpaused hcfg hpaused⟩

theorem Call.agreed {c : Call rt} (hi : Inv rt l) (h : c.exec ctx l = .ok (l', ts))
    (ho : c.opens = true) (hk : c.session? = some k) (hs : (l' k).data = .session s) :
    ∃ d, c.deposit? = some d ∧ d.Agreed l ctx.unixTimestamp s := by
  cases c with
  | openSession a seed n d r =>
    cases hk
    exact ⟨_, rfl, openSessionHandler_agreed hi h hs⟩
  | openSessionSpl a seed n d r =>
    cases hk
    exact ⟨_, rfl, openSessionSplHandler_agreed hi h hs⟩
  | _ => cases ho

end

/-- Whatever has happened to a session, in either asset, its record still has
exactly the terms that its consumer signed when it was opened last. It was opened
with a deposit and for a second to thirty days, at that time and up to then
without an overflow, while the program was not paused and the provider on record
offered the node as active. -/
theorem session_as_deposited {rt : Runtime} {start l : Ledger} {tr : History rt}
    (genesis : Genesis start) (run : Run (Step rt) start tr l) (k : Pubkey) (s : Session)
    (hs : (l k).data = .session s) :
    ∃ x ctx c ts d, latest (Event.opens k) tr = some x ∧ x.label = .call ctx c ts ∧
      c.session? = some k ∧ c.deposit? = some d ∧ d.Agreed x.before ctx.unixTimestamp s := by
  revert s
  refine run.history (fun tr l => ∀ s, (l k).data = .session s → ∃ x ctx c ts d,
    latest (Event.opens k) tr = some x ∧ x.label = .call ctx c ts ∧ c.session? = some k ∧
      c.deposit? = some d ∧ d.Agreed x.before ctx.unixTimestamp s) (fun s hs => ?_) ?_
  · exact absurd hs genesis.no_session
  · intro tr l label l' run ih hstep s hs
    have hi := run_inv genesis run
    cases hstep.session_event k with
    | opening s₁ ho _ _ =>
      cases hstep with
      | external | commit => cases ho
      | @call ctx c _ _ ts hp ok =>
        have hlatest : latest (Event.opens k) (tr ++ [⟨l, .call ctx c ts, l'⟩]) =
            some ⟨l, .call ctx c ts, l'⟩ := by
          rw [latest_snoc, if_pos ho]
        simp only [Event.opens, Bool.and_eq_true, decide_eq_true_eq] at ho
        obtain ⟨d, hd, agreed⟩ := Call.agreed hi ok ho.1 ho.2 hs
        exact ⟨_, ctx, c, ts, d, hlatest, rfl, ho.2, hd, agreed⟩
    | call ctx c ts s₀ s₁ mv _ _ ho _ _ hc =>
      obtain rfl : s₁ = s := by simpa [hc.recorded.after] using hs
      obtain ⟨x, ctx, c, ts, d, hx, hl, hk, hd, agreed⟩ := ih s₀ hc.recorded.before
      refine ⟨x, ctx, c, ts, d, ?_, hl, hk, hd, agreed.of_terms hc.step.terms⟩
      rw [latest_snoc, if_neg (by simp [ho])]
      exact hx
    | bystander hb ho _ _ =>
      obtain ⟨hs₀, _⟩ := hstep.frame.session_back hb hs
      obtain ⟨x, ctx, c, ts, d, hx, hrest⟩ := ih s hs₀
      refine ⟨x, ctx, c, ts, d, ?_, hrest⟩
      rw [latest_snoc, if_neg (by simp [ho])]
      exact hx

section
open Localnet

/-- After a checkpoint and a dispute the record still is what was signed at time 0. -/
theorem session_as_deposited_disputed : ∃ (x : Event Localnet.rt) (d : Deposit Localnet.rt),
    latest (Event.opens (session 7)) disputedSession.2 = some x ∧ d.consumer.key = 3 ∧
      d.amount = 1000000 ∧ d.mint = none ∧ d.durationSecs.toInt = 60 := by
  have run : Run (Step Localnet.rt) Localnet.start disputedSession.2 disputedSession.1 :=
    Transaction.submit_run _ _
  obtain ⟨x, ctx, c, ts, d, hx, _, _, _, agreed⟩ := session_as_deposited start_genesis run
    (session 7) { opened 7 1000000 none 0 with
      settledToProvider := 400000, lastNonce := 2, status := .settled, challengeDeadline := 10
      pendingPayout := 400000, pendingUnits := 1500 } (by decide +kernel)
  refine ⟨x, d, hx, agreed.consumer.symm, agreed.deposited.symm, agreed.mint.symm, ?_⟩
  have hexpiry := agreed.expiry
  rw [← agreed.openedAt] at hexpiry
  have openedAt : (opened 7 1000000 none 0).openedAt.toInt = 0 := by decide
  have expiry : (opened 7 1000000 none 0).expiry.toInt = 60 := by decide
  simp only [openedAt, expiry] at hexpiry
  omega

end

end SolMesh
