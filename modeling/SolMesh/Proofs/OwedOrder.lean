import SolMesh.Proofs.Acceptance
import SolMesh.Proofs.Lifecycle

namespace SolMesh
open Outcome Words Runs

/-- A challenge that asks for less than the update it replaces, and not for
less than what has been paid. -/
def Call.Lowers {rt : Runtime} (c : Call rt) (s : Session) : Prop :=
  match c with
  | .challenge _ u =>
    s.settledToProvider.toNat ≤ u.owedToProvider.toNat ∧
      u.owedToProvider.toNat < s.pendingPayout.toNat
  | _ => False

theorem Call.Lowers.is_challenge {rt : Runtime} {c : Call rt} {s : Session} (h : c.Lowers s) :
    ∃ a u, c = .challenge a u := by
  cases c with
  | challenge a u => exact ⟨a, u, rfl⟩
  | _ => exact h.elim

/-- The event was no challenge that lowers what is pending. -/
def KeepsPending {rt : Runtime} (k : Pubkey) (x : Event rt) : Prop :=
  ∀ ctx c ts s, x.label = .call ctx c ts → c.session? = some k →
    (x.before k).data = .session s → ¬ c.Lowers s

/-- The owed amounts of updates in the order of their acceptance never fall. -/
def OwedCumulative (us : List StateUpdate) : Prop :=
  us.Pairwise fun u v => u.owedToProvider.toNat ≤ v.owedToProvider.toNat

theorem owedCumulative_snoc {us : List StateUpdate} {u : StateUpdate} :
    OwedCumulative (us ++ [u]) ↔ OwedCumulative us ∧
      ∀ v ∈ us, v.owedToProvider.toNat ≤ u.owedToProvider.toNat := by
  simp only [OwedCumulative, List.pairwise_append, List.pairwise_singleton, true_and,
    List.mem_singleton, forall_eq]

/-- Cumulative updates owe at most what the last of them does. -/
theorem OwedCumulative.le_last {us : List StateUpdate} {last : StateUpdate}
    (h : OwedCumulative us) (hlast : us.getLast? = some last) :
    ∀ v ∈ us, v.owedToProvider.toNat ≤ last.owedToProvider.toNat := by
  obtain ⟨earlier, rfl⟩ := List.getLast?_eq_some_iff.mp hlast
  have hle := (owedCumulative_snoc.mp h).2
  exact forall_mem_snoc hle (Nat.le_refl _)

section
variable {rt : Runtime} {start l : Ledger} {tr : History rt} {k : Pubkey} {s : Session}

theorem Tracked.owed_le_due {a : Channel.State StateUpdate} {ctr : Channel.Trace StateUpdate}
    (htr : Tracked rt k (life k tr) s a ctr) (run : Run (Step rt) start tr l)
    (h : OwedCumulative (acceptedFor k (life k tr))) :
    ∀ v ∈ acceptedFor k (life k tr), v.owedToProvider.toNat ≤ a.due := by
  have hlast := htr.last run
  cases ha : a.last with
  | none =>
    rw [ha] at hlast
    simp [List.getLast?_eq_none_iff.mp hlast]
  | some u =>
    rw [Channel.State.due_some ha]
    exact h.le_last (hlast.trans ha)

/-- The amount on record that the last accepted update owes. -/
theorem Tracked.due_eq {a : Channel.State StateUpdate} {ctr : Channel.Trace StateUpdate}
    (htr : Tracked rt k (life k tr) s a ctr) :
    a.due = if s.status = .closing then s.pendingPayout.toNat else s.settledToProvider.toNat := by
  split
  · rename_i hc
    exact htr.agree.pending hc
  · rename_i hc
    have hphase : a.phase ≠ .closing := by
      rw [htr.agree.phase]
      cases hs : s.status <;> simp_all [SessionStatus.phase]
    rw [← (Channel.run_valid htr.run).paid hphase, htr.agree.settled]

/-- An update that a call accepts continues the order just when the call does
not lower what is pending. -/
theorem SessionCall.keeps_order {l l' : Ledger} {ctx : TxContext} {c : Call rt}
    {ts : List Transfer} {s' : Session} {mv : SessionMove} {u : StateUpdate} {due : Nat}
    (hc : SessionCall rt ctx c l l' ts k s s' mv) (hu : mv.message? = some u)
    (hdue : due = if s.status = .closing then s.pendingPayout.toNat
      else s.settledToProvider.toNat) :
    due ≤ u.owedToProvider.toNat ↔ ¬ c.Lowers s := by
  have hkeeps := (hc.step.accepts hu).keeps
  have hmove := hc.move
  cases hc.step with
  | checkpoint status | settle status | initiate deadline status =>
    rw [if_neg (by simp [status])] at hdue
    cases hu
    have hnot : ¬ c.Lowers s := by
      intro hl
      obtain ⟨a, v, rfl⟩ := hl.is_challenge
      simp [Call.move] at hmove
    exact ⟨fun _ => hnot, fun _ => by omega⟩
  | challenge now status =>
    rw [if_pos status] at hdue
    cases hu
    cases c with
    | challenge a v =>
      obtain rfl : v = u := by
        simp only [Call.move, Option.some.injEq, Channel.Move.challenge.injEq] at hmove
        exact hmove.1
      simp only [Call.Lowers]
      omega
    | _ => simp [Call.move] at hmove
  | finalize | cancel | expire => cases hu

end

/-- The updates that a session accepts are cumulative if and only if no
challenge lowers what is pending. -/
theorem run_owed_order {rt : Runtime} {start l : Ledger} {tr : History rt}
    (genesis : Genesis start) (run : Run (Step rt) start tr l) (k : Pubkey) :
    ∀ s, (l k).data = .session s → (OwedCumulative (acceptedFor k (life k tr)) ↔
      ∀ x ∈ life k tr, KeepsPending k x) := by
  refine run.history (fun tr l => ∀ s, (l k).data = .session s →
    (OwedCumulative (acceptedFor k (life k tr)) ↔ ∀ x ∈ life k tr, KeepsPending k x))
    (fun s hs => absurd hs genesis.no_session) ?_
  intro tr l label l' run ih hstep s hs
  have hupdate := hstep.update_eq k
  cases hstep.session_event k with
  | opening s₁ ho =>
    rw [life_opening ho]
    simp [acceptedFor, OwedCumulative]
  | bystander hb ho _ hm =>
    obtain ⟨hs₀, _⟩ := hstep.frame.session_back hb hs
    rw [hm, Option.bind_none] at hupdate
    have hkeeps : KeepsPending k ⟨l, label, l'⟩ := by
      intro ctx c ts s₁ hl hk
      obtain rfl : label = .call ctx c ts := hl
      exact absurd hk hb
    rw [life_snoc ho, acceptedFor_snoc, hupdate, Option.toList_none, List.append_nil, ih s hs₀]
    exact ⟨fun h => forall_mem_snoc h hkeeps, fun h => (List.forall_mem_append.mp h).1⟩
  | call ctx c ts s₀ s₁ mv hl hk ho _ hm hc =>
    have hs₀ := hc.recorded.before
    obtain ⟨a, ctr, htr⟩ := run_tracked genesis run k s₀ hs₀
    have hih := ih s₀ hs₀
    rw [hm, Option.bind_some] at hupdate
    have hkeeps : KeepsPending k ⟨l, label, l'⟩ ↔ ¬ c.Lowers s₀ := by
      constructor
      · intro h
        exact h ctx c ts s₀ hl hk hs₀
      · intro h ctx' c' ts' s' hl' _ hs'
        cases hl.symm.trans hl'
        obtain rfl : s₀ = s' := by simpa [hs₀] using hs'
        exact h
    rw [life_snoc ho, acceptedFor_snoc, hupdate, List.forall_mem_append, ← hih,
      List.forall_mem_singleton, hkeeps]
    cases hu : mv.message? with
    | none =>
      rw [Option.toList_none, List.append_nil]
      have hnot : ¬ c.Lowers s₀ := by
        intro hlow
        obtain ⟨a, v, rfl⟩ := hlow.is_challenge
        cases hc.move
        cases hu
      exact ⟨fun h => ⟨h, hnot⟩, fun h => h.1⟩
    | some u =>
      rw [Option.toList_some, owedCumulative_snoc]
      refine and_congr_right fun hcum => ?_
      rw [← hc.keeps_order hu htr.due_eq]
      have hle := htr.owed_le_due run hcum
      refine ⟨fun h => ?_, fun h v hv => Nat.le_trans (hle v hv) h⟩
      have hlast := htr.last run
      cases ha : a.last with
      | none =>
        rw [Channel.State.due_none ha]
        exact Nat.zero_le _
      | some v =>
        rw [Channel.State.due_some ha]
        exact h v (List.mem_of_getLast? (hlast.trans ha))

/-- All checks that come before those on the update itself have passed. -/
def Call.ReachesCheck {rt : Runtime} (ctx : TxContext) (l : Ledger) (s : Session) :
    Call rt → Prop
  | .checkpointSettle a u | .settleSession a u =>
    (∃ cfg n, a.load rt l = .ok (cfg, n, s)) ∧ s.status = .open ∧ s.mint = none ∧
      s.lastNonce < u.nonce
  | .checkpointSettleSpl a u | .settleSessionSpl a u =>
    (∃ cfg n, a.load rt l = .ok (cfg, n, s)) ∧ s.status = .open ∧ s.mint ≠ none ∧
      s.lastNonce < u.nonce
  | .initiateUnilateralClose a u =>
    (∃ cfg, a.load rt l = .ok (cfg, s)) ∧
      (a.caller.key = s.provider ∨ a.caller.key = s.consumer) ∧ s.status = .open ∧
      s.lastNonce < u.nonce
  | .challenge a u =>
    (∃ cfg, a.load rt l = .ok (cfg, s)) ∧ s.status = .closing ∧
      ctx.unixTimestamp ≤ s.challengeDeadline ∧ s.lastNonce < u.nonce
  | _ => False

section
variable {rt : Runtime} {ctx : TxContext} {l : Ledger} {s : Session} {c : Call rt} {k : Pubkey}
  {u : StateUpdate}

theorem Call.ReachesCheck.rejected (h : c.ReachesCheck ctx l s) (hk : c.session? = some k)
    (hu : c.update? = some u) {e : Failure} (hv : verifyCosignedState ctx s k u = .error e) :
    c.exec ctx l = .error e := by
  cases c with
  | checkpointSettle a v | settleSession a v =>
    obtain ⟨⟨cfg, n, hload⟩, hstatus, hmint, hnonce⟩ := h
    cases hk
    cases hu
    simp [Call.exec, checkpointHandler, settleHandler, applyState, hload, hstatus, hmint, hnonce,
      hv, require, bind, Except.bind]
  | checkpointSettleSpl a v | settleSessionSpl a v =>
    obtain ⟨⟨cfg, n, hload⟩, hstatus, hmint, hnonce⟩ := h
    cases hk
    cases hu
    simp [Call.exec, checkpointSplHandler, settleSplHandler, applyStateSpl, hload, hstatus, hmint,
      hnonce, hv, require, bind, Except.bind]
  | initiateUnilateralClose a v =>
    obtain ⟨⟨cfg, hload⟩, hcaller, hstatus, hnonce⟩ := h
    cases hk
    cases hu
    simp [Call.exec, initiateHandler, hload, hcaller, hstatus, hnonce, hv, require, bind,
      Except.bind]
  | challenge a v =>
    obtain ⟨⟨cfg, hload⟩, hstatus, early, hnonce⟩ := h
    cases hk
    cases hu
    simp [Call.exec, challengeHandler, hload, hstatus, early, hnonce, hv, require, bind,
      Except.bind]
  | _ => exact h.elim

/-- A challenge fails on its update or not at all. -/
theorem challenge_verdict {a : UnilateralClose rt}
    (h : (Call.challenge a u).ReachesCheck ctx l s)
    (hv : verifyCosignedState ctx s a.session u = .ok ()) :
    ∃ r, (Call.challenge a u).exec ctx l = .ok r := by
  obtain ⟨⟨cfg, hload⟩, hstatus, early, hnonce⟩ := h
  exact ⟨_, challengeHandler_ok.mpr ⟨cfg, s, hload, hstatus, early, hnonce, hv, rfl, rfl⟩⟩

theorem verifyCosignedState_decreased (hd : u.domain = stateDomain) (hk : u.session = k)
    (hcovered : u.owedToProvider.toNat ≤ s.deposited.toNat)
    (hlow : u.owedToProvider.toNat < s.settledToProvider.toNat) :
    verifyCosignedState ctx s k u = .error (.custom .owedDecreased) := by
  have hcovered' : u.owedToProvider ≤ s.deposited := UInt64.le_iff_toNat_le.mpr hcovered
  have hlow' : ¬ s.settledToProvider ≤ u.owedToProvider := by
    rw [UInt64.le_iff_toNat_le]
    omega
  simp [verifyCosignedState, StateUpdate.hasValidDomain, hd, hk, hcovered', hlow', require, bind,
    Except.bind]

theorem verifyCosignedState_not_decreased
    (hkeeps : s.settledToProvider.toNat ≤ u.owedToProvider.toNat) :
    verifyCosignedState ctx s k u ≠ .error (.custom .owedDecreased) := by
  intro h
  have refused : SettlementRefused ctx k default default s u (.custom .owedDecreased) :=
    verifyCosignedState_error h
  cases refused with
  | decreased hlow => omega

end

theorem Call.ReachesCheck.status {rt : Runtime} {ctx : TxContext} {l : Ledger} {s : Session}
    {c : Call rt} (h : c.ReachesCheck ctx l s) :
    (∃ a u, c = .challenge a u ∧ s.status = .closing) ∨
      (s.status = .open ∧ ¬ c.Lowers s) := by
  cases c with
  | checkpointSettle | settleSession | checkpointSettleSpl | settleSessionSpl =>
    exact .inr ⟨h.2.1, id⟩
  | initiateUnilateralClose => exact .inr ⟨h.2.2.1, id⟩
  | challenge a u => exact .inl ⟨a, u, rfl, h.2.1⟩
  | _ => exact h.elim

/-- The owed amounts of the updates a session accepts are cumulative if and
only if no challenge lowers what is pending. Then a newer update that asks for
less than an accepted one is rejected for that, except by such a challenge. -/
theorem owed_cumulative_iff {rt : Runtime} {start l : Ledger} {tr : History rt}
    (genesis : Genesis start) (run : Run (Step rt) start tr l) (k : Pubkey) (s : Session)
    (hs : (l k).data = .session s) :
    (OwedCumulative (acceptedFor k (life k tr)) ↔ ∀ x ∈ life k tr, KeepsPending k x) ∧
      (OwedCumulative (acceptedFor k (life k tr)) → ∀ (ctx : TxContext) (c : Call rt)
        (u v : StateUpdate), c.session? = some k → c.update? = some u → c.ReachesCheck ctx l s →
        u.domain = stateDomain → u.session = k → v ∈ acceptedFor k (life k tr) →
        u.owedToProvider < v.owedToProvider →
        (c.exec ctx l = .error (.custom .owedDecreased) ↔ ¬ c.Lowers s)) := by
  refine ⟨run_owed_order genesis run k s hs, ?_⟩
  intro cumulative ctx c u v hk hu hreach hd hsession hv hlt
  obtain ⟨a, ctr, htr⟩ := run_tracked genesis run k s hs
  have hle := htr.owed_le_due run cumulative v hv
  have hcovered := (Channel.run_valid htr.run).covered
  have hdeposit := htr.agree.deposit
  have hdue := htr.due_eq
  rw [UInt64.lt_iff_toNat_lt] at hlt
  have decreased : u.owedToProvider.toNat < s.settledToProvider.toNat →
      c.exec ctx l = .error (.custom .owedDecreased) := fun hlow =>
    hreach.rejected hk hu (verifyCosignedState_decreased hd hsession (by omega) hlow)
  rcases hreach.status with ⟨b, w, rfl, hclosing⟩ | ⟨hopen, hnot⟩
  · cases hk
    cases hu
    rw [if_pos hclosing] at hdue
    by_cases hlow : u.owedToProvider.toNat < s.settledToProvider.toNat
    · exact ⟨fun _ h => by have := h.1; omega, fun _ => decreased hlow⟩
    · refine ⟨fun h => ?_, fun h => absurd ⟨by omega, by omega⟩ h⟩
      cases hverify : verifyCosignedState ctx s b.session u with
      | ok =>
        obtain ⟨r, hok⟩ := challenge_verdict hreach hverify
        cases h.symm.trans hok
      | error e =>
        cases h.symm.trans (hreach.rejected rfl rfl hverify)
        exact absurd hverify (verifyCosignedState_not_decreased (by omega))
  · rw [if_neg (by simp [hopen])] at hdue
    exact ⟨fun _ => hnot, fun _ => decreased (by omega)⟩

section
open Localnet Transaction

/-- A second checkpoint for less than the first is refused. -/
theorem owed_cumulative_iff_checkpoint :
    (Call.checkpointSettle (settleAccounts 7) (update 7 2 200000 1500)).exec ⟨[], 0, 6⟩
      (submit Localnet.start (deploy ++ [openSol 7 1000000,
        cosigned 5 (update 7 1 300000 1000)
          (.checkpointSettle (settleAccounts 7) (update 7 1 300000 1000))])).1 =
      .error (.custom .owedDecreased) := by
  have run := submit_run Localnet.start (deploy ++ [openSol 7 1000000,
    cosigned 5 (update 7 1 300000 1000)
      (.checkpointSettle (settleAccounts 7) (update 7 1 300000 1000))])
  have accepted : acceptedFor (session 7) (life (session 7) (submit Localnet.start (deploy ++
      [openSol 7 1000000, cosigned 5 (update 7 1 300000 1000)
        (.checkpointSettle (settleAccounts 7) (update 7 1 300000 1000))])).2) =
      [update 7 1 300000 1000] := by decide +kernel
  refine ((owed_cumulative_iff start_genesis run (session 7)
    { opened 7 1000000 none 0 with
      settledToProvider := 300000, lastNonce := 1, pendingUnits := 1000 } (by decide +kernel)).2 ?_
    ⟨[], 0, 6⟩ _ (update 7 2 200000 1500) (update 7 1 300000 1000) rfl rfl ?_ rfl rfl ?_
    (by decide)).mpr id
  · rw [accepted]
    exact List.pairwise_singleton _ _
  · exact ⟨⟨deployedConfig, { registeredNode with
      reputation := 2, totalUnits := 1000, totalSettled := 298500 }, by decide +kernel⟩, rfl, rfl,
        by decide⟩
  · rw [accepted]
    exact List.mem_singleton_self _

/-- The provider closes with 500000, and the consumer challenges with a newer
update for 300000. -/
def lowered : Ledger × History Localnet.rt :=
  submit Localnet.start (deploy ++ [openSol 7 1000000,
    cosigned 5 (update 7 1 500000 1000)
      (.initiateUnilateralClose (closeAccounts 7 provider) (update 7 1 500000 1000)),
    cosigned 6 (update 7 2 300000 1500)
      (.challenge (closeAccounts 7 consumer) (update 7 2 300000 1500))])

theorem owed_not_cumulative : ¬ ∀ (rt : Runtime) (start l : Ledger) (tr : History rt)
    (k : Pubkey), Genesis start → Run (Step rt) start tr l →
      OwedCumulative (acceptedFor k (life k tr)) := by
  intro h
  have run : Run (Step Localnet.rt) Localnet.start lowered.2 lowered.1 := submit_run _ _
  have accepted : acceptedFor (session 7) (life (session 7) lowered.2) =
      [update 7 1 500000 1000, update 7 2 300000 1500] := by decide +kernel
  have hcum := h Localnet.rt Localnet.start lowered.1 lowered.2 (session 7) start_genesis run
  rw [accepted] at hcum
  revert hcum
  unfold OwedCumulative
  decide

end

end SolMesh
