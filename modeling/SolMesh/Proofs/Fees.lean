import SolMesh.Proofs.OwnAsset
import SolMesh.Proofs.Separation
import SolMesh.Support.Rounding

namespace SolMesh
open Outcome Words Runs Rounding

/-- The moves that pay out an update. -/
def paysOut : SessionMove → Bool
  | .checkpoint .. | .settle .. | .finalize .. => true
  | .initiate .. | .challenge .. | .reclaim .. => false

/-- The event paid out an update of session `k`. -/
def Event.pays {rt : Runtime} (k : Pubkey) (x : Event rt) : Bool :=
  (Event.move k x).any paysOut

/-- What the payouts of a history earned, fees included, one by one. -/
def payouts {rt : Runtime} (k : Pubkey) (tr : History rt) : List Nat :=
  (tr.filter (Event.pays k)).map fun x => earnings (Event.transfers k x)

/-- What the event charged for its payout, at the rate of the moment. -/
structure Charged {rt : Runtime} (k : Pubkey) (x : Event rt) : Prop where
  idle : Event.pays k x = false → earnings (Event.transfers k x) = 0
  rate : Event.pays k x = true → ∃ cfg, ConfigAt rt x.before cfg ∧ cfg.feeBps.toNat ≤ 1000 ∧
    received .fee (Event.transfers k x) =
      share cfg.feeBps.toNat 10000 (earnings (Event.transfers k x))

theorem fee_le_earnings (ts : List Transfer) : received .fee ts ≤ earnings ts :=
  Nat.le_add_left _ _

theorem payout_of_idle {mv : SessionMove} (h : paysOut mv = false) : mv.payout = 0 := by
  cases mv <;> simp_all [paysOut, Channel.Move.payout]

theorem Step.charged {rt : Runtime} {l l' : Ledger} {label : Label rt} (hi : Inv rt l)
    (h : Step rt l label l') (k : Pubkey) : Charged k ⟨l, label, l'⟩ := by
  cases h.session_event k with
  | opening s ho ht =>
    have hpays : Event.pays k ⟨l, label, l'⟩ = false := by
      simp [Event.pays, (Event.opening l l' ho).1]
    exact ⟨fun _ => by simp [ht], fun hp => by simp [hpays] at hp⟩
  | bystander hb _ ht hm =>
    have hpays : Event.pays k ⟨l, label, l'⟩ = false := by simp [Event.pays, hm]
    exact ⟨fun _ => by simp [ht], fun hp => by simp [hpays] at hp⟩
  | call ctx c ts s s' mv _ _ _ ht hm hc =>
    have hpays : Event.pays k ⟨l, label, l'⟩ = paysOut mv := by simp [Event.pays, hm]
    refine ⟨fun hp => ?_, fun _ => ?_⟩
    · rw [ht, ← hc.paid]
      exact payout_of_idle (hpays.symm.trans hp)
    · obtain ⟨cfg, hcfg, hfee⟩ := hc.fee
      obtain ⟨x, hx, hseeds⟩ := hcfg
      have hrate := (hi.config x cfg hx).1.fee
      refine ⟨cfg, ⟨x, hx, hseeds⟩, hrate, ?_⟩
      rw [ht]
      exact hfee (by omega)

theorem run_charged {rt : Runtime} {start l : Ledger} {tr : History rt} (genesis : Genesis start)
    (run : Run (Step rt) start tr l) (k : Pubkey) : ∀ x ∈ tr, Charged k x := by
  intro x hx
  obtain ⟨pre, _, _, hpre, hstep, _⟩ := run.split hx
  exact hstep.charged (run_inv genesis hpre) k

section
variable {rt : Runtime} {k : Pubkey} {tr : History rt}

theorem earned_payouts (h : ∀ x ∈ tr, Charged k x) : earned k tr = (payouts k tr).sum :=
  (total_filter fun x hx => (h x hx).idle).symm

/-- The fees of a history charged at one rate. -/
theorem fees_payouts (h : ∀ x ∈ tr, Charged k x) {f : UInt16}
    (constant : ∀ x ∈ tr, ∀ cfg, ConfigAt rt x.before cfg → cfg.feeBps = f) :
    paidTo k .fee tr = shares f.toNat 10000 (payouts k tr) := by
  have hfilter : total (fun x => received .fee (Event.transfers k x)) (tr.filter (Event.pays k)) =
      paidTo k .fee tr := by
    refine total_filter fun x hx hp => ?_
    have hle := fee_le_earnings (Event.transfers k x)
    have hidle := (h x hx).idle hp
    omega
  rw [← hfilter, payouts, shares, List.map_map, total]
  congr 1
  refine List.map_congr_left fun x hx => ?_
  obtain ⟨hmem, hpays⟩ := List.mem_filter.mp hx
  obtain ⟨cfg, hcfg, _, hfee⟩ := (h x hmem).rate hpays
  rw [hfee, constant x hmem cfg hcfg]
  rfl

/-- Whatever the rates were, at most a tenth went in fees. -/
theorem fees_tenth (h : ∀ x ∈ tr, Charged k x) : 10 * paidTo k .fee tr ≤ earned k tr := by
  induction tr with
  | nil => simp [paidTo, earned]
  | cons x tr ih =>
    have hrest := ih fun y hy => h y (List.mem_cons_of_mem x hy)
    have hx := h x List.mem_cons_self
    have hone : 10 * received .fee (Event.transfers k x) ≤ earnings (Event.transfers k x) := by
      cases hp : Event.pays k x with
      | false =>
        have hidle := hx.idle hp
        have hle := fee_le_earnings (Event.transfers k x)
        omega
      | true =>
        obtain ⟨cfg, _, hrate, hfee⟩ := hx.rate hp
        rw [hfee]
        exact share_le_of_rate (by omega) _
    simp only [paidTo, earned, total_cons] at hrest ⊢
    omega

end

/-- A session that was settled was paid out at least once. -/
theorem run_paid {rt : Runtime} {start l : Ledger} {tr : History rt} (genesis : Genesis start)
    (run : Run (Step rt) start tr l) (k : Pubkey) :
    ∀ s, (l k).data = .session s → s.status = .settled → payouts k (life k tr) ≠ [] := by
  refine run.history (fun tr l => ∀ s, (l k).data = .session s → s.status = .settled →
    payouts k (life k tr) ≠ []) (fun s hs => absurd hs genesis.no_session) ?_
  intro tr l label l' run ih hstep s hs hsettled
  cases hstep.session_event k with
  | opening s₁ ho _ hopened =>
    have hop := Opened.of_either hopened
    obtain rfl : s₁ = s := by simpa [hop.after] using hs
    simp [hop.status] at hsettled
  | call ctx c ts s₀ s₁ mv _ _ ho _ hm hc =>
    obtain rfl : s₁ = s := by simpa [hc.recorded.after] using hs
    have hpays : Event.pays k ⟨l, label, l'⟩ = true := by
      have hmv : paysOut mv = true := by
        cases hc.step with
        | settle | finalize => rfl
        | checkpoint => rfl
        | initiate | cancel | expire => cases hsettled
        | challenge now status => simp [Session.propose, status] at hsettled
      simp [Event.pays, hm, hmv]
    rw [life_snoc ho]
    simp [payouts, hpays]
  | bystander hb ho _ _ =>
    obtain ⟨hs₀, _⟩ := hstep.frame.session_back hb hs
    have hne := ih s hs₀ hsettled
    rw [life_snoc ho]
    simp only [payouts, List.filter_append, List.map_append] at hne ⊢
    exact fun he => hne (List.append_eq_nil_iff.mp he).1

/-- At a constant rate the fees fall short of the fee on the whole by less than
one unit a payout. -/
theorem fees_rounded {rt : Runtime} {k : Pubkey} {tr : History rt} (h : ∀ x ∈ tr, Charged k x)
    {f : UInt16} (constant : ∀ x ∈ tr, ∀ cfg, ConfigAt rt x.before cfg → cfg.feeBps = f)
    (hne : payouts k tr ≠ []) {w : UInt64} (hw : (payouts k tr).sum = w.toNat) :
    ∃ fee, feeFor w f = .ok fee ∧ paidTo k .fee tr ≤ fee.toNat ∧
      fee.toNat ≤ paidTo k .fee tr + ((payouts k tr).length - 1) := by
  have hrate : f.toNat ≤ 10000 := by
    obtain ⟨n, hn⟩ := List.exists_mem_of_ne_nil _ hne
    obtain ⟨x, hx, _⟩ := List.mem_map.mp hn
    obtain ⟨hmem, hpays⟩ := List.mem_filter.mp hx
    obtain ⟨cfg, hcfg, hle, _⟩ := (h x hmem).rate hpays
    rw [← constant x hmem cfg hcfg]
    omega
  obtain ⟨fee, hfee⟩ := feeFor_exists w hrate
  have hf : fee.toNat = share f.toNat 10000 (payouts k tr).sum := by
    rw [feeFor_ok hfee hrate, hw]
    rfl
  have hfees := fees_payouts h constant
  have hle := shares_le f.toNat 10000 (payouts k tr)
  have hge := shares_ge f.toNat (show 0 < 10000 by decide) (payouts k tr)
  exact ⟨fee, hfee, by omega, by omega⟩

/-- At an admissible rate the fee neither overflows on its way nor exceeds the
amount it is taken from. -/
theorem feeFor_admissible (payout : UInt64) {f : UInt16} (hb : f.toNat ≤ 10000) :
    payout.toNat * f.toNat < 2 ^ 128 ∧ payout.toNat * f.toNat / 10000 < 2 ^ 64 ∧
      ∃ fee pa, feeFor payout f = .ok fee ∧ fee.toNat = payout.toNat * f.toNat / 10000 ∧
        checkedSub payout fee = some pa := by
  have hlt := payout.toNat_lt
  have hle := fee_le (n := payout.toNat) hb
  obtain ⟨fee, hok⟩ := feeFor_exists payout hb
  have hf := feeFor_ok hok hb
  obtain ⟨pa, hpa⟩ := checkedSub_exists (hf ▸ hle)
  refine ⟨?_, by omega, fee, pa, hok, hf, hpa⟩
  calc payout.toNat * f.toNat ≤ payout.toNat * 10000 := Nat.mul_le_mul_left _ hb
    _ < 2 ^ 128 := by omega

/-- The last accepted update of a settled session owes what was settled. -/
theorem Tracked.owed_settled {rt : Runtime} {start l : Ledger} {k : Pubkey} {tr : History rt}
    {s : Session} {a : Channel.State StateUpdate} {ctr : Channel.Trace StateUpdate}
    (htr : Tracked rt k (life k tr) s a ctr) (run : Run (Step rt) start tr l)
    (hclosed : a.phase = .closed) :
    (acceptedFor k (life k tr)).getLast?.elim 0 StateUpdate.owedToProvider =
      s.settledToProvider := by
  have hpaid := (Channel.run_valid htr.run).paid (by simp [hclosed])
  have hdue : a.due = s.settledToProvider.toNat := hpaid.symm.trans htr.agree.settled
  rw [htr.last run]
  cases ha : a.last with
  | none =>
    rw [Channel.State.due_none ha] at hdue
    exact UInt64.toNat_inj.mp hdue
  | some u =>
    rw [Channel.State.due_some ha] at hdue
    exact UInt64.toNat_inj.mp hdue

/-- What a settled session has paid along its history, all in the asset that it
held in escrow and to the parties themselves: together with the fees its last
owed amount to the provider, and the rest of the deposit to the consumer. The
fees are at most a tenth of that amount, and at a constant rate they fall short
of the fee on it by less than one unit a payout. -/
structure SettledInKind {rt : Runtime} (k : Pubkey) (s : Session) (tr : History rt) : Prop where
  owed : (acceptedFor k tr).getLast?.elim 0 StateUpdate.owedToProvider = s.settledToProvider
  earned : paidInKind k s .provider tr + paidInKind k s .fee tr = s.settledToProvider.toNat
  refunded : paidInKind k s .consumer tr + s.settledToProvider.toNat = s.deposited.toNat
  tenth : 10 * paidInKind k s .fee tr ≤ s.settledToProvider.toNat
  paid : 1 ≤ (payouts k tr).length
  rounded : ∀ f, (∀ x ∈ tr, ∀ cfg, ConfigAt rt x.before cfg → cfg.feeBps = f) →
    ∃ fee, feeFor s.settledToProvider f = .ok fee ∧ paidInKind k s .fee tr ≤ fee.toNat ∧
      fee.toNat ≤ paidInKind k s .fee tr + ((payouts k tr).length - 1)

/-- What it has paid in any asset. -/
theorem settled_totals {rt : Runtime} {start l : Ledger} {tr : History rt}
    (genesis : Genesis start) (run : Run (Step rt) start tr l) {k : Pubkey} {s : Session}
    (hs : (l k).data = .session s) (hsettled : s.status = .settled) :
    (acceptedFor k (life k tr)).getLast?.elim 0 StateUpdate.owedToProvider =
        s.settledToProvider ∧
      paidTo k .provider (life k tr) + paidTo k .fee (life k tr) = s.settledToProvider.toNat ∧
      paidTo k .consumer (life k tr) + s.settledToProvider.toNat = s.deposited.toNat := by
  obtain ⟨a, ctr, htr⟩ := run_tracked genesis run k s hs
  have hclosed : a.phase = .closed := by
    rw [htr.agree.phase, hsettled]
    rfl
  have books := Channel.run_conserved htr.run
  have hpayouts := books.payouts
  have hall := books.closed hclosed
  have hagree := htr.agree.settled
  have hearned := htr.earned
  have hrefunded := htr.refunded
  have hsplit := earned_eq k (life k tr)
  exact ⟨htr.owed_settled run hclosed, by omega, by omega⟩

/-- A session that ended settled has paid its last owed amount in its own asset,
whichever way it was closed and however often it was paid, if and only if each
payout of its life was told to pay in that asset. No fee of an admissible rate
overflows. -/
theorem fees_path_independent_iff {rt : Runtime} {start l : Ledger} {tr : History rt}
    (genesis : Genesis start) (run : Run (Step rt) start tr l) :
    (∀ k s, (l k).data = .session s → s.status = .settled →
      (SettledInKind k s (life k tr) ↔ ∀ x ∈ life k tr, PaysInKind k x)) ∧
      ∀ x cfg, (l x).data = .config cfg → ∀ payout : UInt64,
        payout.toNat * cfg.feeBps.toNat < 2 ^ 128 ∧
        payout.toNat * cfg.feeBps.toNat / 10000 < 2 ^ 64 ∧
        ∃ fee pa, feeFor payout cfg.feeBps = .ok fee ∧
          fee.toNat = payout.toNat * cfg.feeBps.toNat / 10000 ∧
          checkedSub payout fee = some pa := by
  constructor
  · intro k s hs hsettled
    obtain ⟨howed, hearned, hrefunded⟩ := settled_totals genesis run hs hsettled
    rw [← paidInKind_eq_iff genesis run hs]
    constructor
    · intro h r
      have hprovider := paidInKind_le k s .provider (life k tr)
      have hfee := paidInKind_le k s .fee (life k tr)
      have hconsumer := paidInKind_le k s .consumer (life k tr)
      have hshare := h.earned
      have hrest := h.refunded
      cases r <;> omega
    · intro hkind
      have hcharged : ∀ x ∈ life k tr, Charged k x := fun x hx =>
        run_charged genesis run k x (mem_life hx)
      have htenth := fees_tenth hcharged
      have hsum := earned_payouts hcharged
      have hsplit := earned_eq k (life k tr)
      have hne := run_paid genesis run k s hs hsettled
      have hw : (payouts k (life k tr)).sum = s.settledToProvider.toNat := by omega
      refine ⟨howed, ?_, ?_, ?_, List.length_pos_of_ne_nil hne, fun f constant => ?_⟩
      · rw [hkind, hkind]
        exact hearned
      · rw [hkind]
        exact hrefunded
      · rw [hkind]
        omega
      · rw [hkind]
        exact fees_rounded hcharged constant hne hw
  · intro x cfg hx payout
    have hfee := ((run_inv genesis run).config x cfg hx).1.fee
    exact feeFor_admissible payout (by omega)

section
open Localnet Transaction

/-- A checkpoint, and the rest paid after a dispute, at one rate. -/
def splitSession : Ledger × History Localnet.rt :=
  submit Localnet.start (deploy ++ [openSol 7 1000000,
    cosigned 5 (update 7 1 300001 1000)
      (.checkpointSettle (settleAccounts 7) (update 7 1 300001 1000)),
    cosigned 7 (update 7 2 400000 1500)
      (.initiateUnilateralClose (closeAccounts 7 provider) (update 7 2 400000 1500)),
    submitted 11 (.finalizeClose (finalizeAccounts 7))])

/-- The fee on 400000 is 2000. Paid in two parts, it is one less. -/
theorem fees_path_independent_split : ∃ s : Session, s.settledToProvider = 400000 ∧
    paidInKind (session 7) s .fee (life (session 7) splitSession.2) = 1999 ∧
    SettledInKind (session 7) s (life (session 7) splitSession.2) := by
  have run : Run (Step rt) Localnet.start splitSession.2 splitSession.1 := submit_run _ _
  have sol : (life (session 7) splitSession.2).all (fun x =>
      (loadSession x.before (session 7)).toOption.all fun s => s.mint.isNone) = true := by
    decide +kernel
  have paths : (life (session 7) splitSession.2).all (Event.passes · fun c =>
      c.vaultToken?.isNone) = true := by decide +kernel
  refine ⟨{ opened 7 1000000 none 0 with
      settledToProvider := 400000, lastNonce := 2, pendingPayout := 400000, pendingUnits := 1500
      status := .settled, challengeDeadline := 10 }, rfl, by decide +kernel,
    ((fees_path_independent_iff start_genesis run).1 (session 7) _ (by decide +kernel) rfl).mpr ?_⟩
  intro x hx ctx c ts s hl _ hs _
  have hsol := List.all_eq_true.mp sol x hx
  simp only [loadSession_ok.mpr hs, Except.toOption, Option.all_some,
    Option.isNone_iff_eq_none] at hsol
  have hpath := passes_of_mem paths hx hl
  rw [Option.isNone_iff_eq_none] at hpath
  exact ⟨fun _ => hsol, by simp [hpath]⟩

/-- A session in tokens goes to dispute. Somebody has sent it lamports, and
`finalize_close` pays these out. -/
def strayFinalize : Ledger × History Localnet.rt :=
  submit Localnet.start (deploy ++ [openSpl 7 1000000,
    ⟨[⟨0, [], [.external (.transfer stranger (session 7) 1000000)]⟩], 1⟩,
    cosigned 7 (update 7 1 400000 1500)
      (.initiateUnilateralClose (closeAccounts 7 provider) (update 7 1 400000 1500)),
    submitted 11 (.finalizeClose (finalizeAccounts 7))])

/-- The session as that leaves it. -/
def strayRecord : Session :=
  { opened 7 1000000 (some mint) 255 with
    settledToProvider := 400000, lastNonce := 1, pendingPayout := 400000, pendingUnits := 1500
    status := .settled, challengeDeadline := 10 }

/-- Then nobody gets a token. -/
theorem fees_path_dependent : ¬ ∀ (rt : Runtime) (start l : Ledger) (tr : History rt) (k : Pubkey)
    (s : Session), Genesis start → Run (Step rt) start tr l → (l k).data = .session s →
    s.status = .settled → SettledInKind k s (life k tr) := by
  intro h
  have run : Run (Step Localnet.rt) Localnet.start strayFinalize.2 strayFinalize.1 :=
    submit_run _ _
  have settled := h Localnet.rt Localnet.start strayFinalize.1 strayFinalize.2 (session 7)
    strayRecord start_genesis run (by decide +kernel) rfl
  have nothing : paidInKind (session 7) strayRecord .provider
      (life (session 7) strayFinalize.2) + paidInKind (session 7) strayRecord .fee
        (life (session 7) strayFinalize.2) ≠ strayRecord.settledToProvider.toNat := by
    decide +kernel
  exact nothing settled.earned

end

end SolMesh
