import SolMesh.Proofs.Loading
import SolMesh.Proofs.SessionMoves
import SolMesh.Proofs.Transfers

namespace SolMesh
open Outcome Words

/-- What an instruction paid out in one role, in whatever asset it moved. -/
def received (r : Role) (ts : List Transfer) : Nat :=
  (ts.map fun t => if t.role = r then t.amount.toNat else 0).sum

@[simp] theorem received_nil (r : Role) : received r [] = 0 := rfl

@[simp] theorem received_cons (r : Role) (t : Transfer) (ts : List Transfer) :
    received r (t :: ts) = (if t.role = r then t.amount.toNat else 0) + received r ts := by
  simp [received]

/-- The provider's receipts and the fees on them. -/
def earnings (ts : List Transfer) : Nat :=
  received .provider ts + received .fee ts

@[simp] theorem earnings_nil : earnings [] = 0 := rfl

/-- No account is debited more than all payouts together. -/
theorem debit_le (x : Pubkey) (ts : List Transfer) :
    debit x ts ≤ earnings ts + received .consumer ts := by
  unfold earnings
  induction ts with
  | nil => simp
  | cons t ts ih =>
    simp only [debit_cons, received_cons]
    cases t.role <;> simp only [reduceCtorEq, if_true, if_false] <;> split <;> omega

/-- The one source of all payouts is debited all of them. -/
theorem debit_source {x : Pubkey} {ts : List Transfer} (h : ∀ t ∈ ts, t.source = x) :
    debit x ts = earnings ts + received .consumer ts := by
  unfold earnings
  induction ts with
  | nil => simp
  | cons t ts ih =>
    have ht := h t List.mem_cons_self
    have hts := ih fun u hu => h u (List.mem_cons_of_mem t hu)
    simp only [debit_cons, received_cons, ht, if_true]
    cases t.role <;> simp only [reduceCtorEq, if_true, if_false] <;> omega

/-- The move of the channel that a successful call makes, read off the call,
the record it leaves and its payouts. -/
def Call.move {rt : Runtime} (ctx : TxContext) (s' : Session) (ts : List Transfer) :
    Call rt → Option SessionMove
  | .checkpointSettle _ u | .checkpointSettleSpl _ u => some (.checkpoint u (earnings ts))
  | .settleSession _ u | .settleSessionSpl _ u =>
    some (.settle u (earnings ts) (received .consumer ts))
  | .initiateUnilateralClose _ u => some (.initiate u s'.challengeDeadline.toInt)
  | .challenge _ u => some (.challenge u ctx.unixTimestamp.toInt)
  | .finalizeClose _ | .finalizeCloseSpl _ =>
    some (.finalize ctx.unixTimestamp.toInt (earnings ts) (received .consumer ts))
  | .cancelSession _ | .expireSession _ | .cancelSessionSpl _ | .expireSessionSpl _ =>
    some (.reclaim (received .consumer ts))
  | _ => none

/-- The token account a payout in tokens is told to draw on. -/
def Call.vaultToken? {rt : Runtime} : Call rt → Option Pubkey
  | .checkpointSettleSpl a _ | .settleSessionSpl a _ => some a.vaultToken
  | .finalizeCloseSpl a => some a.vaultToken
  | .cancelSessionSpl a | .expireSessionSpl a => some a.vaultToken
  | _ => none

theorem Call.not_payout_of_opens {rt : Runtime} {c : Call rt} (h : c.opens = true) :
    c.isSolPayout = false ∧ c.isSplPayout = false := by
  cases c <;> simp_all [Call.opens, Call.isSolPayout, Call.isSplPayout]

theorem Call.vaultToken_of_sol {rt : Runtime} {c : Call rt} (h : c.isSolPayout = true) :
    c.vaultToken? = none := by
  cases c <;> simp_all [Call.isSolPayout, Call.vaultToken?]

theorem Call.vaultToken_of_spl {rt : Runtime} {c : Call rt} (h : c.isSplPayout = true) :
    ∃ v, c.vaultToken? = some v := by
  cases c <;> simp_all [Call.isSplPayout, Call.vaultToken?]

theorem Call.solPayout_of_ignoresMint {rt : Runtime} {c : Call rt} (h : c.ignoresMint = true) :
    c.isSolPayout = true := by
  cases c <;> simp_all [Call.ignoresMint, Call.isSolPayout]

/-- Who is paid in which role. -/
def Session.payee (s : Session) (feeVault : Pubkey) : Role → Pubkey
  | .provider => s.provider
  | .fee => feeVault
  | .consumer => s.consumer

theorem Session.SameTerms.payee {s s' : Session} (terms : s.SameTerms s') (feeVault : Pubkey)
    (r : Role) : s'.payee feeVault r = s.payee feeVault r := by
  cases r with
  | provider => exact terms.provider
  | fee => rfl
  | consumer => exact terms.consumer

/-- The units a payout adds to the node's tracker, and its reputation reward. -/
def Session.work (s : Session) : SessionMove → Option (Nat × UInt32)
  | .checkpoint u _ | .settle u _ _ =>
    some (u.unitsConsumed.toNat - s.pendingUnits.toNat, reputationReward u.unitsConsumed)
  | .finalize _ _ _ => some (s.pendingUnits.toNat, reputationReward s.pendingUnits)
  | .initiate _ _ | .challenge _ _ | .reclaim _ => none

structure Node.Earned (n n' : Node) (work : Nat × UInt32) (earned : Nat) : Prop where
  identity : n' = n.credit n'.reputation n'.totalUnits n'.totalSettled
  units : n'.totalUnits.toNat = n.totalUnits.toNat + work.1
  reputation : n'.reputation = saturatingAdd n.reputation work.2
  settled : n'.totalSettled.toNat = n.totalSettled.toNat + earned

/-- The records an instruction on session `k` leaves: the session's own, the
trackers of its node when work was paid, and all others as they were. -/
structure Recorded (l l' : Ledger) (k : Pubkey) (s s' : Session) (work : Option (Nat × UInt32))
    (earned : Nat) : Prop where
  before : (l k).data = .session s
  after : (l' k).data = .session s'
  worked : ∀ w, work = some w → ∃ n n', (l s.node).data = .node n ∧
    (l' s.node).data = .node n' ∧ n.Earned n' w earned
  idle : ∀ x n, (l x).data = .node n → work = none ∨ x ≠ s.node → (l' x).data = .node n
  rest : ∀ x, x ≠ k → (∀ n, (l x).data ≠ .node n) → (∀ t, (l x).data ≠ .token t) →
    (l' x).data = (l x).data

/-- The token accounts aside, both ledgers hold the same data. -/
def SameRecords (l l' : Ledger) : Prop :=
  ∀ x, (∀ t, (l x).data ≠ .token t) → (l' x).data = (l x).data

theorem recorded_session {l mid : Ledger} {k : Pubkey} {s : Session} (s' : Session)
    {earned : Nat} (hs : (l k).data = .session s) (hm : SameRecords l mid) :
    Recorded l (mid.setData k (.session s')) k s s' none earned := by
  refine ⟨hs, by simp, by simp, fun x n hn _ => ?_, fun x hx _ ht => ?_⟩
  · have hx : x ≠ k := ne_of_data hn hs (by simp)
    rw [Ledger.setData_data, if_neg hx, hm x (by simp [hn]), hn]
  · rw [Ledger.setData_data, if_neg hx, hm x ht]

theorem recorded_node {l mid : Ledger} {k : Pubkey} {s : Session} (s' : Session) {n n' : Node}
    {work : Nat × UInt32} {earned : Nat} (hs : (l k).data = .session s)
    (hn : (l s.node).data = .node n) (he : n.Earned n' work earned) (hm : SameRecords l mid) :
    Recorded l ((mid.setData s.node (.node n')).setData k (.session s')) k s s' (some work)
      earned := by
  have hne : s.node ≠ k := ne_of_data hn hs (by simp)
  refine ⟨hs, by simp, ?_, fun x m hx hw => ?_, fun x hx hnode ht => ?_⟩
  · intro w hw
    cases hw
    exact ⟨n, n', hn, by simp [hne], he⟩
  · have hxk : x ≠ k := ne_of_data hx hs (by simp)
    have hxn : x ≠ s.node := by simpa using hw
    rw [Ledger.setData_data, if_neg hxk, Ledger.setData_data, if_neg hxn, hm x (by simp [hx]), hx]
  · have hxn : x ≠ s.node := ne_of_absent (hnode n) hn
    rw [Ledger.setData_data, if_neg hx, Ledger.setData_data, if_neg hxn, hm x ht]

theorem token_of_record {l mid : Ledger} {k x : Pubkey} {s s' : Session} {t : TokenAccount}
    (hs : (l k).data = .session s) (hx : (l x).data = .token t) :
    ((mid.setData k (.session s')) x).data = (mid x).data := by
  rw [Ledger.setData_data, if_neg (ne_of_data hx hs (by simp))]

theorem token_of_records {l mid : Ledger} {k node x : Pubkey} {s s' : Session} {n n' : Node}
    {t : TokenAccount} (hs : (l k).data = .session s) (hn : (l node).data = .node n)
    (hx : (l x).data = .token t) :
    (((mid.setData node (.node n')).setData k (.session s')) x).data = (mid x).data := by
  rw [token_of_record hs hx, Ledger.setData_data, if_neg (ne_of_data hx hn (by simp))]

/-- The payouts were in lamports, from the session's own account. -/
structure PaysLamports (rt : Runtime) (l l' : Ledger) (k : Pubkey) (s : Session)
    (ts : List Transfer) : Prop where
  lamports : ∀ x, (l' x).lamports.toNat + debit x ts = (l x).lamports.toNat + credit x ts
  tokens : ∀ x t, (l x).data = .token t → (l' x).data = .token t
  source : ∀ t ∈ ts, t.session = k ∧ t.source = k
  dest : ∃ cfg, ConfigAt rt l cfg ∧ ∀ t ∈ ts, t.dest = s.payee cfg.feeVault t.role

/-- The payouts were in tokens, from an account of the session's vault
authority to accounts of the same mint. -/
structure PaysTokens (rt : Runtime) (l l' : Ledger) (k : Pubkey) (s : Session)
    (vaultToken : Pubkey) (ts : List Transfer) : Prop where
  lamports : ∀ x, (l' x).lamports = (l x).lamports
  tokens : ∀ x t, (l x).data = .token t → ∃ t', (l' x).data = .token t' ∧
    t'.mint = t.mint ∧ t'.owner = t.owner ∧
    t'.amount.toNat + debit x ts = t.amount.toNat + credit x ts
  authority : ∃ b, rt.find (.vault k) = some (rt.vaultAuthority k, b)
  rights : ∀ t ∈ ts, t.amount ≠ 0 → ∃ a b, (l t.source).data = .token a ∧
    (l t.dest).data = .token b ∧ a.mint = b.mint ∧ a.owner = rt.vaultAuthority k
  source : ∀ t ∈ ts, t.session = k ∧ t.source = vaultToken
  dest : ∃ cfg, ConfigAt rt l cfg ∧
    ∀ t ∈ ts, ∃ b, (l t.dest).data = .token b ∧ b.owner = s.payee cfg.feeVault t.role

/-- The fee is the configured share of what was earned. -/
def ChargesFee (rt : Runtime) (l : Ledger) (ts : List Transfer) : Prop :=
  ∃ cfg, ConfigAt rt l cfg ∧ (cfg.feeBps.toNat ≤ 10000 →
    received .fee ts = earnings ts * cfg.feeBps.toNat / 10000)

/-- What a successful instruction on an existing session does, whichever asset
it pays in. -/
structure SessionEffect (rt : Runtime) (l l' : Ledger) (ts : List Transfer) (k : Pubkey)
    (s s' : Session) (mv : SessionMove) : Prop where
  step : Session.Step rt k s mv s'
  recorded : Recorded l l' k s s' (s.work mv) (received .provider ts)
  paid : mv.payout = earnings ts
  refunded : mv.refund = received .consumer ts
  fee : ChargesFee rt l ts

theorem feeFor_ok {payout fee : UInt64} {feeBps : UInt16} (h : feeFor payout feeBps = .ok fee)
    (hb : feeBps.toNat ≤ 10000) : fee.toNat = payout.toNat * feeBps.toNat / 10000 := by
  simp only [feeFor, bind_ok, require_ok, pure_ok] at h
  obtain ⟨_, _, _, _, rfl⟩ := h
  have hd : bpsDenominator.toNat = 10000 := rfl
  have hp := payout.toNat_lt
  have hle : payout.toNat * feeBps.toNat / 10000 ≤ payout.toNat := by
    calc payout.toNat * feeBps.toNat / 10000 ≤ payout.toNat * 10000 / 10000 :=
          Nat.div_le_div_right (Nat.mul_le_mul_left _ hb)
      _ = payout.toNat := by omega
  rw [hd, UInt64.toNat_ofNat', Nat.mod_eq_of_lt (by omega)]

/-- The three payouts of a settlement. -/
def settlementTransfers (k src toProvider toFee toConsumer : Pubkey)
    (providerAmount fee remainder : UInt64) : List Transfer :=
  [⟨k, .provider, src, toProvider, providerAmount⟩, ⟨k, .fee, src, toFee, fee⟩,
   ⟨k, .consumer, src, toConsumer, remainder⟩]

section
variable (k src toProvider toFee toConsumer : Pubkey) (pa fee rem : UInt64)

@[simp] theorem earnings_settlement :
    earnings (settlementTransfers k src toProvider toFee toConsumer pa fee rem) =
      pa.toNat + fee.toNat := by
  simp [earnings, settlementTransfers]

@[simp] theorem received_consumer_settlement :
    received .consumer (settlementTransfers k src toProvider toFee toConsumer pa fee rem) =
      rem.toNat := by
  simp [settlementTransfers]

@[simp] theorem received_fee_settlement :
    received .fee (settlementTransfers k src toProvider toFee toConsumer pa fee rem) =
      fee.toNat := by
  simp [settlementTransfers]

@[simp] theorem received_provider_settlement :
    received .provider (settlementTransfers k src toProvider toFee toConsumer pa fee rem) =
      pa.toNat := by
  simp [settlementTransfers]

end

theorem chargesFee_settlement {rt : Runtime} {l : Ledger} {cfg : Config}
    (k src toProvider toFee toConsumer : Pubkey) (rem : UInt64) {delta pa fee : UInt64}
    (hc : ConfigAt rt l cfg) (hf : feeFor delta cfg.feeBps = .ok fee)
    (hpa : pa.toNat + fee.toNat = delta.toNat) :
    ChargesFee rt l (settlementTransfers k src toProvider toFee toConsumer pa fee rem) :=
  ⟨cfg, hc, fun hb => by
    rw [received_fee_settlement, earnings_settlement, hpa, feeFor_ok hf hb]⟩

theorem chargesFee_refund {rt : Runtime} {l : Ledger} {cfg : Config} {k src dst : Pubkey}
    {rem : UInt64} (hc : ConfigAt rt l cfg) : ChargesFee rt l [⟨k, .consumer, src, dst, rem⟩] :=
  ⟨cfg, hc, fun _ => by simp [earnings]⟩

/-- The payouts of a settlement in lamports, once its records are written. -/
theorem paysLamports_settlement {rt : Runtime} {l l₁ l₂ l₃ l' : Ledger} {k : Pubkey}
    {s : Session} {cfg : Config} {pa fee rem : UInt64} (hc : ConfigAt rt l cfg)
    (h₁ : pdaTransferLamports l k s.provider pa = .ok l₁)
    (h₂ : pdaTransferLamports l₁ k cfg.feeVault fee = .ok l₂)
    (h₃ : pdaTransferLamports l₂ k s.consumer rem = .ok l₃)
    (hlam : ∀ x, (l' x).lamports = (l₃ x).lamports)
    (htok : ∀ x t, (l x).data = .token t → (l' x).data = (l₃ x).data) :
    SameRecords l l₃ ∧ PaysLamports rt l l' k s
      (settlementTransfers k k s.provider cfg.feeVault s.consumer pa fee rem) := by
  have hm : MovesLamports l l₃
      (settlementTransfers k k s.provider cfg.feeVault s.consumer pa fee rem) :=
    .cons (pdaTransferLamports_ok h₁) (.cons (pdaTransferLamports_ok h₂)
      (.cons (pdaTransferLamports_ok h₃) (.nil l₃)))
  refine ⟨fun x _ => hm.data x, fun x => by rw [hlam]; exact hm.lamports x, fun x t ht => ?_,
    by simp [settlementTransfers], cfg, hc, by simp [settlementTransfers, Session.payee]⟩
  rw [htok x t ht, hm.data, ht]

theorem settlementRefund_ok {s : Session} {owed rem : UInt64} {isCheckpoint : Bool}
    (h : settlementRefund s owed isCheckpoint = .ok rem) :
    (isCheckpoint = true → rem = 0) ∧
      (isCheckpoint = false → rem.toNat + owed.toNat = s.deposited.toNat) := by
  unfold settlementRefund at h
  cases isCheckpoint with
  | true =>
    have he : 0 = rem := pure_ok.mp h
    simp [he]
  | false => simpa [checkedSub_some] using h

theorem settlementRefund_exists {s : Session} {owed : UInt64}
    (hhi : owed.toNat ≤ s.deposited.toNat) (isCheckpoint : Bool) :
    ∃ rem, settlementRefund s owed isCheckpoint = .ok rem := by
  cases isCheckpoint with
  | true => exact ⟨0, rfl⟩
  | false =>
    obtain ⟨rem, hrem⟩ := checkedSub_exists hhi
    exact ⟨rem, okOr_ok.mpr hrem⟩

/-- The move a settlement makes. -/
def settlementMove (u : StateUpdate) (isCheckpoint : Bool) (ts : List Transfer) : SessionMove :=
  if isCheckpoint then .checkpoint u (earnings ts)
  else .settle u (earnings ts) (received .consumer ts)

/-- The records of a settlement, whichever asset it pays in. -/
theorem settlement_effect {rt : Runtime} {l mid : Ledger}
    {k src toProvider toFee toConsumer : Pubkey} {cfg : Config} {n : Node} {s : Session}
    {u : StateUpdate} {isCheckpoint : Bool} {delta fee pa rem units settled : UInt64}
    (hs : (l k).data = .session s) (hn : (l s.node).data = .node n) (hc : ConfigAt rt l cfg)
    (hstatus : s.status = .open) (accepts : Accepts rt k s u)
    (hdelta : delta.toNat + s.settledToProvider.toNat = u.owedToProvider.toNat)
    (hfee : feeFor delta cfg.feeBps = .ok fee) (hpa : pa.toNat + fee.toNat = delta.toNat)
    (hrem : settlementRefund s u.owedToProvider isCheckpoint = .ok rem)
    (hunits : units.toNat =
      n.totalUnits.toNat + (saturatingSub u.unitsConsumed s.pendingUnits).toNat)
    (hsettled : settled.toNat = n.totalSettled.toNat + pa.toNat) (same : SameRecords l mid) :
    SessionEffect rt l
      ((mid.setData s.node (.node (n.credit (saturatingAdd n.reputation
        (reputationReward u.unitsConsumed)) units settled))).setData k
          (.session (s.settle u isCheckpoint)))
      (settlementTransfers k src toProvider toFee toConsumer pa fee rem) k s
      (s.settle u isCheckpoint) (settlementMove u isCheckpoint
        (settlementTransfers k src toProvider toFee toConsumer pa fee rem)) := by
  have earned : n.Earned (n.credit (saturatingAdd n.reputation
      (reputationReward u.unitsConsumed)) units settled)
      (u.unitsConsumed.toNat - s.pendingUnits.toNat, reputationReward u.unitsConsumed)
      (received .provider (settlementTransfers k src toProvider toFee toConsumer pa fee rem)) := by
    refine ⟨rfl, ?_, rfl, ?_⟩
    · rw [← saturatingSub_toNat]
      exact hunits
    · rw [received_provider_settlement]
      exact hsettled
  have recorded := recorded_node (s.settle u isCheckpoint) hs hn earned same
  have charges := chargesFee_settlement k src toProvider toFee toConsumer rem hc hfee hpa
  obtain ⟨hnone, hall⟩ := settlementRefund_ok hrem
  cases isCheckpoint with
  | true =>
    refine ⟨.checkpoint hstatus accepts ?_, recorded, rfl, ?_, charges⟩
    · rw [earnings_settlement]
      omega
    · rw [received_consumer_settlement, hnone rfl]
      rfl
  | false =>
    refine ⟨.settle hstatus accepts ?_ ?_, recorded, rfl, rfl, charges⟩
    · rw [earnings_settlement]
      omega
    · rw [received_consumer_settlement, hall rfl]

theorem applyState_effect {rt : Runtime} {ctx : TxContext} {l l' : Ledger} {a : Settle rt}
    {u : StateUpdate} {isCheckpoint : Bool} {ts : List Transfer}
    (hp : ctx.precompiled rt = true)
    (h : applyState rt ctx l a u isCheckpoint = .ok (l', ts)) :
    ∃ s, s.mint = none ∧
      SessionEffect rt l l' ts a.session s (s.settle u isCheckpoint)
        (settlementMove u isCheckpoint ts) ∧
      PaysLamports rt l l' a.session s ts := by
  simp only [applyState, bind_ok] at h
  obtain ⟨⟨cfg, n, s⟩, hload, h⟩ := h
  obtain ⟨hl, hfv, _⟩ := Settle.load_ok.mp hload
  simp only [require_ok, okOr_ok, pure_ok, checkedSub_some, checkedAdd_some,
    Prod.mk.injEq] at h
  obtain ⟨_, hstatus, _, hmint, _, hnonce, _, hverify, delta, hdelta, fee, hfee, pa, hpa, units,
    hunits, l₁, h₁, l₂, h₂, rem, hrem, l₃, h₃, settled, hsettled, rfl, rfl⟩ := h
  rw [← hl.hasProvider] at h₁
  rw [hfv] at h₂
  rw [← hl.hasConsumer] at h₃
  rw [← hl.hasNode, ← hl.hasProvider, ← hl.hasConsumer, hfv]
  have hn : (l s.node).data = .node n := hl.hasNode ▸ hl.nodeData
  obtain ⟨same, pays⟩ := paysLamports_settlement hl.configAt h₁ h₂ h₃ (by simp)
    fun x t ht => token_of_records hl.sessionData hn ht
  exact ⟨s, hmint, settlement_effect hl.sessionData hn hl.configAt hstatus
    (accepts_of_verify hp hnonce hverify) hdelta hfee hpa hrem hunits hsettled same, pays⟩

/-- The records of a finished dispute, whichever asset it pays in. -/
theorem finalize_effect {rt : Runtime} {l mid : Ledger} {k src toProvider toFee toConsumer : Pubkey}
    {cfg : Config} {n : Node} {s : Session} {now : Int64} {delta fee pa rem units settled : UInt64}
    (hs : (l k).data = .session s) (hn : (l s.node).data = .node n) (hc : ConfigAt rt l cfg)
    (hstatus : s.status = .closing) (late : s.challengeDeadline < now)
    (hdelta : delta.toNat + s.settledToProvider.toNat = s.pendingPayout.toNat)
    (hfee : feeFor delta cfg.feeBps = .ok fee) (hpa : pa.toNat + fee.toNat = delta.toNat)
    (hrem : rem.toNat + s.pendingPayout.toNat = s.deposited.toNat)
    (hunits : units.toNat = n.totalUnits.toNat + s.pendingUnits.toNat)
    (hsettled : settled.toNat = n.totalSettled.toNat + pa.toNat) (same : SameRecords l mid) :
    SessionEffect rt l
      ((mid.setData s.node (.node (n.credit (saturatingAdd n.reputation
        (reputationReward s.pendingUnits)) units settled))).setData k
          (.session { s with settledToProvider := s.pendingPayout, status := .settled }))
      (settlementTransfers k src toProvider toFee toConsumer pa fee rem) k s
      { s with settledToProvider := s.pendingPayout, status := .settled }
      (.finalize now.toInt (earnings (settlementTransfers k src toProvider toFee toConsumer pa
        fee rem)) (received .consumer (settlementTransfers k src toProvider toFee toConsumer pa
          fee rem))) := by
  have earned : n.Earned (n.credit (saturatingAdd n.reputation
      (reputationReward s.pendingUnits)) units settled)
      (s.pendingUnits.toNat, reputationReward s.pendingUnits)
      (received .provider (settlementTransfers k src toProvider toFee toConsumer pa fee rem)) :=
    ⟨rfl, hunits, rfl, by rw [received_provider_settlement]; exact hsettled⟩
  refine ⟨.finalize now hstatus (Int64.lt_iff_toInt_lt.mp late) ?_ ?_,
    recorded_node _ hs hn earned same, rfl, rfl,
    chargesFee_settlement k src toProvider toFee toConsumer rem hc hfee hpa⟩
  · rw [earnings_settlement]
    omega
  · rw [received_consumer_settlement, hrem]

theorem finalizeHandler_effect {rt : Runtime} {ctx : TxContext} {l l' : Ledger}
    {a : FinalizeClose rt} {ts : List Transfer}
    (h : finalizeHandler rt ctx l a = .ok (l', ts)) :
    ∃ s, SessionEffect rt l l' ts a.session s
        { s with settledToProvider := s.pendingPayout, status := .settled }
        (.finalize ctx.unixTimestamp.toInt (earnings ts) (received .consumer ts)) ∧
      PaysLamports rt l l' a.session s ts := by
  simp only [finalizeHandler, bind_ok] at h
  obtain ⟨⟨cfg, n, s⟩, hload, h⟩ := h
  obtain ⟨hl, hfv⟩ := FinalizeClose.load_ok.mp hload
  simp only [require_ok, okOr_ok, pure_ok, checkedSub_some, checkedAdd_some,
    Prod.mk.injEq] at h
  obtain ⟨_, hstatus, _, late, delta, hdelta, fee, hfee, pa, hpa, l₁, h₁, l₂, h₂, units, hunits,
    settled, hsettled, rem, hrem, l₃, h₃, rfl, rfl⟩ := h
  rw [← hl.hasProvider] at h₁
  rw [hfv] at h₂
  rw [← hl.hasConsumer] at h₃
  rw [← hl.hasNode, ← hl.hasProvider, ← hl.hasConsumer, hfv]
  have hn : (l s.node).data = .node n := hl.hasNode ▸ hl.nodeData
  obtain ⟨same, pays⟩ := paysLamports_settlement hl.configAt h₁ h₂ h₃ (by simp)
    fun x t ht => token_of_records hl.sessionData hn ht
  exact ⟨s, finalize_effect hl.sessionData hn hl.configAt hstatus late hdelta hfee hpa hrem hunits
    hsettled same, pays⟩

/-- The record of a refund, whichever asset it pays in. -/
theorem refund_effect {rt : Runtime} {l mid : Ledger} {k src dst : Pubkey} {cfg : Config}
    {s : Session} {status : SessionStatus} {rem : UInt64} (hs : (l k).data = .session s)
    (hc : ConfigAt rt l cfg)
    (step : Session.Step rt k s (.reclaim rem.toNat) { s with status := status })
    (same : SameRecords l mid) :
    SessionEffect rt l (mid.setData k (.session { s with status := status }))
      [⟨k, .consumer, src, dst, rem⟩] k s { s with status := status }
      (.reclaim (received .consumer [⟨k, .consumer, src, dst, rem⟩])) := by
  have hr : received .consumer [⟨k, .consumer, src, dst, rem⟩] = rem.toNat := by simp
  refine ⟨hr ▸ step, recorded_session _ hs same, by simp [earnings, Channel.Move.payout], rfl,
    chargesFee_refund hc⟩

theorem refundConsumer_effect {rt : Runtime} {l l' : Ledger} {k consumer : Pubkey} {cfg : Config}
    {s : Session} {status : SessionStatus} {ts : List Transfer} (hs : (l k).data = .session s)
    (hconsumer : s.consumer = consumer) (hc : ConfigAt rt l cfg)
    (step : ∀ rem : UInt64, rem.toNat + s.settledToProvider.toNat = s.deposited.toNat →
      Session.Step rt k s (.reclaim rem.toNat) { s with status := status })
    (h : refundConsumer l s k consumer status = .ok (l', ts)) :
    SessionEffect rt l l' ts k s { s with status := status }
        (.reclaim (received .consumer ts)) ∧
      PaysLamports rt l l' k s ts := by
  simp only [refundConsumer, bind_ok, okOr_ok, pure_ok, checkedSub_some, Prod.mk.injEq] at h
  obtain ⟨rem, hrem, l₁, h₁, rfl, rfl⟩ := h
  subst hconsumer
  have hm : MovesLamports l l₁ [⟨k, .consumer, k, s.consumer, rem⟩] :=
    .cons (pdaTransferLamports_ok h₁) (.nil l₁)
  refine ⟨refund_effect hs hc (step rem hrem) fun x _ => hm.data x, fun x => ?_, fun x t ht => ?_,
    by simp, cfg, hc, by simp [Session.payee]⟩
  · rw [exitAccount_writable, Ledger.setData_lamports]
    exact hm.lamports x
  · rw [exitAccount_writable, token_of_record hs ht, hm.data, ht]

theorem cancelHandler_effect {rt : Runtime} {l l' : Ledger} {a : CancelSession rt}
    {ts : List Transfer} (h : cancelHandler rt l a = .ok (l', ts)) :
    ∃ s, SessionEffect rt l l' ts a.session s { s with status := .cancelled }
        (.reclaim (received .consumer ts)) ∧
      PaysLamports rt l l' a.session s ts := by
  simp only [cancelHandler, bind_ok, require_ok] at h
  obtain ⟨s, hload, _, hstatus, _, hunused, h⟩ := h
  obtain ⟨⟨cfg, hl⟩, hconsumer⟩ := CancelSession.load_ok.mp hload
  exact ⟨s, refundConsumer_effect hl.sessionData hconsumer hl.configAt
    (fun rem hrem => .cancel hstatus hunused hrem) h⟩

theorem expireHandler_effect {rt : Runtime} {ctx : TxContext} {l l' : Ledger}
    {a : ExpireSession rt} {ts : List Transfer} (h : expireHandler rt ctx l a = .ok (l', ts)) :
    ∃ s, SessionEffect rt l l' ts a.session s { s with status := .expired }
        (.reclaim (received .consumer ts)) ∧
      PaysLamports rt l l' a.session s ts := by
  simp only [expireHandler, bind_ok, require_ok] at h
  obtain ⟨s, hload, _, hstatus, _, late, h⟩ := h
  obtain ⟨⟨cfg, hl⟩, hconsumer⟩ := ExpireSession.load_ok.mp hload
  exact ⟨s, refundConsumer_effect hl.sessionData hconsumer hl.configAt
    (fun rem hrem => .expire ctx.unixTimestamp hstatus (Int64.lt_iff_toInt_lt.mp late) hrem) h⟩

theorem MovesTokens.sameRecords {l l' : Ledger} {authority : Pubkey} {ts : List Transfer}
    (h : MovesTokens l l' authority ts) : SameRecords l l' :=
  h.data

/-- Payouts in tokens, once the records are written over their outcome. -/
theorem MovesTokens.pays {rt : Runtime} {l mid l' : Ledger} {k v authority : Pubkey} {b : UInt8}
    {s : Session} {cfg : Config} {ts : List Transfer} (hm : MovesTokens l mid authority ts)
    (hauth : rt.find (.vault k) = some (authority, b)) (hc : ConfigAt rt l cfg)
    (hlam : ∀ x, (l' x).lamports = (mid x).lamports)
    (htok : ∀ x t, (l x).data = .token t → (l' x).data = (mid x).data)
    (source : ∀ t ∈ ts, t.session = k ∧ t.source = v)
    (dest : ∀ t ∈ ts, ∃ a, (l t.dest).data = .token a ∧ a.owner = s.payee cfg.feeVault t.role) :
    PaysTokens rt l l' k s v ts := by
  refine ⟨fun x => (hlam x).trans (hm.lamports x), fun x t ht => ?_, ⟨b, ?_⟩, fun t ht hne => ?_,
    source, cfg, hc, dest⟩
  · obtain ⟨t', h', hmint, howner, he⟩ := hm.token x t ht
    exact ⟨t', (htok x t ht).trans h', hmint, howner, he⟩
  · rw [Runtime.vaultAuthority_of_find hauth]
    exact hauth
  · rw [Runtime.vaultAuthority_of_find hauth]
    exact hm.rights t ht hne

theorem paysTokens_settlement {rt : Runtime} {l l₁ l₂ l₃ l' : Ledger} {a : PayoutSpl rt}
    {s : Session} {n : Node} {cfg : Config} {pa fee rem : UInt64}
    (hl : PartiesLoaded rt l a.config a.node a.session a.provider a.consumer a.asset
      a.mplCoreProgram cfg n s) (ht : TokensLoaded rt l a cfg)
    (h₁ : transferFromVault rt l a.vaultToken a.providerToken a.vaultAuthority a.session
      s.vaultBump pa = .ok l₁)
    (h₂ : transferFromVault rt l₁ a.vaultToken a.feeToken a.vaultAuthority a.session
      s.vaultBump fee = .ok l₂)
    (h₃ : transferFromVault rt l₂ a.vaultToken a.consumerToken a.vaultAuthority a.session
      s.vaultBump rem = .ok l₃)
    (hlam : ∀ x, (l' x).lamports = (l₃ x).lamports)
    (htok : ∀ x t, (l x).data = .token t → (l' x).data = (l₃ x).data) :
    SameRecords l l₃ ∧ PaysTokens rt l l' a.session s a.vaultToken
      (settlementTransfers a.session a.vaultToken a.providerToken a.feeToken a.consumerToken pa
        fee rem) := by
  obtain ⟨r₁, s₁⟩ := transferFromVault_ok h₁
  obtain ⟨r₂, s₂⟩ := transferFromVault_ok h₂
  obtain ⟨r₃, s₃⟩ := transferFromVault_ok h₃
  have hm : MovesTokens l l₃ a.vaultAuthority (settlementTransfers a.session a.vaultToken
      a.providerToken a.feeToken a.consumerToken pa fee rem) :=
    .cons r₁ s₁ (.cons r₂ s₂ (.cons r₃ s₃ (.nil l₃ _)))
  obtain ⟨b, hb⟩ := ht.authority
  refine ⟨hm.sameRecords, hm.pays hb hl.configAt hlam htok (by simp [settlementTransfers]) ?_⟩
  intro t hmem
  simp only [settlementTransfers, List.mem_cons, List.not_mem_nil, or_false] at hmem
  rcases hmem with rfl | rfl | rfl
  · simpa only [Session.payee, hl.hasProvider] using ht.provider
  · simpa only [Session.payee] using ht.fee
  · simpa only [Session.payee, hl.hasConsumer] using ht.consumer

theorem applyStateSpl_effect {rt : Runtime} {ctx : TxContext} {l l' : Ledger} {a : SettleSpl rt}
    {u : StateUpdate} {isCheckpoint : Bool} {ts : List Transfer}
    (hp : ctx.precompiled rt = true)
    (h : applyStateSpl rt ctx l a u isCheckpoint = .ok (l', ts)) :
    ∃ s, s.mint ≠ none ∧
      SessionEffect rt l l' ts a.session s (s.settle u isCheckpoint)
        (settlementMove u isCheckpoint ts) ∧
      PaysTokens rt l l' a.session s a.vaultToken ts := by
  simp only [applyStateSpl, bind_ok] at h
  obtain ⟨⟨cfg, n, s⟩, hload, h⟩ := h
  obtain ⟨hl, ht, _⟩ := SettleSpl.load_ok.mp hload
  simp only [require_ok, okOr_ok, pure_ok, checkedSub_some, checkedAdd_some,
    Prod.mk.injEq] at h
  obtain ⟨_, hstatus, _, hmint, _, hnonce, _, hverify, delta, hdelta, fee, hfee, pa, hpa,
    l₁, h₁, l₂, h₂, units, hunits, rem, hrem, l₃, h₃, settled, hsettled, rfl, rfl⟩ := h
  rw [← hl.hasNode]
  have hn : (l s.node).data = .node n := hl.hasNode ▸ hl.nodeData
  obtain ⟨same, pays⟩ := paysTokens_settlement hl ht h₁ h₂ h₃ (by simp)
    fun x t ht => token_of_records hl.sessionData hn ht
  exact ⟨s, hmint, settlement_effect hl.sessionData hn hl.configAt hstatus
    (accepts_of_verify hp hnonce hverify) hdelta hfee hpa hrem hunits hsettled same, pays⟩

theorem finalizeCloseSplHandler_effect {rt : Runtime} {ctx : TxContext} {l l' : Ledger}
    {a : FinalizeCloseSpl rt} {ts : List Transfer}
    (h : finalizeCloseSplHandler rt ctx l a = .ok (l', ts)) :
    ∃ s, s.mint ≠ none ∧
      SessionEffect rt l l' ts a.session s
        { s with settledToProvider := s.pendingPayout, status := .settled }
        (.finalize ctx.unixTimestamp.toInt (earnings ts) (received .consumer ts)) ∧
      PaysTokens rt l l' a.session s a.vaultToken ts := by
  simp only [finalizeCloseSplHandler, bind_ok] at h
  obtain ⟨⟨cfg, n, s⟩, hload, h⟩ := h
  obtain ⟨hl, ht⟩ := PayoutSpl.load_ok.mp hload
  simp only [require_ok, okOr_ok, pure_ok, checkedSub_some, checkedAdd_some,
    Prod.mk.injEq] at h
  obtain ⟨_, hstatus, _, hmint, _, late, delta, hdelta, fee, hfee, pa, hpa, l₁, h₁, l₂, h₂,
    units, hunits, rem, hrem, l₃, h₃, settled, hsettled, rfl, rfl⟩ := h
  rw [← hl.hasNode]
  have hn : (l s.node).data = .node n := hl.hasNode ▸ hl.nodeData
  obtain ⟨same, pays⟩ := paysTokens_settlement hl ht h₁ h₂ h₃ (by simp)
    fun x t ht => token_of_records hl.sessionData hn ht
  exact ⟨s, hmint, finalize_effect hl.sessionData hn hl.configAt hstatus late hdelta hfee hpa hrem
    hunits hsettled same, pays⟩

theorem refundConsumerSpl_effect {rt : Runtime} {l l' : Ledger} {a : LifecycleSpl rt} {s : Session}
    {status : SessionStatus} {ts : List Transfer} (hload : a.load rt l = .ok s)
    (step : ∀ rem : UInt64, rem.toNat + s.settledToProvider.toNat = s.deposited.toNat →
      Session.Step rt a.session s (.reclaim rem.toNat) { s with status := status })
    (h : refundConsumerSpl rt l a s status = .ok (l', ts)) :
    SessionEffect rt l l' ts a.session s { s with status := status }
        (.reclaim (received .consumer ts)) ∧
      PaysTokens rt l l' a.session s a.vaultToken ts := by
  obtain ⟨⟨cfg, hl⟩, hconsumer, ⟨b, hb⟩, _, ht⟩ := LifecycleSpl.load_ok.mp hload
  simp only [refundConsumerSpl, bind_ok, okOr_ok, pure_ok, checkedSub_some, Prod.mk.injEq] at h
  obtain ⟨rem, hrem, l₁, h₁, rfl, rfl⟩ := h
  obtain ⟨r₁, s₁⟩ := transferFromVault_ok h₁
  have hm : MovesTokens l l₁ a.vaultAuthority
      [⟨a.session, .consumer, a.vaultToken, a.consumerToken, rem⟩] := .cons r₁ s₁ (.nil l₁ _)
  refine ⟨refund_effect hl.sessionData hl.configAt (step rem hrem) hm.sameRecords,
    hm.pays hb hl.configAt (by simp) (fun x t hx => ?_) (by simp) ?_⟩
  · rw [exitAccount_writable, token_of_record hl.sessionData hx]
  · intro t hmem
    obtain rfl := List.mem_singleton.mp hmem
    simpa only [Session.payee, hconsumer] using ht

theorem cancelSessionSplHandler_effect {rt : Runtime} {l l' : Ledger} {a : LifecycleSpl rt}
    {ts : List Transfer} (h : cancelSessionSplHandler rt l a = .ok (l', ts)) :
    ∃ s, s.mint ≠ none ∧
      SessionEffect rt l l' ts a.session s { s with status := .cancelled }
        (.reclaim (received .consumer ts)) ∧
      PaysTokens rt l l' a.session s a.vaultToken ts := by
  simp only [cancelSessionSplHandler, bind_ok, require_ok] at h
  obtain ⟨s, hload, _, hstatus, _, hmint, _, hunused, _, _, h⟩ := h
  exact ⟨s, hmint, refundConsumerSpl_effect hload
    (fun rem hrem => .cancel hstatus hunused hrem) h⟩

theorem expireSessionSplHandler_effect {rt : Runtime} {ctx : TxContext} {l l' : Ledger}
    {a : LifecycleSpl rt} {ts : List Transfer}
    (h : expireSessionSplHandler rt ctx l a = .ok (l', ts)) :
    ∃ s, s.mint ≠ none ∧
      SessionEffect rt l l' ts a.session s { s with status := .expired }
        (.reclaim (received .consumer ts)) ∧
      PaysTokens rt l l' a.session s a.vaultToken ts := by
  simp only [expireSessionSplHandler, bind_ok, require_ok] at h
  obtain ⟨s, hload, _, hstatus, _, hmint, _, late, h⟩ := h
  exact ⟨s, hmint, refundConsumerSpl_effect hload
    (fun rem hrem => .expire ctx.unixTimestamp hstatus (Int64.lt_iff_toInt_lt.mp late) hrem) h⟩

/-- A dispute instruction writes the session's record and nothing else. -/
theorem dispute_effect {rt : Runtime} {l : Ledger} {k : Pubkey} {cfg : Config} {s s' : Session}
    {mv : SessionMove} (hs : (l k).data = .session s) (hc : ConfigAt rt l cfg)
    (step : Session.Step rt k s mv s') (hwork : s.work mv = none) (hpay : mv.payout = 0)
    (hrefund : mv.refund = 0) :
    SessionEffect rt l (l.setData k (.session s')) [] k s s' mv ∧
      PaysLamports rt l (l.setData k (.session s')) k s [] := by
  have recorded : Recorded l (l.setData k (.session s')) k s s' none 0 :=
    recorded_session s' hs fun _ _ => rfl
  refine ⟨⟨step, hwork ▸ recorded, hpay, hrefund, cfg, hc, fun _ => by simp [earnings]⟩,
    fun x => by simp, fun x t ht => ?_, by simp, cfg, hc, by simp⟩
  rw [token_of_record hs ht, ht]

theorem initiateHandler_effect {rt : Runtime} {ctx : TxContext} {l l' : Ledger}
    {a : UnilateralClose rt} {u : StateUpdate} {ts : List Transfer}
    (hp : ctx.precompiled rt = true) (h : initiateHandler rt ctx l a u = .ok (l', ts)) :
    ∃ s cfg, ∃ deadline : Int64, ConfigAt rt l cfg ∧
      deadline.toInt = ctx.unixTimestamp.toInt + cfg.challengeWindowSecs.toInt ∧
      SessionEffect rt l l' ts a.session s
        { s.propose u with status := .closing, challengeDeadline := deadline }
        (.initiate u deadline.toInt) ∧
      PaysLamports rt l l' a.session s ts ∧ ts = [] := by
  simp only [initiateHandler, bind_ok] at h
  obtain ⟨⟨cfg, s⟩, hload, h⟩ := h
  obtain ⟨hl, _⟩ := UnilateralClose.load_ok.mp hload
  simp only [require_ok, okOr_ok, pure_ok, checkedAddInt_some, Prod.mk.injEq] at h
  obtain ⟨_, _, _, hstatus, _, hnonce, _, hverify, deadline, hdeadline, rfl, rfl⟩ := h
  obtain ⟨he, hpays⟩ := dispute_effect hl.sessionData hl.configAt
    (.initiate deadline hstatus (accepts_of_verify hp hnonce hverify)) rfl rfl rfl
  exact ⟨s, cfg, deadline, hl.configAt, hdeadline, he, hpays, rfl⟩

theorem challengeHandler_effect {rt : Runtime} {ctx : TxContext} {l l' : Ledger}
    {a : UnilateralClose rt} {u : StateUpdate} {ts : List Transfer}
    (hp : ctx.precompiled rt = true) (h : challengeHandler rt ctx l a u = .ok (l', ts)) :
    ∃ s, SessionEffect rt l l' ts a.session s (s.propose u)
        (.challenge u ctx.unixTimestamp.toInt) ∧
      PaysLamports rt l l' a.session s ts ∧ ts = [] := by
  simp only [challengeHandler, bind_ok] at h
  obtain ⟨⟨cfg, s⟩, hload, h⟩ := h
  obtain ⟨hl, _⟩ := UnilateralClose.load_ok.mp hload
  simp only [require_ok, pure_ok, Prod.mk.injEq] at h
  obtain ⟨_, hstatus, _, early, _, hnonce, _, hverify, rfl, rfl⟩ := h
  obtain ⟨he, hpays⟩ := dispute_effect hl.sessionData hl.configAt
    (.challenge ctx.unixTimestamp hstatus (Int64.le_iff_toInt_le.mp early)
      (accepts_of_verify hp hnonce hverify)) rfl rfl rfl
  exact ⟨s, he, hpays, rfl⟩

/-- What a call that pays in lamports, or not at all, knows of the session's
mint. Three instructions end the session without having looked at it. -/
def MintChecked {rt : Runtime} (c : Call rt) (s s' : Session) (ts : List Transfer) : Prop :=
  s.mint = none ∨ (c.isSolPayout = false ∧ ts = []) ∨
    (c.ignoresMint = true ∧ s'.status.terminal = true)

/-- The effect of a call together with the asset it pays in. -/
structure SessionCall (rt : Runtime) (ctx : TxContext) (c : Call rt) (l l' : Ledger)
    (ts : List Transfer) (k : Pubkey) (s s' : Session) (mv : SessionMove) : Prop
    extends SessionEffect rt l l' ts k s s' mv where
  move : c.move ctx s' ts = some mv
  inLamports : c.vaultToken? = none → MintChecked c s s' ts ∧ PaysLamports rt l l' k s ts
  inTokens : ∀ v, c.vaultToken? = some v → s.mint ≠ none ∧ PaysTokens rt l l' k s v ts

theorem SessionCall.of_lamports {rt : Runtime} {ctx : TxContext} {c : Call rt} {l l' : Ledger}
    {ts : List Transfer} {k : Pubkey} {s s' : Session} {mv : SessionMove}
    (he : SessionEffect rt l l' ts k s s' mv) (hpays : PaysLamports rt l l' k s ts)
    (hm : c.move ctx s' ts = some mv) (hv : c.vaultToken? = none)
    (hmint : MintChecked c s s' ts) : SessionCall rt ctx c l l' ts k s s' mv :=
  ⟨he, hm, fun _ => ⟨hmint, hpays⟩, by simp [hv]⟩

theorem SessionCall.of_tokens {rt : Runtime} {ctx : TxContext} {c : Call rt} {l l' : Ledger}
    {ts : List Transfer} {k v : Pubkey} {s s' : Session} {mv : SessionMove} (hmint : s.mint ≠ none)
    (he : SessionEffect rt l l' ts k s s' mv) (hpays : PaysTokens rt l l' k s v ts)
    (hm : c.move ctx s' ts = some mv) (hv : c.vaultToken? = some v) :
    SessionCall rt ctx c l l' ts k s s' mv :=
  ⟨he, hm, by simp [hv], fun w hw => by
    obtain rfl : v = w := by simpa [hv] using hw
    exact ⟨hmint, hpays⟩⟩

/-- Every successful instruction on an existing session, in one statement. -/
theorem Call.session_call {rt : Runtime} {ctx : TxContext} {c : Call rt} {l l' : Ledger}
    {ts : List Transfer} {k : Pubkey} (hp : ctx.precompiled rt = true)
    (h : c.exec ctx l = .ok (l', ts)) (hk : c.session? = some k) (ho : c.opens = false) :
    ∃ s s' mv, SessionCall rt ctx c l l' ts k s s' mv := by
  cases c with
  | openSession | openSessionSpl => simp [Call.opens] at ho
  | initializeConfig | registerNode | updateConfig | setPaused | withdrawFees
  | updateNodeMeta => simp [Call.session?] at hk
  | checkpointSettle a u =>
    obtain ⟨s, hm, he, hpays⟩ := applyState_effect hp h
    cases hk
    exact ⟨s, _, _, .of_lamports he hpays rfl rfl (.inl hm)⟩
  | settleSession a u =>
    obtain ⟨s, hm, he, hpays⟩ := applyState_effect hp h
    cases hk
    exact ⟨s, _, _, .of_lamports he hpays rfl rfl (.inl hm)⟩
  | initiateUnilateralClose a u =>
    obtain ⟨s, _, _, _, _, he, hpays, hts⟩ := initiateHandler_effect hp h
    cases hk
    exact ⟨s, _, _, .of_lamports he hpays rfl rfl (.inr (.inl ⟨rfl, hts⟩))⟩
  | challenge a u =>
    obtain ⟨s, he, hpays, hts⟩ := challengeHandler_effect hp h
    cases hk
    exact ⟨s, _, _, .of_lamports he hpays rfl rfl (.inr (.inl ⟨rfl, hts⟩))⟩
  | finalizeClose a =>
    obtain ⟨s, he, hpays⟩ := finalizeHandler_effect h
    cases hk
    exact ⟨s, _, _, .of_lamports he hpays rfl rfl (.inr (.inr ⟨rfl, rfl⟩))⟩
  | cancelSession a =>
    obtain ⟨s, he, hpays⟩ := cancelHandler_effect h
    cases hk
    exact ⟨s, _, _, .of_lamports he hpays rfl rfl (.inr (.inr ⟨rfl, rfl⟩))⟩
  | expireSession a =>
    obtain ⟨s, he, hpays⟩ := expireHandler_effect h
    cases hk
    exact ⟨s, _, _, .of_lamports he hpays rfl rfl (.inr (.inr ⟨rfl, rfl⟩))⟩
  | checkpointSettleSpl a u =>
    obtain ⟨s, hm, he, hpays⟩ := applyStateSpl_effect hp h
    cases hk
    exact ⟨s, _, _, .of_tokens hm he hpays rfl rfl⟩
  | settleSessionSpl a u =>
    obtain ⟨s, hm, he, hpays⟩ := applyStateSpl_effect hp h
    cases hk
    exact ⟨s, _, _, .of_tokens hm he hpays rfl rfl⟩
  | finalizeCloseSpl a =>
    obtain ⟨s, hm, he, hpays⟩ := finalizeCloseSplHandler_effect h
    cases hk
    exact ⟨s, _, _, .of_tokens hm he hpays rfl rfl⟩
  | cancelSessionSpl a =>
    obtain ⟨s, hm, he, hpays⟩ := cancelSessionSplHandler_effect h
    cases hk
    exact ⟨s, _, _, .of_tokens hm he hpays rfl rfl⟩
  | expireSessionSpl a =>
    obtain ⟨s, hm, he, hpays⟩ := expireSessionSplHandler_effect h
    cases hk
    exact ⟨s, _, _, .of_tokens hm he hpays rfl rfl⟩

end SolMesh
