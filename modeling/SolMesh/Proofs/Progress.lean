import SolMesh.Proofs.Effects

namespace SolMesh
open Outcome Words

/-- Payouts of lamports, made one after the other. -/
inductive LamportsPaid : Ledger → List Transfer → Ledger → Prop
  | nil (l : Ledger) : LamportsPaid l [] l
  | cons {l l₁ l₂ : Ledger} {t : Transfer} {ts : List Transfer}
      (first : pdaTransferLamports l t.source t.dest t.amount = .ok l₁)
      (rest : LamportsPaid l₁ ts l₂) : LamportsPaid l (t :: ts) l₂

/-- Payouts out of a vault that the program signs for, made one after the other. -/
inductive TokensPaid (rt : Runtime) (authority k : Pubkey) (bump : UInt8) :
    Ledger → List Transfer → Ledger → Prop
  | nil (l : Ledger) : TokensPaid rt authority k bump l [] l
  | cons {l l₁ l₂ : Ledger} {t : Transfer} {ts : List Transfer}
      (first : transferFromVault rt l t.source t.dest authority k bump t.amount = .ok l₁)
      (rest : TokensPaid rt authority k bump l₁ ts l₂) :
      TokensPaid rt authority k bump l (t :: ts) l₂

theorem LamportsPaid.three {l l' : Ledger} {t₁ t₂ t₃ : Transfer}
    (h : LamportsPaid l [t₁, t₂, t₃] l') : ∃ l₁ l₂,
      pdaTransferLamports l t₁.source t₁.dest t₁.amount = .ok l₁ ∧
      pdaTransferLamports l₁ t₂.source t₂.dest t₂.amount = .ok l₂ ∧
      pdaTransferLamports l₂ t₃.source t₃.dest t₃.amount = .ok l' := by
  cases h with
  | cons h₁ h =>
  cases h with
  | cons h₂ h =>
  cases h with
  | cons h₃ h =>
  cases h
  exact ⟨_, _, h₁, h₂, h₃⟩

theorem TokensPaid.three {rt : Runtime} {authority k : Pubkey} {bump : UInt8} {l l' : Ledger}
    {t₁ t₂ t₃ : Transfer} (h : TokensPaid rt authority k bump l [t₁, t₂, t₃] l') : ∃ l₁ l₂,
      transferFromVault rt l t₁.source t₁.dest authority k bump t₁.amount = .ok l₁ ∧
      transferFromVault rt l₁ t₂.source t₂.dest authority k bump t₂.amount = .ok l₂ ∧
      transferFromVault rt l₂ t₃.source t₃.dest authority k bump t₃.amount = .ok l' := by
  cases h with
  | cons h₁ h =>
  cases h with
  | cons h₂ h =>
  cases h with
  | cons h₃ h =>
  cases h
  exact ⟨_, _, h₁, h₂, h₃⟩

theorem LamportsPaid.moves {l l' : Ledger} {ts : List Transfer} (h : LamportsPaid l ts l') :
    MovesLamports l l' ts := by
  induction h with
  | nil l => exact .nil l
  | cons first _ ih => exact .cons (pdaTransferLamports_ok first) ih

theorem TokensPaid.moves {rt : Runtime} {authority k : Pubkey} {bump : UInt8} {l l' : Ledger}
    {ts : List Transfer} (h : TokensPaid rt authority k bump l ts l') :
    MovesTokens l l' authority ts := by
  induction h with
  | nil l => exact .nil l authority
  | cons first _ ih =>
    obtain ⟨rights, sends⟩ := transferFromVault_ok first
    exact .cons rights sends ih

/-- What a list of payouts amounts to. -/
def amountOf (ts : List Transfer) : Nat :=
  (ts.map fun t => t.amount.toNat).sum

@[simp] theorem amountOf_nil : amountOf [] = 0 := rfl

@[simp] theorem amountOf_cons (t : Transfer) (ts : List Transfer) :
    amountOf (t :: ts) = t.amount.toNat + amountOf ts := by
  simp [amountOf]

theorem credit_le (x : Pubkey) (ts : List Transfer) : credit x ts ≤ amountOf ts := by
  induction ts with
  | nil => simp
  | cons t ts ih =>
    simp only [credit_cons, amountOf_cons]
    split <;> omega

theorem debit_le_amount (x : Pubkey) (ts : List Transfer) : debit x ts ≤ amountOf ts := by
  induction ts with
  | nil => simp
  | cons t ts ih =>
    simp only [debit_cons, amountOf_cons]
    split <;> omega

/-- Receivers that have room for all payouts together have room for their own. -/
theorem room_of_dests {held : Pubkey → Nat} {ts : List Transfer} {n : Nat}
    (hn : amountOf ts ≤ n) (held_lt : ∀ x, held x < 2 ^ 64)
    (room : ∀ t ∈ ts, held t.dest + n < 2 ^ 64) (x : Pubkey) : held x + credit x ts < 2 ^ 64 := by
  by_cases hx : ∃ t ∈ ts, x = t.dest
  · obtain ⟨t, ht, rfl⟩ := hx
    have hle := credit_le t.dest ts
    have hroom := room t ht
    omega
  · rw [credit_eq_zero fun t ht he => absurd ⟨t, ht, he⟩ hx]
    exact held_lt x

/-- Payouts of lamports go through when their source covers them and the
receivers have room. -/
theorem LamportsPaid.exists {l : Ledger} {k : Pubkey} {ts : List Transfer}
    (source : ∀ t ∈ ts, t.source = k) (dest : ∀ t ∈ ts, t.amount ≠ 0 → t.dest ≠ k)
    (cover : amountOf ts ≤ (l k).lamports.toNat)
    (room : ∀ x, x ≠ k → (l x).lamports.toNat + credit x ts < 2 ^ 64) :
    ∃ l', LamportsPaid l ts l' := by
  induction ts generalizing l with
  | nil => exact ⟨l, .nil l⟩
  | cons t ts ih =>
    have hsrc := source t List.mem_cons_self
    simp only [amountOf_cons, credit_cons] at cover room
    obtain ⟨l₁, h₁⟩ : ∃ l₁, pdaTransferLamports l t.source t.dest t.amount = .ok l₁ := by
      by_cases hz : t.amount = 0
      · exact ⟨l, by simp [pdaTransferLamports, hz, pure, Except.pure]⟩
      · have hd := dest t List.mem_cons_self hz
        have hroom := room t.dest hd
        simp only [if_true] at hroom
        rw [hsrc]
        exact pdaTransferLamports_exists (Ne.symm hd) (by omega) (by omega)
    have hs := pdaTransferLamports_ok h₁
    rw [hsrc] at hs
    have cover₁ : amountOf ts ≤ (l₁ k).lamports.toNat := by
      have hk := hs.lamports k
      simp only [if_true] at hk
      omega
    have room₁ : ∀ x, x ≠ k → (l₁ x).lamports.toNat + credit x ts < 2 ^ 64 := by
      intro x hx
      have he := hs.lamports x
      have hr := room x hx
      simp only [hx, if_false] at he
      omega
    obtain ⟨l₂, h₂⟩ := ih (fun u hu => source u (List.mem_cons_of_mem t hu))
      (fun u hu => dest u (List.mem_cons_of_mem t hu)) cover₁ room₁
    exact ⟨l₂, .cons h₁ h₂⟩

/-- What the Token program asks of the payouts out of a vault. -/
structure VaultRights (rt : Runtime) (l : Ledger) (authority k : Pubkey) (bump : UInt8)
    (ts : List Transfer) : Prop where
  sign : ∀ t ∈ ts, t.amount ≠ 0 →
    rt.createProgramAddress (.vault k) bump = some authority
  accounts : ∀ t ∈ ts, t.amount ≠ 0 → ∃ a b, (l t.source).data = .token a ∧
    (l t.dest).data = .token b ∧ a.mint = b.mint ∧ a.owner = authority

theorem VaultRights.tail {rt : Runtime} {l : Ledger} {authority k : Pubkey} {bump : UInt8}
    {t : Transfer} {ts : List Transfer} (h : VaultRights rt l authority k bump (t :: ts)) :
    VaultRights rt l authority k bump ts :=
  ⟨fun u hu => h.sign u (List.mem_cons_of_mem t hu),
    fun u hu => h.accounts u (List.mem_cons_of_mem t hu)⟩

theorem VaultRights.sent {rt : Runtime} {l l' : Ledger} {authority k : Pubkey} {bump : UInt8}
    {ts : List Transfer} {src dst : Pubkey} {n : Nat} (h : VaultRights rt l authority k bump ts)
    (hs : TokenSends l l' src dst n) : VaultRights rt l' authority k bump ts := by
  refine ⟨h.sign, fun t ht hz => ?_⟩
  obtain ⟨a, b, ha, hb, hm, ho⟩ := h.accounts t ht hz
  obtain ⟨a', ha', hma, hoa, _⟩ := hs.token t.source a ha
  obtain ⟨b', hb', hmb, _, _⟩ := hs.token t.dest b hb
  exact ⟨a', b', ha', hb', by rw [hma, hm, hmb], hoa.trans ho⟩

/-- Payouts out of a vault go through when the Token program allows them, the
vault covers them, and the receivers have room. -/
theorem TokensPaid.exists {rt : Runtime} {l : Ledger} {authority k v : Pubkey} {bump : UInt8}
    {ts : List Transfer} (rights : VaultRights rt l authority k bump ts)
    (source : ∀ t ∈ ts, t.source = v) (dest : ∀ t ∈ ts, t.amount ≠ 0 → t.dest ≠ v)
    (cover : ∀ a, (l v).data = .token a → amountOf ts ≤ a.amount.toNat)
    (room : ∀ x b, x ≠ v → (l x).data = .token b → b.amount.toNat + credit x ts < 2 ^ 64) :
    ∃ l', TokensPaid rt authority k bump l ts l' := by
  induction ts generalizing l with
  | nil => exact ⟨l, .nil l⟩
  | cons t ts ih =>
    have hsrc := source t List.mem_cons_self
    simp only [amountOf_cons, credit_cons] at cover room
    obtain ⟨l₁, h₁⟩ : ∃ l₁, transferFromVault rt l t.source t.dest authority k bump t.amount =
        .ok l₁ := by
      by_cases hz : t.amount = 0
      · exact ⟨l, by simp [transferFromVault, hz, pure, Except.pure]⟩
      · have hd := dest t List.mem_cons_self hz
        obtain ⟨a, b, ha, hb, hm, ho⟩ := rights.accounts t List.mem_cons_self hz
        have hcover := cover a (hsrc ▸ ha)
        have hroom := room t.dest b hd hb
        simp only [if_true] at hroom
        exact transferFromVault_exists (rights.sign t List.mem_cons_self hz) ha hb hm ho (by omega)
          (by omega)
    obtain ⟨_, hs⟩ := transferFromVault_ok h₁
    rw [hsrc] at hs
    have cover₁ : ∀ a, (l₁ v).data = .token a → amountOf ts ≤ a.amount.toNat := by
      intro a₁ ha₁
      obtain ⟨a, ha, _, _⟩ := hs.back ha₁
      obtain ⟨a', ha', _, _, he⟩ := hs.token v a ha
      obtain rfl : a' = a₁ := by simpa [ha₁] using ha'.symm
      have hcover := cover a ha
      simp only [if_true] at he
      omega
    have room₁ : ∀ x b, x ≠ v → (l₁ x).data = .token b →
        b.amount.toNat + credit x ts < 2 ^ 64 := by
      intro x b₁ hx hb₁
      obtain ⟨b, hb, _, _⟩ := hs.back hb₁
      obtain ⟨b', hb', _, _, he⟩ := hs.token x b hb
      obtain rfl : b' = b₁ := by simpa [hb₁] using hb'.symm
      have hroom := room x b hx hb
      simp only [hx, if_false] at he
      omega
    obtain ⟨l₂, h₂⟩ := ih (rights.tail.sent hs) (fun u hu => source u (List.mem_cons_of_mem t hu))
      (fun u hu => dest u (List.mem_cons_of_mem t hu)) cover₁ room₁
    exact ⟨l₂, .cons h₁ h₂⟩

/-- The amounts of a payout up to `owed`, and the trackers it leaves. -/
structure Amounts (cfg : Config) (n : Node) (s : Session) (owed work : UInt64)
    (isCheckpoint : Bool) (pa fee rem units settled : UInt64) : Prop where
  payout : ∃ delta, checkedSub owed s.settledToProvider = some delta ∧
    feeFor delta cfg.feeBps = .ok fee ∧ checkedSub delta fee = some pa
  refund : settlementRefund s owed isCheckpoint = .ok rem
  units : checkedAdd n.totalUnits work = some units
  settled : checkedAdd n.totalSettled pa = some settled

/-- What is left of an amount when the fee is taken off. -/
def netOf (n : Nat) (feeBps : UInt16) : Nat :=
  n - n * feeBps.toNat / 10000

theorem fee_le {n : Nat} {feeBps : UInt16} (hb : feeBps.toNat ≤ 10000) :
    n * feeBps.toNat / 10000 ≤ n := by
  calc n * feeBps.toNat / 10000 ≤ n * 10000 / 10000 :=
        Nat.div_le_div_right (Nat.mul_le_mul_left _ hb)
    _ = n := by omega

/-- The fee of an admissible rate is always defined. -/
theorem feeFor_exists (payout : UInt64) {feeBps : UInt16} (hb : feeBps.toNat ≤ 10000) :
    ∃ fee, feeFor payout feeBps = .ok fee := by
  have hprod : payout.toNat * feeBps.toNat < 2 ^ 128 := by
    calc payout.toNat * feeBps.toNat ≤ payout.toNat * 10000 := Nat.mul_le_mul_left _ hb
      _ < 2 ^ 128 := by have := payout.toNat_lt; omega
  refine require_exists hprod (require_exists ?_ ⟨_, rfl⟩)
  decide

/-- The shares of a payout up to `owed` are always defined. -/
theorem payout_exists {cfg : Config} {s : Session} {owed : UInt64}
    (hb : cfg.feeBps.toNat ≤ 10000) (hlo : s.settledToProvider.toNat ≤ owed.toNat) :
    ∃ delta fee pa, checkedSub owed s.settledToProvider = some delta ∧
      feeFor delta cfg.feeBps = .ok fee ∧ checkedSub delta fee = some pa := by
  obtain ⟨delta, hdelta⟩ := checkedSub_exists hlo
  obtain ⟨fee, hfee⟩ := feeFor_exists delta hb
  have hle : fee.toNat ≤ delta.toNat := by
    rw [feeFor_ok hfee hb]
    exact fee_le hb
  obtain ⟨pa, hpa⟩ := checkedSub_exists hle
  exact ⟨delta, fee, pa, hdelta, hfee, hpa⟩

/-- The numbers behind the amounts of a payout. -/
structure Amounts.Values (cfg : Config) (n : Node) (s : Session) (owed work : UInt64)
    (isCheckpoint : Bool) (pa fee rem units settled : UInt64) : Prop where
  delta : pa.toNat + fee.toNat + s.settledToProvider.toNat = owed.toNat
  fee : fee.toNat = (owed.toNat - s.settledToProvider.toNat) * cfg.feeBps.toNat / 10000
  net : pa.toNat = netOf (owed.toNat - s.settledToProvider.toNat) cfg.feeBps
  kept : isCheckpoint = true → rem.toNat = 0
  rest : isCheckpoint = false → rem.toNat + owed.toNat = s.deposited.toNat
  units : units.toNat = n.totalUnits.toNat + work.toNat
  settled : settled.toNat = n.totalSettled.toNat + pa.toNat

section
variable {cfg : Config} {n : Node} {s : Session} {owed work : UInt64} {isCheckpoint : Bool}
  {pa fee rem units settled : UInt64}

theorem Amounts.sum (h : Amounts cfg n s owed work isCheckpoint pa fee rem units settled) :
    pa.toNat + fee.toNat + s.settledToProvider.toNat = owed.toNat := by
  obtain ⟨delta, hdelta, _, hpa⟩ := h.payout
  rw [checkedSub_some] at hdelta hpa
  omega

/-- What a settlement pays and refunds is covered by what is unsettled. -/
theorem settlement_covered {s : Session} {owed rem : UInt64} {isCheckpoint : Bool} {paid : Nat}
    (hrem : settlementRefund s owed isCheckpoint = .ok rem)
    (hpaid : paid + s.settledToProvider.toNat = owed.toNat)
    (hhi : owed.toNat ≤ s.deposited.toNat) : paid + rem.toNat ≤ s.unsettled := by
  obtain ⟨hkept, hrest⟩ := settlementRefund_ok hrem
  simp only [Session.unsettled]
  cases isCheckpoint with
  | true =>
    have : rem.toNat = 0 := by rw [hkept rfl]; rfl
    omega
  | false =>
    have := hrest rfl
    omega

/-- All that a payout takes from the escrow is covered by what is unsettled. -/
theorem Amounts.covered (h : Amounts cfg n s owed work isCheckpoint pa fee rem units settled)
    (hhi : owed.toNat ≤ s.deposited.toNat) :
    pa.toNat + fee.toNat + rem.toNat ≤ s.unsettled :=
  settlement_covered h.refund h.sum hhi

theorem Amounts.values
    (h : Amounts cfg n s owed work isCheckpoint pa fee rem units settled)
    (hb : cfg.feeBps.toNat ≤ 10000) :
    Amounts.Values cfg n s owed work isCheckpoint pa fee rem units settled := by
  obtain ⟨delta, hdelta, hfee, hpa⟩ := h.payout
  rw [checkedSub_some] at hdelta hpa
  obtain ⟨hkept, hrest⟩ := settlementRefund_ok h.refund
  have hf := feeFor_ok hfee hb
  have he : owed.toNat - s.settledToProvider.toNat = delta.toNat := by omega
  refine ⟨h.sum, by rw [he, hf], ?_, fun hc => ?_, hrest, checkedAdd_some.mp h.units,
    checkedAdd_some.mp h.settled⟩
  · rw [netOf, he, ← hf]
    omega
  · rw [hkept hc]
    rfl

/-- Nothing but full trackers stands in the way of a covered payout. -/
theorem Amounts.exists (hb : cfg.feeBps.toNat ≤ 10000)
    (hlo : s.settledToProvider.toNat ≤ owed.toNat) (hhi : owed.toNat ≤ s.deposited.toNat)
    (hunits : n.totalUnits.toNat + work.toNat < 2 ^ 64)
    (hsettled : n.totalSettled.toNat +
      netOf (owed.toNat - s.settledToProvider.toNat) cfg.feeBps < 2 ^ 64) :
    ∃ pa fee rem units settled,
      Amounts cfg n s owed work isCheckpoint pa fee rem units settled := by
  obtain ⟨delta, fee, pa, hdelta, hfee, hpa⟩ := payout_exists hb hlo
  have hd := checkedSub_some.mp hdelta
  have hp := checkedSub_some.mp hpa
  have he : owed.toNat - s.settledToProvider.toNat = delta.toNat := by omega
  rw [netOf, he, ← feeFor_ok hfee hb] at hsettled
  obtain ⟨units, hu⟩ := checkedAdd_exists hunits
  obtain ⟨settled, hs⟩ := checkedAdd_exists
    (show n.totalSettled.toNat + pa.toNat < 2 ^ 64 by omega)
  obtain ⟨rem, hrem⟩ := settlementRefund_exists hhi isCheckpoint
  exact ⟨pa, fee, rem, units, settled, ⟨delta, hdelta, hfee, hpa⟩, hrem, hu, hs⟩

end

/-- The records a payout writes. -/
def writeRecords (l : Ledger) (node : Pubkey) (n : Node) (k : Pubkey) (s : Session) : Ledger :=
  (l.setData node (.node n)).setData k (.session s)

theorem applyState_ok {rt : Runtime} {ctx : TxContext} {l l' : Ledger} {a : Settle rt}
    {u : StateUpdate} {isCheckpoint : Bool} {ts : List Transfer} :
    applyState rt ctx l a u isCheckpoint = .ok (l', ts) ↔
      ∃ cfg n s pa fee rem units settled mid, a.load rt l = .ok (cfg, n, s) ∧
        s.status = .open ∧ s.mint = none ∧ s.lastNonce < u.nonce ∧
        verifyCosignedState ctx s a.session u = .ok () ∧
        Amounts cfg n s u.owedToProvider (saturatingSub u.unitsConsumed s.pendingUnits)
          isCheckpoint pa fee rem units settled ∧
        ts = settlementTransfers a.session a.session a.provider a.feeVault a.consumer pa fee rem ∧
        LamportsPaid l ts mid ∧
        l' = writeRecords mid a.node (n.credit (saturatingAdd n.reputation
          (reputationReward u.unitsConsumed)) units settled) a.session
          (s.settle u isCheckpoint) := by
  simp only [applyState, bind_ok, require_ok, okOr_ok, pure_ok, Prod.mk.injEq]
  constructor
  · intro h
    obtain ⟨⟨cfg, n, s⟩, hload, _, hstatus, _, hmint, _, hnonce, _, hverify, delta, hdelta, fee,
      hfee, pa, hpa, units, hunits, l₁, h₁, l₂, h₂, rem, hrem, l₃, h₃, settled, hsettled, rfl,
      rfl⟩ := h
    exact ⟨cfg, n, s, pa, fee, rem, units, settled, l₃, hload, hstatus, hmint, hnonce, hverify,
      ⟨⟨delta, hdelta, hfee, hpa⟩, hrem, hunits, hsettled⟩, rfl,
      .cons h₁ (.cons h₂ (.cons h₃ (.nil l₃))), rfl⟩
  · intro h
    obtain ⟨cfg, n, s, pa, fee, rem, units, settled, mid, hload, hstatus, hmint, hnonce, hverify,
      ⟨⟨delta, hdelta, hfee, hpa⟩, hrem, hunits, hsettled⟩, rfl, hpaid, rfl⟩ := h
    obtain ⟨_, _, h₁, h₂, h₃⟩ := hpaid.three
    exact ⟨⟨cfg, n, s⟩, hload, (), hstatus, (), hmint, (), hnonce, (), hverify, delta, hdelta, fee,
      hfee, pa, hpa, units, hunits, _, h₁, _, h₂, rem, hrem, _, h₃, settled, hsettled, rfl, rfl⟩

theorem applyStateSpl_ok {rt : Runtime} {ctx : TxContext} {l l' : Ledger} {a : SettleSpl rt}
    {u : StateUpdate} {isCheckpoint : Bool} {ts : List Transfer} :
    applyStateSpl rt ctx l a u isCheckpoint = .ok (l', ts) ↔
      ∃ cfg n s pa fee rem units settled mid, a.load rt l = .ok (cfg, n, s) ∧
        s.status = .open ∧ s.mint ≠ none ∧ s.lastNonce < u.nonce ∧
        verifyCosignedState ctx s a.session u = .ok () ∧
        Amounts cfg n s u.owedToProvider (saturatingSub u.unitsConsumed s.pendingUnits)
          isCheckpoint pa fee rem units settled ∧
        ts = settlementTransfers a.session a.vaultToken a.providerToken a.feeToken a.consumerToken
          pa fee rem ∧
        TokensPaid rt a.vaultAuthority a.session s.vaultBump l ts mid ∧
        l' = writeRecords mid a.node (n.credit (saturatingAdd n.reputation
          (reputationReward u.unitsConsumed)) units settled) a.session
          (s.settle u isCheckpoint) := by
  simp only [applyStateSpl, bind_ok, require_ok, okOr_ok, pure_ok, Prod.mk.injEq]
  constructor
  · intro h
    obtain ⟨⟨cfg, n, s⟩, hload, _, hstatus, _, hmint, _, hnonce, _, hverify, delta, hdelta, fee,
      hfee, pa, hpa, l₁, h₁, l₂, h₂, units, hunits, rem, hrem, l₃, h₃, settled, hsettled, rfl,
      rfl⟩ := h
    exact ⟨cfg, n, s, pa, fee, rem, units, settled, l₃, hload, hstatus, hmint, hnonce, hverify,
      ⟨⟨delta, hdelta, hfee, hpa⟩, hrem, hunits, hsettled⟩, rfl,
      .cons h₁ (.cons h₂ (.cons h₃ (.nil l₃))), rfl⟩
  · intro h
    obtain ⟨cfg, n, s, pa, fee, rem, units, settled, mid, hload, hstatus, hmint, hnonce, hverify,
      ⟨⟨delta, hdelta, hfee, hpa⟩, hrem, hunits, hsettled⟩, rfl, hpaid, rfl⟩ := h
    obtain ⟨_, _, h₁, h₂, h₃⟩ := hpaid.three
    exact ⟨⟨cfg, n, s⟩, hload, (), hstatus, (), hmint, (), hnonce, (), hverify, delta, hdelta, fee,
      hfee, pa, hpa, _, h₁, _, h₂, units, hunits, rem, hrem, _, h₃, settled, hsettled, rfl, rfl⟩

/-- The record of a session whose dispute is paid out. -/
def Session.finalize (s : Session) : Session :=
  { s with settledToProvider := s.pendingPayout, status := .settled }

theorem finalizeHandler_ok {rt : Runtime} {ctx : TxContext} {l l' : Ledger} {a : FinalizeClose rt}
    {ts : List Transfer} : finalizeHandler rt ctx l a = .ok (l', ts) ↔
      ∃ cfg n s pa fee rem units settled mid, a.load rt l = .ok (cfg, n, s) ∧
        s.status = .closing ∧ s.challengeDeadline < ctx.unixTimestamp ∧
        Amounts cfg n s s.pendingPayout s.pendingUnits false pa fee rem units settled ∧
        ts = settlementTransfers a.session a.session a.provider a.feeVault a.consumer pa fee rem ∧
        LamportsPaid l ts mid ∧
        l' = writeRecords mid a.node (n.credit (saturatingAdd n.reputation
          (reputationReward s.pendingUnits)) units settled) a.session s.finalize := by
  simp only [finalizeHandler, bind_ok, require_ok, okOr_ok, pure_ok, Prod.mk.injEq]
  constructor
  · intro h
    obtain ⟨⟨cfg, n, s⟩, hload, _, hstatus, _, late, delta, hdelta, fee, hfee, pa, hpa, l₁, h₁, l₂,
      h₂, units, hunits, settled, hsettled, rem, hrem, l₃, h₃, rfl, rfl⟩ := h
    exact ⟨cfg, n, s, pa, fee, rem, units, settled, l₃, hload, hstatus, late,
      ⟨⟨delta, hdelta, hfee, hpa⟩, okOr_ok.mpr hrem, hunits, hsettled⟩, rfl,
      .cons h₁ (.cons h₂ (.cons h₃ (.nil l₃))), rfl⟩
  · intro h
    obtain ⟨cfg, n, s, pa, fee, rem, units, settled, mid, hload, hstatus, late,
      ⟨⟨delta, hdelta, hfee, hpa⟩, hrem, hunits, hsettled⟩, rfl, hpaid, rfl⟩ := h
    obtain ⟨_, _, h₁, h₂, h₃⟩ := hpaid.three
    exact ⟨⟨cfg, n, s⟩, hload, (), hstatus, (), late, delta, hdelta, fee, hfee, pa, hpa, _, h₁, _,
      h₂, units, hunits, settled, hsettled, rem, okOr_ok.mp hrem, _, h₃, rfl, rfl⟩

theorem finalizeCloseSplHandler_ok {rt : Runtime} {ctx : TxContext} {l l' : Ledger}
    {a : FinalizeCloseSpl rt} {ts : List Transfer} :
    finalizeCloseSplHandler rt ctx l a = .ok (l', ts) ↔
      ∃ cfg n s pa fee rem units settled mid, a.load rt l = .ok (cfg, n, s) ∧
        s.status = .closing ∧ s.mint ≠ none ∧ s.challengeDeadline < ctx.unixTimestamp ∧
        Amounts cfg n s s.pendingPayout s.pendingUnits false pa fee rem units settled ∧
        ts = settlementTransfers a.session a.vaultToken a.providerToken a.feeToken a.consumerToken
          pa fee rem ∧
        TokensPaid rt a.vaultAuthority a.session s.vaultBump l ts mid ∧
        l' = writeRecords mid a.node (n.credit (saturatingAdd n.reputation
          (reputationReward s.pendingUnits)) units settled) a.session s.finalize := by
  simp only [finalizeCloseSplHandler, bind_ok, require_ok, okOr_ok, pure_ok, Prod.mk.injEq]
  constructor
  · intro h
    obtain ⟨⟨cfg, n, s⟩, hload, _, hstatus, _, hmint, _, late, delta, hdelta, fee, hfee, pa, hpa,
      l₁, h₁, l₂, h₂, units, hunits, rem, hrem, l₃, h₃, settled, hsettled, rfl, rfl⟩ := h
    exact ⟨cfg, n, s, pa, fee, rem, units, settled, l₃, hload, hstatus, hmint, late,
      ⟨⟨delta, hdelta, hfee, hpa⟩, okOr_ok.mpr hrem, hunits, hsettled⟩, rfl,
      .cons h₁ (.cons h₂ (.cons h₃ (.nil l₃))), rfl⟩
  · intro h
    obtain ⟨cfg, n, s, pa, fee, rem, units, settled, mid, hload, hstatus, hmint, late,
      ⟨⟨delta, hdelta, hfee, hpa⟩, hrem, hunits, hsettled⟩, rfl, hpaid, rfl⟩ := h
    obtain ⟨_, _, h₁, h₂, h₃⟩ := hpaid.three
    exact ⟨⟨cfg, n, s⟩, hload, (), hstatus, (), hmint, (), late, delta, hdelta, fee, hfee, pa, hpa,
      _, h₁, _, h₂, units, hunits, rem, okOr_ok.mp hrem, _, h₃, settled, hsettled, rfl, rfl⟩

/-- The record of a session that ends with the consumer's refund. -/
def Session.close (s : Session) (status : SessionStatus) : Session :=
  { s with status := status }

theorem refundConsumer_ok {l l' : Ledger} {s : Session} {k consumer : Pubkey}
    {status : SessionStatus} {ts : List Transfer} :
    refundConsumer l s k consumer status = .ok (l', ts) ↔
      ∃ rem mid, checkedSub s.deposited s.settledToProvider = some rem ∧
        ts = [⟨k, .consumer, k, consumer, rem⟩] ∧ LamportsPaid l ts mid ∧
        l' = mid.setData k (.session (s.close status)) := by
  simp only [refundConsumer, bind_ok, okOr_ok, pure_ok, Prod.mk.injEq]
  constructor
  · intro h
    obtain ⟨rem, hrem, l₁, h₁, rfl, rfl⟩ := h
    exact ⟨rem, l₁, hrem, rfl, .cons h₁ (.nil l₁), rfl⟩
  · intro h
    obtain ⟨rem, mid, hrem, rfl, hpaid, rfl⟩ := h
    cases hpaid with
    | cons h₁ hpaid =>
    cases hpaid
    exact ⟨rem, hrem, _, h₁, rfl, rfl⟩

theorem refundConsumerSpl_ok {rt : Runtime} {l l' : Ledger} {a : LifecycleSpl rt} {s : Session}
    {status : SessionStatus} {ts : List Transfer} :
    refundConsumerSpl rt l a s status = .ok (l', ts) ↔
      ∃ rem mid, checkedSub s.deposited s.settledToProvider = some rem ∧
        ts = [⟨a.session, .consumer, a.vaultToken, a.consumerToken, rem⟩] ∧
        TokensPaid rt a.vaultAuthority a.session s.vaultBump l ts mid ∧
        l' = mid.setData a.session (.session (s.close status)) := by
  simp only [refundConsumerSpl, bind_ok, okOr_ok, pure_ok, Prod.mk.injEq]
  constructor
  · intro h
    obtain ⟨rem, hrem, l₁, h₁, rfl, rfl⟩ := h
    exact ⟨rem, l₁, hrem, rfl, .cons h₁ (.nil l₁), rfl⟩
  · intro h
    obtain ⟨rem, mid, hrem, rfl, hpaid, rfl⟩ := h
    cases hpaid with
    | cons h₁ hpaid =>
    cases hpaid
    exact ⟨rem, hrem, _, h₁, rfl, rfl⟩

theorem cancelHandler_ok {rt : Runtime} {l : Ledger} {a : CancelSession rt} {r : Effect} :
    cancelHandler rt l a = .ok r ↔ ∃ s, a.load rt l = .ok s ∧ s.status = .open ∧
      s.lastNonce = 0 ∧ refundConsumer l s a.session a.consumer.key .cancelled = .ok r := by
  simp only [cancelHandler, bind_ok, require_ok]
  constructor
  · intro h
    obtain ⟨s, hload, _, hstatus, _, hunused, h⟩ := h
    exact ⟨s, hload, hstatus, hunused, h⟩
  · intro h
    obtain ⟨s, hload, hstatus, hunused, h⟩ := h
    exact ⟨s, hload, (), hstatus, (), hunused, h⟩

theorem expireHandler_ok {rt : Runtime} {ctx : TxContext} {l : Ledger} {a : ExpireSession rt}
    {r : Effect} : expireHandler rt ctx l a = .ok r ↔ ∃ s, a.load rt l = .ok s ∧
      s.status = .open ∧ s.expiry < ctx.unixTimestamp ∧
      refundConsumer l s a.session a.consumer .expired = .ok r := by
  simp only [expireHandler, bind_ok, require_ok]
  constructor
  · intro h
    obtain ⟨s, hload, _, hstatus, _, late, h⟩ := h
    exact ⟨s, hload, hstatus, late, h⟩
  · intro h
    obtain ⟨s, hload, hstatus, late, h⟩ := h
    exact ⟨s, hload, (), hstatus, (), late, h⟩

theorem cancelSessionSplHandler_ok {rt : Runtime} {l : Ledger} {a : LifecycleSpl rt} {r : Effect} :
    cancelSessionSplHandler rt l a = .ok r ↔ ∃ s, a.load rt l = .ok s ∧ s.status = .open ∧
      s.mint ≠ none ∧ s.lastNonce = 0 ∧ a.signer.key = s.consumer ∧
      refundConsumerSpl rt l a s .cancelled = .ok r := by
  simp only [cancelSessionSplHandler, bind_ok, require_ok]
  constructor
  · intro h
    obtain ⟨s, hload, _, hstatus, _, hmint, _, hunused, _, hsigner, h⟩ := h
    exact ⟨s, hload, hstatus, hmint, hunused, hsigner, h⟩
  · intro h
    obtain ⟨s, hload, hstatus, hmint, hunused, hsigner, h⟩ := h
    exact ⟨s, hload, (), hstatus, (), hmint, (), hunused, (), hsigner, h⟩

theorem expireSessionSplHandler_ok {rt : Runtime} {ctx : TxContext} {l : Ledger}
    {a : LifecycleSpl rt} {r : Effect} : expireSessionSplHandler rt ctx l a = .ok r ↔
      ∃ s, a.load rt l = .ok s ∧ s.status = .open ∧ s.mint ≠ none ∧
        s.expiry < ctx.unixTimestamp ∧ refundConsumerSpl rt l a s .expired = .ok r := by
  simp only [expireSessionSplHandler, bind_ok, require_ok]
  constructor
  · intro h
    obtain ⟨s, hload, _, hstatus, _, hmint, _, late, h⟩ := h
    exact ⟨s, hload, hstatus, hmint, late, h⟩
  · intro h
    obtain ⟨s, hload, hstatus, hmint, late, h⟩ := h
    exact ⟨s, hload, (), hstatus, (), hmint, (), late, h⟩

theorem initiateHandler_ok {rt : Runtime} {ctx : TxContext} {l l' : Ledger}
    {a : UnilateralClose rt} {u : StateUpdate} {ts : List Transfer} :
    initiateHandler rt ctx l a u = .ok (l', ts) ↔
      ∃ cfg s deadline, a.load rt l = .ok (cfg, s) ∧
        (a.caller.key = s.provider ∨ a.caller.key = s.consumer) ∧ s.status = .open ∧
        s.lastNonce < u.nonce ∧ verifyCosignedState ctx s a.session u = .ok () ∧
        checkedAddInt ctx.unixTimestamp cfg.challengeWindowSecs = some deadline ∧ ts = [] ∧
        l' = l.setData a.session
          (.session { s.propose u with status := .closing, challengeDeadline := deadline }) := by
  simp only [initiateHandler, bind_ok, require_ok, okOr_ok, pure_ok, Prod.mk.injEq]
  constructor
  · intro h
    obtain ⟨⟨cfg, s⟩, hload, _, hcaller, _, hstatus, _, hnonce, _, hverify, deadline, hdeadline,
      rfl, rfl⟩ := h
    exact ⟨cfg, s, deadline, hload, hcaller, hstatus, hnonce, hverify, hdeadline, rfl, rfl⟩
  · intro h
    obtain ⟨cfg, s, deadline, hload, hcaller, hstatus, hnonce, hverify, hdeadline, rfl, rfl⟩ := h
    exact ⟨⟨cfg, s⟩, hload, (), hcaller, (), hstatus, (), hnonce, (), hverify, deadline, hdeadline,
      rfl, rfl⟩

theorem challengeHandler_ok {rt : Runtime} {ctx : TxContext} {l l' : Ledger}
    {a : UnilateralClose rt} {u : StateUpdate} {ts : List Transfer} :
    challengeHandler rt ctx l a u = .ok (l', ts) ↔
      ∃ cfg s, a.load rt l = .ok (cfg, s) ∧ s.status = .closing ∧
        ctx.unixTimestamp ≤ s.challengeDeadline ∧ s.lastNonce < u.nonce ∧
        verifyCosignedState ctx s a.session u = .ok () ∧ ts = [] ∧
        l' = l.setData a.session (.session (s.propose u)) := by
  simp only [challengeHandler, bind_ok, require_ok, pure_ok, Prod.mk.injEq]
  constructor
  · intro h
    obtain ⟨⟨cfg, s⟩, hload, _, hstatus, _, early, _, hnonce, _, hverify, rfl, rfl⟩ := h
    exact ⟨cfg, s, hload, hstatus, early, hnonce, hverify, rfl, rfl⟩
  · intro h
    obtain ⟨cfg, s, hload, hstatus, early, hnonce, hverify, rfl, rfl⟩ := h
    exact ⟨⟨cfg, s⟩, hload, (), hstatus, (), early, (), hnonce, (), hverify, rfl, rfl⟩

end SolMesh
