import SolMesh.Proofs.Authenticity
import SolMesh.Proofs.NodeTrackers
import SolMesh.Proofs.Rerun
import SolMesh.Proofs.Solvency

namespace SolMesh
open Outcome Words Runs

/-- No account that the payouts of one list draw on gets or gives anything in
the other. -/
structure ApartFlows (xs ys : List Transfer) : Prop where
  left : ∀ x, debit x xs ≠ 0 → credit x xs = 0 ∧ debit x ys = 0 ∧ credit x ys = 0
  right : ∀ x, debit x ys ≠ 0 → credit x ys = 0 ∧ debit x xs = 0 ∧ credit x xs = 0

/-- The holdings changed by exactly these payouts. -/
def Balanced (held held' : Pubkey → Nat) (xs : List Transfer) : Prop :=
  ∀ x, held' x + debit x xs = held x + credit x xs

theorem debit_of_source {v : Pubkey} {xs : List Transfer} (h : ∀ t ∈ xs, t.source = v) :
    debit v xs = amountOf xs := by
  induction xs with
  | nil => rfl
  | cons t ts ih =>
    rw [debit_cons, amountOf_cons, if_pos (h t List.mem_cons_self).symm,
      ih fun u hu => h u (List.mem_cons_of_mem t hu)]

theorem debit_of_other {v x : Pubkey} {xs : List Transfer} (h : ∀ t ∈ xs, t.source = v)
    (hx : x ≠ v) : debit x xs = 0 :=
  debit_eq_zero fun t ht he => absurd (he.trans (h t ht)) hx

theorem le_credit {t : Transfer} {xs : List Transfer} (h : t ∈ xs) :
    t.amount.toNat ≤ credit t.dest xs := by
  induction xs with
  | nil => simp at h
  | cons u us ih =>
    rw [credit_cons]
    rcases List.mem_cons.mp h with rfl | h
    · simp
    · have := ih h
      omega

section
variable {held held₁ held₂ : Pubkey → Nat} {v : Pubkey} {xs ys : List Transfer}

/-- An account that gives gets nothing, so it gives to others. -/
theorem dest_ne_of_flow (source : ∀ t ∈ ys, t.source = v)
    (flow : debit v ys ≠ 0 → credit v ys = 0) :
    ∀ t ∈ ys, t.amount ≠ 0 → t.dest ≠ v := by
  intro t ht hz he
  have hamount : t.amount.toNat ≠ 0 := fun h => hz (UInt64.toNat_inj.mp h)
  have hcredit := le_credit ht
  have hdebit := debit_of_source source
  have htotal : t.amount.toNat ≤ amountOf ys := hcredit.trans (credit_le t.dest ys)
  rw [he] at hcredit
  have := flow (by omega)
  omega

/-- What could be paid after other payouts could have been paid before them. -/
theorem ApartFlows.room_before (flows : ApartFlows xs ys) (source : ∀ t ∈ ys, t.source = v)
    (first : Balanced held held₁ xs) (second : Balanced held₁ held₂ ys)
    (held_lt : ∀ x, held x < 2 ^ 64) (held₂_lt : ∀ x, held₂ x < 2 ^ 64) :
    PayoutRoom held v ys := by
  refine ⟨dest_ne_of_flow source fun h => (flows.right v h).1, ?_, fun x hx => ?_⟩
  · rw [← debit_of_source source]
    by_cases hv : debit v ys = 0
    · omega
    · obtain ⟨hcredit, hdebit, hcredit'⟩ := flows.right v hv
      have h₁ := first v
      have h₂ := second v
      omega
  · have h₁ := first x
    have h₂ := second x
    have hlt := held_lt x
    have hlt₂ := held₂_lt x
    rw [debit_of_other source hx] at h₂
    by_cases hd : debit x xs = 0
    · omega
    · have := (flows.left x hd).2.2
      omega

/-- What could be paid before other payouts can be paid after them. -/
theorem ApartFlows.room_after {mid : Pubkey → Nat} (flows : ApartFlows xs ys)
    (source : ∀ t ∈ xs, t.source = v) (first : Balanced held held₁ xs)
    (second : Balanced held₁ held₂ ys) (swapped : Balanced held mid ys)
    (held₂_lt : ∀ x, held₂ x < 2 ^ 64) : PayoutRoom mid v xs := by
  refine ⟨dest_ne_of_flow source fun h => (flows.left v h).1, ?_, fun x hx => ?_⟩
  · rw [← debit_of_source source]
    by_cases hv : debit v xs = 0
    · omega
    · obtain ⟨hcredit, hdebit, hcredit'⟩ := flows.left v hv
      have h₁ := first v
      have h₃ := swapped v
      omega
  · have h₁ := first x
    have h₂ := second x
    have h₃ := swapped x
    have hlt₂ := held₂_lt x
    rw [debit_of_other source hx] at h₁
    omega

/-- Both orders end with the same holdings. -/
theorem Balanced.comm {mid last : Pubkey → Nat} (first : Balanced held held₁ xs)
    (second : Balanced held₁ held₂ ys) (first' : Balanced held mid ys)
    (second' : Balanced mid last xs) (x : Pubkey) : last x = held₂ x := by
  have h₁ := first x
  have h₂ := second x
  have h₃ := first' x
  have h₄ := second' x
  omega

end

/-- The payouts of a call that were in lamports. -/
def Call.lamportsPaid {rt : Runtime} (c : Call rt) (ts : List Transfer) : List Transfer :=
  if c.vaultToken?.isSome then [] else ts

/-- The payouts of a call that were in tokens. -/
def Call.tokensPaid {rt : Runtime} (c : Call rt) (ts : List Transfer) : List Transfer :=
  if c.vaultToken?.isSome then ts else []

namespace SessionCall

variable {rt : Runtime} {ctx : TxContext} {c : Call rt} {l l' : Ledger} {ts : List Transfer}
  {k x : Pubkey} {s s' : Session} {mv : SessionMove}

theorem token_after (h : SessionCall rt ctx c l l' ts k s s' mv) {t : TokenAccount}
    (ht : (l x).data = .token t) :
    ∃ t', (l' x).data = .token t' ∧ t'.mint = t.mint ∧ t'.owner = t.owner := by
  cases hv : c.vaultToken? with
  | none => exact ⟨t, (h.inLamports hv).2.tokens x t ht, rfl, rfl⟩
  | some v =>
    obtain ⟨t', ht', hm, ho, _⟩ := (h.inTokens v hv).2.tokens x t ht
    exact ⟨t', ht', hm, ho⟩

/-- Every other account carries what it carried. -/
theorem rest_back (h : SessionCall rt ctx c l l' ts k s s' mv) (hx : x ≠ k)
    (hn : ∀ n, (l' x).data ≠ .node n) (ht : ∀ t, (l' x).data ≠ .token t) :
    (l x).data = (l' x).data := by
  refine (h.recorded.rest x hx (fun n he => ?_) fun t he => ?_).symm
  · obtain ⟨n', hn', _⟩ := h.earned_on he
    exact hn n' hn'
  · obtain ⟨t', ht', _⟩ := h.token_after he
    exact ht t' ht'

theorem node_back (h : SessionCall rt ctx c l l' ts k s s' mv) {n' : Node}
    (hn : (l' x).data = .node n') : ∃ n, (l x).data = .node n := by
  by_contra hno
  exact h.no_node (fun n he => hno ⟨n, he⟩) n' hn

theorem token_back (h : SessionCall rt ctx c l l' ts k s s' mv) {t' : TokenAccount}
    (ht : (l' x).data = .token t') :
    ∃ t, (l x).data = .token t ∧ t'.mint = t.mint ∧ t'.owner = t.owner := by
  have hx : x ≠ k := ne_of_data ht h.recorded.after (by simp)
  by_cases hno : ∃ t, (l x).data = .token t
  · obtain ⟨t, hl⟩ := hno
    obtain ⟨t₁, ht₁, hm, ho⟩ := h.token_after hl
    obtain rfl : t₁ = t' := by simpa [ht₁] using ht
    exact ⟨t, hl, hm, ho⟩
  · by_cases hnode : ∃ n, (l x).data = .node n
    · obtain ⟨n, hn⟩ := hnode
      obtain ⟨n', hn', _⟩ := h.earned_on hn
      simp [hn'] at ht
    · have hrest := h.recorded.rest x hx (fun n he => hnode ⟨n, he⟩) fun t he => hno ⟨t, he⟩
      exact absurd ⟨t', hrest ▸ ht⟩ hno

/-- The parties of another session are the same after the call. -/
theorem same_parties (h : SessionCall rt ctx c l l' ts k s s' mv) {j : Pubkey} {z : Session}
    (hj : j ≠ k) (hz : (l j).data = .session z) : SameParties l l' j z := by
  refine ⟨fun x cfg hc => ?_, fun x n hn => ?_, ?_, fun x t ht => h.token_after ht⟩
  · have hx : x ≠ k := ne_of_data hc h.recorded.before (by simp)
    rw [h.recorded.rest x hx (by simp [hc]) (by simp [hc]), hc]
  · obtain ⟨n', hn', he⟩ := h.earned_on hn
    refine ⟨n', hn', ?_⟩
    rw [he.identity]
    exact ⟨rfl, rfl, rfl⟩
  · rw [h.recorded.rest j hj (by simp [hz]) (by simp [hz]), hz]

/-- And they were the same before it. -/
theorem same_parties_back (h : SessionCall rt ctx c l l' ts k s s' mv) {j : Pubkey} {z : Session}
    (hj : j ≠ k) (hz : (l' j).data = .session z) : SameParties l' l j z := by
  refine ⟨fun x cfg hc => ?_, fun x n' hn' => ?_, ?_, fun x t' ht' => ?_⟩
  · have hx : x ≠ k := ne_of_data hc h.recorded.after (by simp)
    rw [h.rest_back hx (by simp [hc]) (by simp [hc]), hc]
  · obtain ⟨n, hn⟩ := h.node_back hn'
    obtain ⟨n₁, hn₁, he⟩ := h.earned_on hn
    obtain rfl : n₁ = n' := by simpa [hn₁] using hn'
    refine ⟨n, hn, ?_⟩
    rw [he.identity]
    exact ⟨rfl, rfl, rfl⟩
  · rw [h.rest_back hj (by simp [hz]) (by simp [hz]), hz]
  · obtain ⟨t, ht, hm, ho⟩ := h.token_back ht'
    exact ⟨t, ht, hm.symm, ho.symm⟩

theorem lamports_balanced (h : SessionCall rt ctx c l l' ts k s s' mv) :
    Balanced (fun x => (l x).lamports.toNat) (fun x => (l' x).lamports.toNat)
      (c.lamportsPaid ts) := by
  intro x
  cases hv : c.vaultToken? with
  | none => simpa [Call.lamportsPaid, hv] using (h.inLamports hv).2.lamports x
  | some v => simp [Call.lamportsPaid, hv, (h.inTokens v hv).2.lamports x]

/-- Lamports leave the session's own account only. -/
theorem lamports_source (h : SessionCall rt ctx c l l' ts k s s' mv) :
    ∀ t ∈ c.lamportsPaid ts, t.source = k := by
  cases hv : c.vaultToken? with
  | none => simpa [Call.lamportsPaid, hv] using fun t ht => ((h.inLamports hv).2.source t ht).2
  | some v => simp [Call.lamportsPaid, hv]

/-- No account of a session is paid lamports. -/
theorem session_not_paid (h : SessionCall rt ctx c l l' ts k s s' mv) (hi : Inv rt l)
    {node consumer : Pubkey} {sessionSeed : UInt64} {b : UInt8}
    (hx : rt.find (.session node consumer sessionSeed) = some (x, b)) :
    credit x (c.lamportsPaid ts) = 0 := by
  cases hv : c.vaultToken? with
  | some v => simp [Call.lamportsPaid, hv]
  | none =>
    obtain ⟨cfg, hcfg, hdest⟩ := (h.inLamports hv).2.dest
    obtain ⟨b', hfee⟩ := hcfg.feeVault hi
    have hne := hi.payee_ne h.recorded.before (Runtime.isPda_of_find hx)
      (rt.session_ne_feeVault hx hfee)
    simp only [Call.lamportsPaid, hv, Option.isSome_none, Bool.false_eq_true, if_false]
    exact credit_eq_zero fun t ht he => absurd (he.trans (hdest t ht)).symm (hne t.role)

/-- Tokens leave an account of the session's vault authority only. -/
theorem vault_of_debit (h : SessionCall rt ctx c l l' ts k s s' mv)
    (hx : debit x (c.tokensPaid ts) ≠ 0) :
    ∃ t b, (l x).data = .token t ∧ rt.find (.vault k) = some (t.owner, b) := by
  cases hv : c.vaultToken? with
  | none => simp [Call.tokensPaid, hv] at hx
  | some v =>
    have hp := (h.inTokens v hv).2
    simp only [Call.tokensPaid, hv, Option.isSome_some, if_true] at hx
    obtain ⟨b, hb⟩ := hp.authority
    by_contra hno
    refine hx (debit_eq_zero fun t ht he => ?_)
    by_contra hz
    obtain ⟨a, _, ha, _, _, ho⟩ := hp.rights t ht hz
    exact hno ⟨a, b, he ▸ ha, ho ▸ hb⟩

/-- Tokens are paid to token accounts, and to none that a session's vault
authority owns. -/
theorem vault_not_paid (h : SessionCall rt ctx c l l' ts k s s' mv) (hi : Inv rt l)
    (hx : ∀ t, (l x).data = .token t → ∃ j b, rt.find (.vault j) = some (t.owner, b)) :
    credit x (c.tokensPaid ts) = 0 := by
  cases hv : c.vaultToken? with
  | none => simp [Call.tokensPaid, hv]
  | some v =>
    obtain ⟨cfg, hcfg, hdest⟩ := (h.inTokens v hv).2.dest
    obtain ⟨b', hfee⟩ := hcfg.feeVault hi
    simp only [Call.tokensPaid, hv, Option.isSome_some, if_true]
    refine credit_eq_zero fun t ht he => ?_
    obtain ⟨d, hd, ho⟩ := hdest t ht
    obtain ⟨j, b, hj⟩ := hx d (he ▸ hd)
    exact absurd ho.symm (hi.payee_ne h.recorded.before (Runtime.isPda_of_find hj)
      (rt.vault_ne_feeVault hj hfee) t.role)

theorem tokens_balanced (h : SessionCall rt ctx c l l' ts k s s' mv) (hi : Inv rt l) :
    Balanced l.tokens l'.tokens (c.tokensPaid ts) := by
  intro x
  by_cases htok : ∃ t, (l x).data = .token t
  · obtain ⟨t, ht⟩ := htok
    cases hv : c.vaultToken? with
    | none =>
      rw [Ledger.tokens_of_data ht, Ledger.tokens_of_data ((h.inLamports hv).2.tokens x t ht)]
      simp [Call.tokensPaid, hv]
    | some v =>
      obtain ⟨t', ht', _, _, he⟩ := (h.inTokens v hv).2.tokens x t ht
      rw [Ledger.tokens_of_data ht, Ledger.tokens_of_data ht']
      simpa [Call.tokensPaid, hv] using he
  · have hdebit : debit x (c.tokensPaid ts) = 0 := by
      by_contra hd
      obtain ⟨t, _, ht, _⟩ := h.vault_of_debit hd
      exact htok ⟨t, ht⟩
    rw [hdebit, h.vault_not_paid hi fun t ht => absurd ⟨t, ht⟩ htok,
      Ledger.tokens_of_absent fun t ht => htok ⟨t, ht⟩, Ledger.tokens_of_absent]
    intro t' ht'
    obtain ⟨t, ht, _⟩ := h.token_back ht'
    exact htok ⟨t, ht⟩

end SessionCall

/-- The same session calls one after the other, on two sessions. -/
structure InTurn (rt : Runtime) (ctxA ctxB : TxContext) (a b : Call rt) (l l₁ l₂ : Ledger)
    (tsA tsB : List Transfer) (A B : Pubkey) (sA sA' sB sB' : Session) (mvA mvB : SessionMove) :
    Prop where
  ne : A ≠ B
  inv : Inv rt l
  inv₁ : Inv rt l₁
  first : SessionCall rt ctxA a l l₁ tsA A sA sA' mvA
  second : SessionCall rt ctxB b l₁ l₂ tsB B sB sB' mvB

namespace InTurn

variable {rt : Runtime} {ctxA ctxB : TxContext} {a b : Call rt} {l l₁ l₂ : Ledger}
  {tsA tsB : List Transfer} {A B : Pubkey} {sA sA' sB sB' : Session} {mvA mvB : SessionMove}

theorem lamports_apart
    (h : InTurn rt ctxA ctxB a b l l₁ l₂ tsA tsB A B sA sA' sB sB' mvA mvB) :
    ApartFlows (a.lamportsPaid tsA) (b.lamportsPaid tsB) := by
  have hA := (h.inv.session A sA h.first.recorded.before).address
  have hB := (h.inv₁.session B sB h.second.recorded.before).address
  constructor
  · intro x hx
    obtain rfl : x = A := by
      by_contra hne
      exact hx (debit_of_other h.first.lamports_source hne)
    exact ⟨h.first.session_not_paid h.inv hA, debit_of_other h.second.lamports_source h.ne,
      h.second.session_not_paid h.inv₁ hA⟩
  · intro x hx
    obtain rfl : x = B := by
      by_contra hne
      exact hx (debit_of_other h.second.lamports_source hne)
    exact ⟨h.second.session_not_paid h.inv₁ hB, debit_of_other h.first.lamports_source h.ne.symm,
      h.first.session_not_paid h.inv hB⟩

/-- Vault authorities of different sessions differ. -/
theorem vaults_ne (h : InTurn rt ctxA ctxB a b l l₁ l₂ tsA tsB A B sA sA' sB sB' mvA mvB)
    {v : Pubkey} {x y : UInt8} (hA : rt.find (.vault A) = some (v, x)) :
    rt.find (.vault B) ≠ some (v, y) := fun hB =>
  h.ne (rt.vault_inj (h.inv.session A sA h.first.recorded.before).address
    (h.inv₁.session B sB h.second.recorded.before).address hA hB)

theorem tokens_apart (h : InTurn rt ctxA ctxB a b l l₁ l₂ tsA tsB A B sA sA' sB sB' mvA mvB) :
    ApartFlows (a.tokensPaid tsA) (b.tokensPaid tsB) := by
  constructor
  · intro x hx
    obtain ⟨t, y, ht, hy⟩ := h.first.vault_of_debit hx
    obtain ⟨t₁, ht₁, _, ho⟩ := h.first.token_after ht
    refine ⟨h.first.vault_not_paid h.inv fun u hu => ?_, ?_,
      h.second.vault_not_paid h.inv₁ fun u hu => ?_⟩
    · obtain rfl : t = u := by simpa [ht] using hu
      exact ⟨A, y, hy⟩
    · by_contra hd
      obtain ⟨u, z, hu, hz⟩ := h.second.vault_of_debit hd
      obtain rfl : t₁ = u := by simpa [ht₁] using hu
      exact h.vaults_ne hy (ho ▸ hz)
    · obtain rfl : t₁ = u := by simpa [ht₁] using hu
      exact ⟨A, y, ho ▸ hy⟩
  · intro x hx
    obtain ⟨t₁, y, ht₁, hy⟩ := h.second.vault_of_debit hx
    obtain ⟨t, ht, _, ho⟩ := h.first.token_back ht₁
    refine ⟨h.second.vault_not_paid h.inv₁ fun u hu => ?_, ?_,
      h.first.vault_not_paid h.inv fun u hu => ?_⟩
    · obtain rfl : t₁ = u := by simpa [ht₁] using hu
      exact ⟨B, y, hy⟩
    · by_contra hd
      obtain ⟨u, z, hu, hz⟩ := h.first.vault_of_debit hd
      obtain rfl : t = u := by simpa [ht] using hu
      exact h.vaults_ne hz (ho ▸ hy)
    · obtain rfl : t = u := by simpa [ht] using hu
      exact ⟨B, y, ho ▸ hy⟩

/-- The second call goes through without the first. -/
theorem second_alone (h : InTurn rt ctxA ctxB a b l l₁ l₂ tsA tsB A B sA sA' sB sB' mvA mvB)
    (hb : b.exec ctxB l₁ = .ok (l₂, tsB)) (hk : b.session? = some B) (ho : b.opens = false) :
    ∃ m₁, b.exec ctxB l = .ok (m₁, tsB) ∧ (m₁ B).data = .session sB' := by
  refine h.second.rerun hb hk ho
    (h.first.same_parties_back h.ne.symm h.second.recorded.before) ?_ ?_ ?_
  · intro w n hw hn
    obtain ⟨n₁, hn₁, he₁⟩ := h.first.earned_on hn
    obtain ⟨n₂, _, he₂⟩ := h.second.earned_on hn₁
    have hu₁ := he₁.units
    have hs₁ := he₁.settled
    have hu₂ := he₂.units
    have hs₂ := he₂.settled
    have hu_lt := n₂.totalUnits.toNat_lt
    have hs_lt := n₂.totalSettled.toNat_lt
    simp only [if_true, hw, Option.getD_some] at hu₂ hs₂
    exact ⟨by omega, by omega⟩
  · intro hv
    have room := h.lamports_apart.room_before h.second.lamports_source h.first.lamports_balanced
      h.second.lamports_balanced (fun x => (l x).lamports.toNat_lt)
      fun x => (l₂ x).lamports.toNat_lt
    simpa [Call.lamportsPaid, hv] using room
  · intro v hv
    have source : ∀ t ∈ b.tokensPaid tsB, t.source = v := by
      simpa [Call.tokensPaid, hv] using fun t ht => ((h.second.inTokens v hv).2.source t ht).2
    have room := h.tokens_apart.room_before source (h.first.tokens_balanced h.inv)
      (h.second.tokens_balanced h.inv₁) l.tokens_lt l₂.tokens_lt
    simpa [Call.tokensPaid, hv] using room

variable {m₁ m₂ : Ledger}

/-- The first call goes through after the second. -/
theorem first_later (h : InTurn rt ctxA ctxB a b l l₁ l₂ tsA tsB A B sA sA' sB sB' mvA mvB)
    (first' : SessionCall rt ctxB b l m₁ tsB B sB sB' mvB) (ha : a.exec ctxA l = .ok (l₁, tsA))
    (hk : a.session? = some A) (ho : a.opens = false) :
    ∃ m₂, a.exec ctxA m₁ = .ok (m₂, tsA) ∧ (m₂ A).data = .session sA' := by
  refine h.first.rerun ha hk ho (first'.same_parties h.ne h.first.recorded.before) ?_ ?_ ?_
  · intro w n' hw hn'
    obtain ⟨n, hn⟩ := first'.node_back hn'
    obtain ⟨n₃, hn₃, he₃⟩ := first'.earned_on hn
    obtain rfl : n₃ = n' := by simpa [hn₃] using hn'
    obtain ⟨n₁, hn₁, he₁⟩ := h.first.earned_on hn
    obtain ⟨n₂, _, he₂⟩ := h.second.earned_on hn₁
    have hu₁ := he₁.units
    have hs₁ := he₁.settled
    have hu₂ := he₂.units
    have hs₂ := he₂.settled
    have hu₃ := he₃.units
    have hs₃ := he₃.settled
    have hu_lt := n₂.totalUnits.toNat_lt
    have hs_lt := n₂.totalSettled.toNat_lt
    simp only [if_true, hw, Option.getD_some] at hu₁ hs₁
    exact ⟨by omega, by omega⟩
  · intro hv
    have room := h.lamports_apart.room_after h.first.lamports_source h.first.lamports_balanced
      h.second.lamports_balanced first'.lamports_balanced fun x => (l₂ x).lamports.toNat_lt
    simpa [Call.lamportsPaid, hv] using room
  · intro v hv
    have source : ∀ t ∈ a.tokensPaid tsA, t.source = v := by
      simpa [Call.tokensPaid, hv] using fun t ht => ((h.first.inTokens v hv).2.source t ht).2
    have room := h.tokens_apart.room_after source (h.first.tokens_balanced h.inv)
      (h.second.tokens_balanced h.inv₁) (first'.tokens_balanced h.inv) l₂.tokens_lt
    simpa [Call.tokensPaid, hv] using room

end InTurn

/-- Trackers that two payouts add to end the same in either order. -/
theorem Node.Earned.comm {n n₁ n₂ m₁ m₂ : Node} {wA wB : Nat × UInt32} {eA eB : Nat}
    (first : n.Earned n₁ wA eA) (second : n₁.Earned n₂ wB eB) (first' : n.Earned m₁ wB eB)
    (second' : m₁.Earned m₂ wA eA) : m₂ = n₂ := by
  have hrep : m₂.reputation = n₂.reputation := by
    rw [second'.reputation, first'.reputation, second.reputation, first.reputation,
      saturatingAdd_right_comm]
  have hunits : m₂.totalUnits = n₂.totalUnits := by
    apply UInt64.toNat_inj.mp
    rw [second'.units, first'.units, second.units, first.units]
    omega
  have hsettled : m₂.totalSettled = n₂.totalSettled := by
    apply UInt64.toNat_inj.mp
    rw [second'.settled, first'.settled, second.settled, first.settled]
    omega
  have hm := second'.identity
  have hn := second.identity
  rw [first'.identity] at hm
  rw [first.identity] at hn
  rw [hm, hn, hrep, hunits, hsettled]
  rfl

/-- Both orders end in the same state. -/
theorem InTurn.same_end {rt : Runtime} {ctxA ctxB : TxContext} {a b : Call rt}
    {l l₁ l₂ m₁ m₂ : Ledger} {tsA tsB : List Transfer} {A B : Pubkey} {sA sA' sB sB' : Session}
    {mvA mvB : SessionMove}
    (h : InTurn rt ctxA ctxB a b l l₁ l₂ tsA tsB A B sA sA' sB sB' mvA mvB) (inv' : Inv rt m₁)
    (first' : SessionCall rt ctxB b l m₁ tsB B sB sB' mvB)
    (second' : SessionCall rt ctxA a m₁ m₂ tsA A sA sA' mvA) : m₂ = l₂ := by
  funext x
  have lamports := h.first.lamports_balanced.comm h.second.lamports_balanced
    first'.lamports_balanced second'.lamports_balanced x
  have tokens := (h.first.tokens_balanced h.inv).comm (h.second.tokens_balanced h.inv₁)
    (first'.tokens_balanced h.inv) (second'.tokens_balanced inv') x
  refine account_ext lamports ?_
  by_cases hA : x = A
  · subst hA
    have hstay := h.second.same_parties h.ne h.first.recorded.after
    rw [second'.recorded.after, hstay.session]
  by_cases hB : x = B
  · subst hB
    have hstay := second'.same_parties h.ne.symm first'.recorded.after
    rw [h.second.recorded.after, hstay.session]
  by_cases hnode : ∃ n, (l x).data = .node n
  · obtain ⟨n, hn⟩ := hnode
    obtain ⟨n₁, hn₁, he₁⟩ := h.first.earned_on hn
    obtain ⟨n₂, hn₂, he₂⟩ := h.second.earned_on hn₁
    obtain ⟨n₃, hn₃, he₃⟩ := first'.earned_on hn
    obtain ⟨n₄, hn₄, he₄⟩ := second'.earned_on hn₃
    rw [hn₂, hn₄, he₁.comm he₂ he₃ he₄]
  by_cases htok : ∃ t, (l x).data = .token t
  · obtain ⟨t, ht⟩ := htok
    obtain ⟨t₁, ht₁, hm₁, ho₁⟩ := h.first.token_after ht
    obtain ⟨t₂, ht₂, hm₂, ho₂⟩ := h.second.token_after ht₁
    obtain ⟨t₃, ht₃, hm₃, ho₃⟩ := first'.token_after ht
    obtain ⟨t₄, ht₄, hm₄, ho₄⟩ := second'.token_after ht₃
    rw [Ledger.tokens_of_data ht₂, Ledger.tokens_of_data ht₄] at tokens
    rw [ht₂, ht₄, TokenAccount.ext (by rw [hm₄, hm₃, hm₂, hm₁]) (by rw [ho₄, ho₃, ho₂, ho₁])
      (UInt64.toNat_inj.mp tokens)]
  · have hrest : ∀ n, (l x).data ≠ .node n := fun n he => hnode ⟨n, he⟩
    have hrest' : ∀ t, (l x).data ≠ .token t := fun t he => htok ⟨t, he⟩
    have h₁ := h.first.recorded.rest x hA hrest hrest'
    have h₃ := first'.recorded.rest x hB hrest hrest'
    rw [h.second.recorded.rest x hB (h₁ ▸ hrest) (h₁ ▸ hrest'),
      second'.recorded.rest x hA (h₃ ▸ hrest) (h₃ ▸ hrest'), h₁, h₃]

/-- A call that names another session leaves the record of session `B` alone and
takes no lamports from its account. -/
theorem Call.isolated {rt : Runtime} {ctx : TxContext} {c : Call rt} {l l' : Ledger}
    {ts : List Transfer} {A B : Pubkey} {s : Session} (hp : ctx.precompiled rt = true)
    (h : c.exec ctx l = .ok (l', ts)) (hk : c.session? = some A) (hne : A ≠ B)
    (hs : (l B).data = .session s) :
    (l' B).data = .session s ∧ (l B).lamports ≤ (l' B).lamports := by
  have hrecord : (l B).data ≠ .system := by simp [hs]
  rcases Call.on_session hp h hk with ⟨_, _, z, ho | ⟨m, ho⟩⟩ | ⟨_, z, z', mv, hc⟩
  · rw [ho.data B hne.symm, hs, ho.carrier B hne.symm hrecord]
    exact ⟨rfl, UInt64.le_refl _⟩
  · have hv : B ≠ rt.vaultAta A m := ne_of_data hs ho.vaultFresh (by simp)
    rw [ho.data B hne.symm hv (by simp [hs]), hs, ho.carrier B hne.symm hrecord]
    exact ⟨rfl, UInt64.le_refl _⟩
  · refine ⟨(hc.same_parties hne.symm hs).session, UInt64.le_iff_toNat_le.mpr ?_⟩
    have hbal : (l' B).lamports.toNat + _ = (l B).lamports.toNat + _ := hc.lamports_balanced B
    rw [debit_of_other hc.lamports_source hne.symm] at hbal
    omega

/-- Two calls on different sessions can change places. -/
theorem Call.commute {rt : Runtime} {ctxA ctxB : TxContext} {a b : Call rt} {l l₁ l₂ : Ledger}
    {tsA tsB : List Transfer} {A B : Pubkey} (hi : Inv rt l) (hne : A ≠ B)
    (hpA : ctxA.precompiled rt = true) (hpB : ctxB.precompiled rt = true)
    (hA : a.session? = some A) (hB : b.session? = some B) (hoA : a.opens = false)
    (hoB : b.opens = false) (ha : a.exec ctxA l = .ok (l₁, tsA))
    (hb : b.exec ctxB l₁ = .ok (l₂, tsB)) :
    ∃ m₁, b.exec ctxB l = .ok (m₁, tsB) ∧ a.exec ctxA m₁ = .ok (l₂, tsA) := by
  obtain ⟨sA, sA', mvA, first⟩ := Call.session_call hpA ha hA hoA
  obtain ⟨sB, sB', mvB, second⟩ := Call.session_call hpB hb hB hoB
  have turn : InTurn rt ctxA ctxB a b l l₁ l₂ tsA tsB A B sA sA' sB sB' mvA mvB :=
    ⟨hne, hi, Step.inv hi (.call hpA ha), first, second⟩
  obtain ⟨m₁, hb', hafter⟩ := turn.second_alone hb hB hoB
  obtain ⟨z, z', mv, first'⟩ := Call.session_call hpB hb' hB hoB
  have hback := first.same_parties_back hne.symm second.recorded.before
  obtain rfl : z = sB := by simpa [hback.session] using first'.recorded.before.symm
  obtain rfl : z' = sB' := by simpa [hafter] using first'.recorded.after.symm
  obtain rfl : mv = mvB := by simpa [second.move] using first'.move.symm
  obtain ⟨m₂, ha', hafter'⟩ := turn.first_later first' ha hA hoA
  obtain ⟨y, y', mv', second'⟩ := Call.session_call hpA ha' hA hoA
  have hkept := first'.same_parties hne first.recorded.before
  obtain rfl : y = sA := by simpa [hkept.session] using second'.recorded.before.symm
  obtain rfl : y' = sA' := by simpa [hafter'] using second'.recorded.after.symm
  obtain rfl : mv' = mvA := by simpa [first.move] using second'.move.symm
  obtain rfl := turn.same_end (Step.inv hi (.call hpB hb')) first' second'
  exact ⟨m₁, hb', ha'⟩

/-- Sessions do not interfere. An instruction that names one session changes no
field of another and takes nothing from its account or its vault, and two
instructions on existing sessions give the same state in either order. -/
theorem sessions_commute {rt : Runtime} {start l : Ledger} {tr : History rt}
    (genesis : Genesis start) (run : Run (Step rt) start tr l) {A B : Pubkey} (hne : A ≠ B) :
    (∀ (ctx : TxContext) (c : Call rt) (l' : Ledger) (ts : List Transfer) (s : Session),
      ctx.precompiled rt = true → c.session? = some A → c.exec ctx l = .ok (l', ts) →
      (l B).data = .session s →
      (l' B).data = .session s ∧ (l B).lamports ≤ (l' B).lamports ∧
        ∀ m, s.mint = some m → l.tokens (rt.vaultAta B m) ≤ l'.tokens (rt.vaultAta B m)) ∧
    (∀ (ctxA ctxB : TxContext) (a b : Call rt) (l₁ l₂ : Ledger) (tsA tsB : List Transfer),
      ctxA.precompiled rt = true → ctxB.precompiled rt = true →
      a.session? = some A → b.session? = some B → a.opens = false → b.opens = false →
      a.exec ctxA l = .ok (l₁, tsA) → b.exec ctxB l₁ = .ok (l₂, tsB) →
      ∃ m₁, b.exec ctxB l = .ok (m₁, tsB) ∧ a.exec ctxA m₁ = .ok (l₂, tsA)) := by
  have hi := run_inv genesis run
  constructor
  · intro ctx c l' ts s hp hk h hs
    obtain ⟨hdata, hlam⟩ := Call.isolated hp h hk hne hs
    refine ⟨hdata, hlam, fun m hm => ?_⟩
    have busy : (Label.call ctx c ts).busy ≠ some B := by
      intro he
      exact hne (Option.some.inj (hk.symm.trans he))
    exact ((run_vault genesis run B m s hs hm).kept.bystander hi hs (.call hp h) busy).2
  · intro ctxA ctxB a b l₁ l₂ tsA tsB hpA hpB hA hB hoA hoB ha hb
    exact Call.commute hi hne hpA hpB hA hB hoA hoB ha hb

section
open Localnet

/-- Both sessions are settled, the one in lamports and the other in tokens. -/
def settleSol : Call Localnet.rt := .settleSession (settleAccounts 7) (update 7 2 400000 1600)

def settleSpl : Call Localnet.rt :=
  .settleSessionSpl ⟨payoutAccounts 8, ixSysvarId⟩ (update 8 1 4000 900)

def settleSolContext : TxContext :=
  ⟨(cosigned 6 (update 7 2 400000 1600) settleSol).sysvar, 2, 6⟩

def settleSplContext : TxContext :=
  ⟨(cosigned 6 (update 8 1 4000 900) settleSpl).sysvar, 2, 6⟩

/-- The two sessions have the node, the provider and the consumer in common. -/
theorem sessions_commute_settled : ∃ l₁ l₂ m₁ tsA tsB,
    settleSol.exec settleSolContext twoSessions.1 = .ok (l₁, tsA) ∧
    settleSpl.exec settleSplContext l₁ = .ok (l₂, tsB) ∧
    settleSpl.exec settleSplContext twoSessions.1 = .ok (m₁, tsB) ∧
    settleSol.exec settleSolContext m₁ = .ok (l₂, tsA) := by
  have run : Run (Step Localnet.rt) Localnet.start twoSessions.2 twoSessions.1 :=
    Transaction.submit_run _ _
  obtain ⟨⟨l₁, tsA⟩, ha⟩ := exists_ok (by decide +kernel :
    (settleSol.exec settleSolContext twoSessions.1).isOk = true)
  have after : settleSol.submit settleSolContext twoSessions.1 = l₁ := by
    simp [Call.submit, ha]
  obtain ⟨⟨l₂, tsB⟩, hb⟩ := exists_ok (by decide +kernel : (settleSpl.exec settleSplContext
    (settleSol.submit settleSolContext twoSessions.1)).isOk = true)
  rw [after] at hb
  have hne : session 7 ≠ session 8 := by decide +kernel
  obtain ⟨m₁, hb', ha'⟩ := (sessions_commute start_genesis run hne).2 settleSolContext
    settleSplContext settleSol settleSpl l₁ l₂ tsA tsB (by decide +kernel) (by decide +kernel) rfl
    rfl rfl rfl ha hb
  exact ⟨l₁, l₂, m₁, tsA, tsB, ha, hb, hb', ha'⟩

end

end SolMesh
