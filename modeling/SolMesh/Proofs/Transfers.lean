import SolMesh.Model.Spl

namespace SolMesh
open Outcome Words

theorem ne_of_absent {l : Ledger} {x y : Pubkey} {d : AccountData} (hx : (l x).data ≠ d)
    (hy : (l y).data = d) : x ≠ y := by
  intro he
  subst he
  exact hx hy

theorem ne_of_data {l : Ledger} {x y : Pubkey} {d e : AccountData} (hx : (l x).data = d)
    (hy : (l y).data = e) (h : d ≠ e) : x ≠ y :=
  ne_of_absent (hx ▸ h) hy

theorem account_ext {a b : Account} (hl : a.lamports.toNat = b.lamports.toNat)
    (hd : a.data = b.data) : a = b := by
  cases a
  cases b
  simp only [Account.mk.injEq]
  exact ⟨UInt64.toNat_inj.mp hl, hd⟩

/-- Lamports went from one account to another, and nothing else happened. -/
structure Sends (l l' : Ledger) (src dst : Pubkey) (n : Nat) : Prop where
  data : ∀ x, (l' x).data = (l x).data
  lamports : ∀ x, (l' x).lamports.toNat + (if x = src then n else 0) =
    (l x).lamports.toNat + (if x = dst then n else 0)

theorem Sends.zero (l : Ledger) (src dst : Pubkey) : Sends l l src dst 0 :=
  ⟨fun _ => rfl, fun _ => by simp⟩

/-- Debit one account and credit the other, in this order. -/
theorem sends_of_words {l : Ledger} {src dst : Pubkey} {amount x y : UInt64}
    (hx : x.toNat + amount.toNat = (l src).lamports.toNat)
    (hy : y.toNat = ((l.setLamports src x) dst).lamports.toNat + amount.toNat) :
    Sends l ((l.setLamports src x).setLamports dst y) src dst amount.toNat := by
  refine ⟨fun k => by simp, fun k => ?_⟩
  simp only [Ledger.setLamports_lamports] at hy ⊢
  by_cases hd : k = dst
  · subst hd
    by_cases hs : k = src
    · subst hs
      simp only [if_true] at hy ⊢
      omega
    · simp only [hs, if_true, if_false] at hy ⊢
      omega
  · by_cases hs : k = src
    · subst hs
      simp only [hd, if_true, if_false]
      omega
    · simp [hd, hs]

theorem systemTransfer_ok {l l' : Ledger} {src dst : Pubkey} {amount : UInt64}
    (h : systemTransfer l src dst amount = .ok l') :
    (l src).data = .system ∧ Sends l l' src dst amount.toNat := by
  simp only [systemTransfer, bind_ok, require_ok, okOr_ok, pure_ok, checkedSub_some,
    checkedAdd_some] at h
  obtain ⟨_, hdata, x, hx, y, hy, rfl⟩ := h
  exact ⟨hdata, sends_of_words hx hy⟩

theorem systemTransfer_covered {l l' : Ledger} {src dst : Pubkey} {amount : UInt64}
    (h : systemTransfer l src dst amount = .ok l') : amount.toNat ≤ (l src).lamports.toNat := by
  simp only [systemTransfer, bind_ok, require_ok, okOr_ok, pure_ok, checkedSub_some] at h
  obtain ⟨_, _, x, hx, _⟩ := h
  omega

theorem pdaTransferLamports_ok {l l' : Ledger} {src dst : Pubkey} {amount : UInt64}
    (h : pdaTransferLamports l src dst amount = .ok l') : Sends l l' src dst amount.toNat := by
  unfold pdaTransferLamports at h
  split at h
  · rename_i hz
    obtain rfl := pure_ok.mp h
    rw [hz]
    exact Sends.zero l src dst
  · simp only [bind_ok, require_ok, okOr_ok, pure_ok, checkedSub_some, checkedAdd_some] at h
    obtain ⟨_, hne, x, hx, y, hy, rfl⟩ := h
    refine sends_of_words hx ?_
    rwa [Ledger.setLamports_lamports, if_neg (Ne.symm hne)]

/-- A payout out of a program account succeeds when the balance covers it and
the receiver is another account with room for it. -/
theorem pdaTransferLamports_exists {l : Ledger} {src dst : Pubkey} {amount : UInt64}
    (hne : src ≠ dst) (hcover : amount.toNat ≤ (l src).lamports.toNat)
    (hroom : (l dst).lamports.toNat + amount.toNat < 2 ^ 64) :
    ∃ l', pdaTransferLamports l src dst amount = .ok l' := by
  unfold pdaTransferLamports
  split
  · exact ⟨l, rfl⟩
  · obtain ⟨x, hx⟩ := checkedSub_exists hcover
    obtain ⟨y, hy⟩ := checkedAdd_exists hroom
    refine ⟨(l.setLamports src x).setLamports dst y, ?_⟩
    simp only [bind_ok, require_ok, okOr_ok, pure_ok]
    exact ⟨(), hne, x, hx, y, hy, rfl⟩

/-- Tokens went from one account to another of the same mint. -/
structure TokenSends (l l' : Ledger) (src dst : Pubkey) (n : Nat) : Prop where
  lamports : ∀ x, (l' x).lamports = (l x).lamports
  data : ∀ x, (∀ t, (l x).data ≠ .token t) → (l' x).data = (l x).data
  token : ∀ x t, (l x).data = .token t → ∃ t', (l' x).data = .token t' ∧
    t'.mint = t.mint ∧ t'.owner = t.owner ∧
    t'.amount.toNat + (if x = src then n else 0) =
      t.amount.toNat + (if x = dst then n else 0)

theorem TokenSends.zero (l : Ledger) (src dst : Pubkey) : TokenSends l l src dst 0 :=
  ⟨fun _ => rfl, fun _ _ => rfl, fun _ t ht => ⟨t, ht, rfl, rfl, by simp⟩⟩

theorem TokenSends.self (l : Ledger) (k : Pubkey) (n : Nat) : TokenSends l l k k n :=
  ⟨fun _ => rfl, fun _ _ => rfl, fun _ t ht => ⟨t, ht, rfl, rfl, rfl⟩⟩

/-- Tokens that move between two accounts leave every other one as it was. -/
theorem TokenSends.others {l l' : Ledger} {src dst : Pubkey} {n : Nat}
    (h : TokenSends l l' src dst n) {x : Pubkey} (hs : x ≠ src) (hd : x ≠ dst) :
    (l' x).data = (l x).data := by
  by_cases ht : ∃ t, (l x).data = .token t
  · obtain ⟨t, ht⟩ := ht
    obtain ⟨t', ht', mint, owner, amount⟩ := h.token x t ht
    rw [if_neg hs, if_neg hd] at amount
    rw [ht', ht, TokenAccount.ext mint owner (UInt64.toNat_inj.mp amount)]
  · exact h.data x fun t hx => ht ⟨t, hx⟩

/-- What the Token program checked before it moved anything. -/
structure TokenRights (l : Ledger) (src dst authority : Pubkey) (n : Nat) : Prop where
  accounts : ∃ a b, (l src).data = .token a ∧ (l dst).data = .token b ∧ a.mint = b.mint ∧
    a.owner = authority ∧ n ≤ a.amount.toNat

theorem tokenTransfer_ok {l l' : Ledger} {src dst authority : Pubkey} {amount : UInt64}
    (h : tokenTransfer l src dst authority amount = .ok l') :
    TokenRights l src dst authority amount.toNat ∧ TokenSends l l' src dst amount.toNat := by
  simp only [tokenTransfer, bind_ok, loadToken_ok, require_ok] at h
  obtain ⟨a, ha, b, hb, _, hle, _, hmint, _, howner, h⟩ := h
  refine ⟨⟨a, b, ha, hb, hmint, howner, UInt64.le_iff_toNat_le.mp hle⟩, ?_⟩
  split at h
  · rename_i he
    obtain rfl := pure_ok.mp h
    rw [he]
    exact TokenSends.self l dst _
  · rename_i hne
    simp only [bind_ok, okOr_ok, pure_ok, checkedSub_some, checkedAdd_some] at h
    obtain ⟨x, hx, y, hy, rfl⟩ := h
    refine ⟨fun k => by simp, fun k hk => ?_, fun k t ht => ?_⟩
    · have hks : k ≠ src := ne_of_absent (hk a) ha
      have hkd : k ≠ dst := ne_of_absent (hk b) hb
      simp [hks, hkd]
    · by_cases hd : k = dst
      · subst hd
        obtain rfl : b = t := by simpa [hb] using ht
        exact ⟨{ b with amount := y }, by simp, rfl, rfl, by simp [Ne.symm hne, hy]⟩
      · by_cases hs : k = src
        · subst hs
          obtain rfl : a = t := by simpa [ha] using ht
          exact ⟨{ a with amount := x }, by simp [hd], rfl, rfl, by simp [hd, hx]⟩
        · exact ⟨t, by simp [hd, hs, ht], rfl, rfl, by simp [hd, hs]⟩

theorem tokenTransfer_exists {l : Ledger} {src dst authority : Pubkey} {amount : UInt64}
    {a b : TokenAccount} (ha : (l src).data = .token a) (hb : (l dst).data = .token b)
    (hmint : a.mint = b.mint) (howner : a.owner = authority)
    (hcover : amount.toNat ≤ a.amount.toNat) (hroom : b.amount.toNat + amount.toNat < 2 ^ 64) :
    ∃ l', tokenTransfer l src dst authority amount = .ok l' := by
  have hle : amount ≤ a.amount := UInt64.le_iff_toNat_le.mpr hcover
  obtain ⟨x, hx⟩ := checkedSub_exists hcover
  obtain ⟨y, hy⟩ := checkedAdd_exists hroom
  by_cases he : src = dst
  · refine ⟨l, ?_⟩
    simp only [tokenTransfer, bind_ok, loadToken_ok, require_ok]
    exact ⟨a, ha, b, hb, (), hle, (), hmint, (), howner, by simp [he]⟩
  · refine ⟨(l.setData src (.token { a with amount := x })).setData dst
      (.token { b with amount := y }), ?_⟩
    simp only [tokenTransfer, bind_ok, loadToken_ok, require_ok]
    refine ⟨a, ha, b, hb, (), hle, (), hmint, (), howner, ?_⟩
    simp only [he, if_false, bind_ok, okOr_ok, pure_ok]
    exact ⟨x, hx, y, hy, rfl⟩

theorem transferFromVault_ok {rt : Runtime} {l l' : Ledger}
    {vaultToken dest vaultAuthority sessionKey : Pubkey} {vaultBump : UInt8} {amount : UInt64}
    (h : transferFromVault rt l vaultToken dest vaultAuthority sessionKey vaultBump amount =
      .ok l') :
    (amount ≠ 0 → TokenRights l vaultToken dest vaultAuthority amount.toNat) ∧
      TokenSends l l' vaultToken dest amount.toNat := by
  unfold transferFromVault at h
  split at h
  · rename_i hz
    obtain rfl := pure_ok.mp h
    refine ⟨fun hne => absurd hz hne, ?_⟩
    rw [hz]
    exact TokenSends.zero l vaultToken dest
  · simp only [bind_ok, require_ok] at h
    obtain ⟨_, _, h⟩ := h
    obtain ⟨hr, hs⟩ := tokenTransfer_ok h
    exact ⟨fun _ => hr, hs⟩

theorem transferFromVault_exists {rt : Runtime} {l : Ledger}
    {vaultToken dest vaultAuthority sessionKey : Pubkey} {vaultBump : UInt8} {amount : UInt64}
    {a b : TokenAccount}
    (hsign : rt.createProgramAddress (.vault sessionKey) vaultBump = some vaultAuthority)
    (ha : (l vaultToken).data = .token a) (hb : (l dest).data = .token b) (hmint : a.mint = b.mint)
    (howner : a.owner = vaultAuthority) (hcover : amount.toNat ≤ a.amount.toNat)
    (hroom : b.amount.toNat + amount.toNat < 2 ^ 64) :
    ∃ l', transferFromVault rt l vaultToken dest vaultAuthority sessionKey vaultBump amount =
      .ok l' := by
  unfold transferFromVault
  split
  · exact ⟨l, rfl⟩
  · exact require_exists hsign (tokenTransfer_exists ha hb hmint howner hcover hroom)

/-- What a list of payouts takes out of an account. -/
def debit (x : Pubkey) (ts : List Transfer) : Nat :=
  (ts.map fun t => if x = t.source then t.amount.toNat else 0).sum

/-- What a list of payouts brings to an account. -/
def credit (x : Pubkey) (ts : List Transfer) : Nat :=
  (ts.map fun t => if x = t.dest then t.amount.toNat else 0).sum

@[simp] theorem debit_nil (x : Pubkey) : debit x [] = 0 := rfl

@[simp] theorem credit_nil (x : Pubkey) : credit x [] = 0 := rfl

@[simp] theorem debit_cons (x : Pubkey) (t : Transfer) (ts : List Transfer) :
    debit x (t :: ts) = (if x = t.source then t.amount.toNat else 0) + debit x ts := by
  simp [debit]

@[simp] theorem credit_cons (x : Pubkey) (t : Transfer) (ts : List Transfer) :
    credit x (t :: ts) = (if x = t.dest then t.amount.toNat else 0) + credit x ts := by
  simp [credit]

/-- An account that is no source of a payout is not debited. -/
theorem debit_eq_zero {x : Pubkey} {ts : List Transfer}
    (h : ∀ t ∈ ts, x = t.source → t.amount = 0) : debit x ts = 0 := by
  induction ts with
  | nil => rfl
  | cons t ts ih =>
    rw [debit_cons, ih fun u hu => h u (List.mem_cons_of_mem t hu), Nat.add_zero]
    split
    · rename_i he
      simp [h t List.mem_cons_self he]
    · rfl

theorem credit_eq_zero {x : Pubkey} {ts : List Transfer}
    (h : ∀ t ∈ ts, x = t.dest → t.amount = 0) : credit x ts = 0 := by
  induction ts with
  | nil => rfl
  | cons t ts ih =>
    rw [credit_cons, ih fun u hu => h u (List.mem_cons_of_mem t hu), Nat.add_zero]
    split
    · rename_i he
      simp [h t List.mem_cons_self he]
    · rfl

/-- The balances changed by exactly these payouts of lamports. -/
structure MovesLamports (l l' : Ledger) (ts : List Transfer) : Prop where
  data : ∀ x, (l' x).data = (l x).data
  lamports : ∀ x, (l' x).lamports.toNat + debit x ts = (l x).lamports.toNat + credit x ts

theorem MovesLamports.nil (l : Ledger) : MovesLamports l l [] :=
  ⟨fun _ => rfl, fun _ => rfl⟩

theorem MovesLamports.cons {l l₁ l₂ : Ledger} {t : Transfer} {ts : List Transfer}
    (h : Sends l l₁ t.source t.dest t.amount.toNat) (h' : MovesLamports l₁ l₂ ts) :
    MovesLamports l l₂ (t :: ts) := by
  refine ⟨fun x => (h'.data x).trans (h.data x), fun x => ?_⟩
  have h₁ := h.lamports x
  have h₂ := h'.lamports x
  simp only [debit_cons, credit_cons]
  omega

/-- The balances changed by exactly these payouts of tokens, each one allowed
by the owner of its source and made within one mint. -/
structure MovesTokens (l l' : Ledger) (authority : Pubkey) (ts : List Transfer) : Prop where
  lamports : ∀ x, (l' x).lamports = (l x).lamports
  data : ∀ x, (∀ t, (l x).data ≠ .token t) → (l' x).data = (l x).data
  token : ∀ x t, (l x).data = .token t → ∃ t', (l' x).data = .token t' ∧
    t'.mint = t.mint ∧ t'.owner = t.owner ∧
    t'.amount.toNat + debit x ts = t.amount.toNat + credit x ts
  rights : ∀ t ∈ ts, t.amount ≠ 0 → ∃ a b, (l t.source).data = .token a ∧
    (l t.dest).data = .token b ∧ a.mint = b.mint ∧ a.owner = authority

theorem MovesTokens.nil (l : Ledger) (authority : Pubkey) : MovesTokens l l authority [] :=
  ⟨fun _ => rfl, fun _ _ => rfl, fun _ t ht => ⟨t, ht, rfl, rfl, rfl⟩, by simp⟩

/-- The identity of a token account can be read back across a payout. -/
theorem TokenSends.back {l l' : Ledger} {src dst : Pubkey} {n : Nat}
    (h : TokenSends l l' src dst n) {x : Pubkey} {t' : TokenAccount}
    (ht : (l' x).data = .token t') :
    ∃ t, (l x).data = .token t ∧ t.mint = t'.mint ∧ t.owner = t'.owner := by
  by_cases hx : ∃ t, (l x).data = .token t
  · obtain ⟨t, hl⟩ := hx
    obtain ⟨t'', h'', hm, ho, _⟩ := h.token x t hl
    obtain rfl : t'' = t' := by simpa [h''] using ht
    exact ⟨t, hl, hm.symm, ho.symm⟩
  · have hd := h.data x fun t hl => hx ⟨t, hl⟩
    exact ⟨t', by rw [← hd, ht], rfl, rfl⟩

theorem MovesTokens.cons {l l₁ l₂ : Ledger} {authority : Pubkey} {t : Transfer}
    {ts : List Transfer}
    (hr : t.amount ≠ 0 → TokenRights l t.source t.dest authority t.amount.toNat)
    (h : TokenSends l l₁ t.source t.dest t.amount.toNat)
    (h' : MovesTokens l₁ l₂ authority ts) : MovesTokens l l₂ authority (t :: ts) := by
  refine ⟨fun x => (h'.lamports x).trans (h.lamports x), fun x hx => ?_, fun x a ha => ?_, ?_⟩
  · have h₁ := h.data x hx
    exact (h'.data x fun a ha => hx a (by rw [← h₁, ha])).trans h₁
  · obtain ⟨a₁, ha₁, hm₁, ho₁, he₁⟩ := h.token x a ha
    obtain ⟨a₂, ha₂, hm₂, ho₂, he₂⟩ := h'.token x a₁ ha₁
    refine ⟨a₂, ha₂, hm₂.trans hm₁, ho₂.trans ho₁, ?_⟩
    simp only [debit_cons, credit_cons]
    omega
  · intro u hu hne
    rcases List.mem_cons.mp hu with rfl | hu
    · obtain ⟨a, b, ha, hb, hm, ho, _⟩ := (hr hne).accounts
      exact ⟨a, b, ha, hb, hm, ho⟩
    · obtain ⟨a₁, b₁, ha₁, hb₁, hm₁, ho₁⟩ := h'.rights u hu hne
      obtain ⟨a, ha, hma, hoa⟩ := h.back ha₁
      obtain ⟨b, hb, hmb, _⟩ := h.back hb₁
      exact ⟨a, b, ha, hb, by rw [hma, hm₁, hmb], hoa.trans ho₁⟩

/-- `initAccount` turns an unused address into an account with `data`. -/
structure Initialised (l l' : Ledger) (payer k : Pubkey) (rent : Nat) (data : AccountData) :
    Prop where
  fresh : (l k).data = .system
  data : ∀ x, (l' x).data = if x = k then data else (l x).data
  funded : (l' k).lamports.toNat = max rent (l k).lamports.toNat
  carrier : ∀ x, x ≠ k → (l x).data ≠ .system → (l' x).lamports = (l x).lamports
  bystander : ∀ x, x ≠ k → x ≠ payer → (l' x).lamports = (l x).lamports

theorem initialised_of_sends {l l₁ : Ledger} {payer k : Pubkey} {n rent : Nat}
    {data : AccountData} (fresh : (l k).data = .system) (hpayer : (l payer).data = .system)
    (hne : payer ≠ k) (h : Sends l l₁ payer k n)
    (hrent : (l k).lamports.toNat + n = max rent (l k).lamports.toNat) :
    Initialised l (l₁.setData k data) payer k rent data := by
  have others : ∀ x, x ≠ k → x ≠ payer → ((l₁.setData k data) x).lamports = (l x).lamports := by
    intro x hx hp
    have he := h.lamports x
    simp only [hx, hp, if_false, Nat.add_zero] at he
    rw [Ledger.setData_lamports]
    exact UInt64.toNat_inj.mp he
  refine ⟨fresh, fun x => ?_, ?_, fun x hx hd => others x hx ?_, others⟩
  · rw [Ledger.setData_data, h.data]
  · have he := h.lamports k
    simp only [Ne.symm hne, if_true, if_false, Nat.add_zero] at he
    rw [Ledger.setData_lamports, he, hrent]
  · exact ne_of_absent hd hpayer

theorem initAccount_ok {rt : Runtime} {l l' : Ledger} {payer k : Pubkey} {space : Nat}
    {data : AccountData} (h : initAccount rt l payer k space data = .ok l') :
    Initialised l l' payer k (rt.minimumBalance space).toNat data := by
  have hmin := rt.minimumBalance_pos space
  simp only [initAccount, bind_ok, require_ok] at h
  obtain ⟨_, fresh, h⟩ := h
  split at h
  · rename_i hz
    have hz' : (l k).lamports.toNat = 0 := by simp [hz]
    simp only [bind_ok, pure_ok] at h
    obtain ⟨l₁, ht, rfl⟩ := h
    obtain ⟨hpayer, hs⟩ := systemTransfer_ok ht
    refine initialised_of_sends fresh hpayer ?_ hs (by omega)
    -- an empty account cannot pay its own rent
    intro he
    subst he
    simp only [systemTransfer, bind_ok, require_ok, okOr_ok, checkedSub_some] at ht
    obtain ⟨_, _, x, hx, _⟩ := ht
    omega
  · simp only [bind_ok, require_ok] at h
    obtain ⟨_, hne, h⟩ := h
    have hreq := saturatingSub_toNat (max (rt.minimumBalance space) 1) (l k).lamports
    rw [max_toNat, UInt64.toNat_one, Nat.max_eq_left hmin] at hreq
    split at h
    · rename_i hr
      obtain rfl := pure_ok.mp h
      rw [hr] at hreq
      simp only [UInt64.toNat_zero] at hreq
      refine ⟨fresh, fun x => by rw [Ledger.setData_data], ?_, fun x _ _ => by simp,
        fun x _ _ => by simp⟩
      rw [Ledger.setData_lamports]
      omega
    · simp only [bind_ok, pure_ok] at h
      obtain ⟨l₁, ht, rfl⟩ := h
      obtain ⟨hpayer, hs⟩ := systemTransfer_ok ht
      exact initialised_of_sends fresh hpayer hne hs (by omega)

end SolMesh
