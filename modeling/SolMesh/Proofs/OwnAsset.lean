import SolMesh.Proofs.Authenticity
import SolMesh.Proofs.Lifecycle

namespace SolMesh
open Outcome Runs

/-- The transfer moved the asset that session `s` holds in escrow, and moved it
to the party it was for: lamports of the session's account to that party's
address, or tokens of the session's mint to an account of them that the party
owns. -/
def inKind (rt : Runtime) (l : Ledger) (s : Session) (t : Transfer) : Bool :=
  match s.mint, (l t.source).data, (l t.dest).data with
  | none, .session _, _ => t.dest = s.payee rt.feeVault t.role
  | some m, .token a, .token b =>
    a.mint = m && b.mint = m && b.owner = s.payee rt.feeVault t.role
  | _, _, _ => false

/-- What an event paid for session `k` in one role, in the asset of the session
and to the party itself. -/
def Event.paidInKind {rt : Runtime} (k : Pubkey) (s : Session) (r : Role) (x : Event rt) : Nat :=
  received r ((Event.transfers k x).filter (inKind rt x.before s))

/-- What a history paid so. Where a session's escrow was paid in another asset this
falls short of `paidTo`. -/
def paidInKind {rt : Runtime} (k : Pubkey) (s : Session) (r : Role) (tr : History rt) : Nat :=
  total (Event.paidInKind k s r) tr

/-- A payout that has anything to release for session `k` is told to release the
asset in escrow: it is no payout in lamports from a session in tokens, and it
draws tokens on an account of the session's mint. -/
def PaysInKind {rt : Runtime} (k : Pubkey) (x : Event rt) : Prop :=
  ∀ ctx c ts s, x.label = .call ctx c ts → c.session? = some k →
    (x.before k).data = .session s → c.due s ≠ 0 →
      (c.isSolPayout = true → s.mint = none) ∧
        ∀ v, c.vaultToken? = some v → ∃ t, (x.before v).data = .token t ∧ s.mint = some t.mint

theorem inKind_lamports {rt : Runtime} {l : Ledger} {s s₀ : Session} {t : Transfer}
    (hm : s.mint = none) (hs : (l t.source).data = .session s₀) :
    inKind rt l s t = true ↔ t.dest = s.payee rt.feeVault t.role := by
  simp [inKind, hm, hs]

theorem inKind_tokens {rt : Runtime} {l : Ledger} {s : Session} {t : Transfer}
    {a b : TokenAccount} (ha : (l t.source).data = .token a) (hb : (l t.dest).data = .token b) :
    inKind rt l s t = true ↔
      s.mint = some a.mint ∧ b.mint = a.mint ∧ b.owner = s.payee rt.feeVault t.role := by
  cases hm : s.mint with
  | none => simp [inKind, hm, ha]
  | some m =>
    simp only [inKind, hm, ha, hb, Bool.and_eq_true, decide_eq_true_eq, Option.some.injEq]
    constructor
    · intro h
      obtain ⟨⟨rfl, hbm⟩, howner⟩ := h
      exact ⟨rfl, hbm, howner⟩
    · intro h
      obtain ⟨rfl, hbm, howner⟩ := h
      exact ⟨⟨rfl, hbm⟩, howner⟩

theorem received_filter_le (p : Transfer → Bool) (r : Role) (ts : List Transfer) :
    received r (ts.filter p) ≤ received r ts := by
  induction ts with
  | nil => simp
  | cons t ts ih =>
    cases hp : p t with
    | true =>
      rw [List.filter_cons_of_pos hp, received_cons, received_cons]
      omega
    | false =>
      rw [List.filter_cons_of_neg (by simp [hp]), received_cons]
      omega

/-- A filter that takes nothing from anybody lets every payment pass. -/
theorem received_filter_eq_iff {p : Transfer → Bool} {ts : List Transfer} :
    (∀ r, received r (ts.filter p) = received r ts) ↔
      ∀ t ∈ ts, t.amount ≠ 0 → p t = true := by
  induction ts with
  | nil => simp
  | cons t ts ih =>
    rw [List.forall_mem_cons, ← ih]
    cases hp : p t with
    | true =>
      simp only [List.filter_cons_of_pos hp, received_cons]
      exact ⟨fun h => ⟨fun _ => trivial, fun r => by have := h r; omega⟩, fun h r => by rw [h.2 r]⟩
    | false =>
      have hle := fun r => received_filter_le p r ts
      rw [List.filter_cons_of_neg (by simp [hp])]
      constructor
      · intro h
        have hrole := h t.role
        have hrest := hle t.role
        rw [received_cons, if_pos rfl] at hrole
        have hzero : t.amount = 0 := UInt64.toNat_inj.mp (by rw [UInt64.toNat_zero]; omega)
        refine ⟨fun hne => absurd hzero hne, fun r => ?_⟩
        rw [h r, received_cons, hzero]
        simp
      · intro h r
        have hzero : t.amount = 0 := by
          by_contra hne
          exact Bool.false_ne_true (h.1 hne)
        rw [received_cons, hzero, h.2 r]
        simp

/-- A payout that releases anything pays somebody. -/
theorem exists_payment {ts : List Transfer} (h : earnings ts + received .consumer ts ≠ 0) :
    ∃ t ∈ ts, t.amount ≠ 0 := by
  by_contra hno
  push Not at hno
  have hnone := received_filter_eq_iff.mpr
    (fun t ht hne => absurd (hno t ht) hne : ∀ t ∈ ts, t.amount ≠ 0 → (fun _ => false) t = true)
  simp only [List.filter_false, received_nil] at hnone
  rw [earnings, ← hnone .provider, ← hnone .fee, ← hnone .consumer] at h
  exact h rfl

section
variable {rt : Runtime} {ctx : TxContext} {c : Call rt} {l l' : Ledger} {ts : List Transfer}
  {k : Pubkey} {s s₀ s' : Session} {mv : SessionMove}

/-- What a payout in lamports pays is in kind just where the session is in lamports. -/
theorem PaysLamports.inKind_iff (h : PaysLamports rt l l' k s₀ ts) (hi : Inv rt l)
    (hs : (l k).data = .session s₀) (terms : s₀.SameTerms s) {t : Transfer} (ht : t ∈ ts) :
    inKind rt l s t = true ↔ s.mint = none := by
  obtain ⟨cfg, hcfg, hdest⟩ := h.dest
  obtain ⟨_, hfee⟩ := hcfg.feeVault hi
  have hsource : (l t.source).data = .session s₀ := by rw [(h.source t ht).2, hs]
  cases hm : s.mint with
  | none =>
    rw [inKind_lamports hm hsource, hdest t ht, terms.payee, Runtime.feeVault_of_find hfee]
    simp
  | some m => simp [inKind, hm, hsource]

/-- What a payout in tokens pays is in kind just where it draws on an account of
the session's mint. -/
theorem PaysTokens.inKind_iff {v : Pubkey} (h : PaysTokens rt l l' k s₀ v ts) (hi : Inv rt l)
    (terms : s₀.SameTerms s) {t : Transfer} (ht : t ∈ ts) (hne : t.amount ≠ 0) :
    inKind rt l s t = true ↔ ∃ a, (l v).data = .token a ∧ s.mint = some a.mint := by
  obtain ⟨cfg, hcfg, hdest⟩ := h.dest
  obtain ⟨_, hfee⟩ := hcfg.feeVault hi
  obtain ⟨a, b, ha, hb, hab, _⟩ := h.rights t ht hne
  obtain ⟨b', hb', howner⟩ := hdest t ht
  obtain rfl : b = b' := by simpa [hb] using hb'
  rw [inKind_tokens ha hb, ← (h.source t ht).2, ha]
  rw [← Runtime.feeVault_of_find hfee, ← terms.payee] at howner
  simp [hab, howner]

/-- A payout pays its parties in kind if and only if it was told to. -/
theorem SessionCall.inKind_iff (h : SessionCall rt ctx c l l' ts k s₀ s' mv) (hi : Inv rt l)
    (terms : s₀.SameTerms s) :
    (∀ t ∈ ts, t.amount ≠ 0 → inKind rt l s t = true) ↔
      (c.due s₀ ≠ 0 → (c.isSolPayout = true → s₀.mint = none) ∧
        ∀ v, c.vaultToken? = some v → ∃ a, (l v).data = .token a ∧ s₀.mint = some a.mint) := by
  have hs := h.recorded.before
  have hdue := h.due
  rw [← terms.mint]
  have released : c.due s₀ ≠ 0 → ∃ t ∈ ts, t.amount ≠ 0 := fun hne => exists_payment (hdue ▸ hne)
  have some_due : ∀ t ∈ ts, t.amount ≠ 0 → c.due s₀ ≠ 0 := by
    intro t ht hne hz
    have h₁ := amount_le_debit ht
    have h₂ := debit_le t.source ts
    exact hne (UInt64.toNat_inj.mp (by rw [UInt64.toNat_zero]; omega))
  cases hv : c.vaultToken? with
  | some v =>
    obtain ⟨_, hp⟩ := h.inTokens v hv
    have notSol : ¬ c.isSolPayout = true := by
      intro hsol
      simp [Call.vaultToken_of_sol hsol] at hv
    constructor
    · intro hkind hne
      obtain ⟨t, ht, hamount⟩ := released hne
      refine ⟨fun hsol => absurd hsol notSol, fun w hw => ?_⟩
      obtain rfl : v = w := Option.some.inj hw
      exact (hp.inKind_iff hi terms ht hamount).mp (hkind t ht hamount)
    · intro hpays t ht hamount
      exact (hp.inKind_iff hi terms ht hamount).mpr
        ((hpays (some_due t ht hamount)).2 v rfl)
  | none =>
    obtain ⟨hmint, hp⟩ := h.inLamports hv
    rw [MintChecked, ← terms.mint] at hmint
    constructor
    · intro hkind hne
      obtain ⟨t, ht, hamount⟩ := released hne
      exact ⟨fun _ => (hp.inKind_iff hi hs terms ht).mp (hkind t ht hamount), by simp⟩
    · intro hpays t ht hamount
      refine (hp.inKind_iff hi hs terms ht).mpr ?_
      rcases hmint with hnone | ⟨_, hts⟩ | ⟨hignores, _⟩
      · exact hnone
      · simp [hts] at ht
      · exact (hpays (some_due t ht hamount)).1 (Call.solPayout_of_ignoresMint hignores)

/-- In the life of a session an event pays in kind if and only if it was told to. -/
theorem paidInKind_iff {start : Ledger} {tr : History rt} (genesis : Genesis start)
    (run : Run (Step rt) start tr l) (hs : (l k).data = .session s) :
    ∀ x ∈ life k tr, (∀ r, x.paidInKind k s r = received r (Event.transfers k x)) ↔
      PaysInKind k x := by
  intro x hx
  obtain ⟨s₁, s₂, event, terms⟩ := (run_lived genesis run k s hs).events x hx
  obtain ⟨pre, _, _, hpre, hstep, _⟩ := run.split (mem_life hx)
  have hi := run_inv genesis hpre
  obtain ⟨l₁, label, l₂⟩ := x
  have hbefore : (l₁ k).data = .session s₁ := event.before
  simp only [Event.paidInKind]
  cases hstep.session_event k with
  | opening s₃ _ ht hopened =>
    exact absurd (hbefore.symm.trans (Opened.of_either hopened).fresh) (by simp)
  | bystander hb _ ht _ =>
    rw [ht]
    refine iff_of_true (fun r => rfl) fun ctx c ts s₃ hl hk => ?_
    cases hl
    exact absurd hk hb
  | call ctx c ts s₃ s₄ mv hl hk _ ht _ hc =>
    obtain rfl : s₁ = s₃ := by simpa [hbefore] using hc.recorded.before
    rw [ht, received_filter_eq_iff, hc.inKind_iff hi (event.advances.terms.trans terms)]
    constructor
    · intro told ctx' c' ts' s₅ hl' _ hs₅
      rw [hl] at hl'
      cases hl'
      obtain rfl : s₁ = s₅ := by simpa [hbefore] using hs₅
      exact told
    · intro told
      exact told ctx c ts s₁ hl hk hbefore

end

/-- A session whose books say what it paid has paid it in kind if and only if
every event of its life was told to. -/
theorem paidInKind_eq_iff {rt : Runtime} {start l : Ledger} {tr : History rt} {k : Pubkey}
    {s : Session} (genesis : Genesis start) (run : Run (Step rt) start tr l)
    (hs : (l k).data = .session s) :
    (∀ r, paidInKind k s r (life k tr) = paidTo k r (life k tr)) ↔
      ∀ x ∈ life k tr, PaysInKind k x := by
  have hle : ∀ r, ∀ x ∈ life k tr, x.paidInKind k s r ≤ received r (Event.transfers k x) :=
    fun r x _ => received_filter_le _ r _
  simp only [paidInKind, paidTo, total_eq_total_iff (hle _)]
  constructor
  · intro h x hx
    exact (paidInKind_iff genesis run hs x hx).mp fun r => h r x hx
  · intro h r x hx
    exact (paidInKind_iff genesis run hs x hx).mpr (h x hx) r

/-- No more is paid in kind than is paid. -/
theorem paidInKind_le {rt : Runtime} (k : Pubkey) (s : Session) (r : Role) (tr : History rt) :
    paidInKind k s r tr ≤ paidTo k r tr :=
  total_le_total fun _ _ => received_filter_le _ r _

end SolMesh
