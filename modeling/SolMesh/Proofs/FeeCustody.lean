import SolMesh.Proofs.BoundedSupply
import SolMesh.Proofs.Conservation
import SolMesh.Proofs.Governance

namespace SolMesh
open Outcome Words Runs

namespace Event

variable {rt : Runtime} (x : Event rt)

/-- The fees the event took in lamports. -/
def feesIn : Nat :=
  match x.label with
  | .call _ c ts => if c.isSolPayout then received .fee ts else 0
  | .external | .commit => 0

/-- The tokens the event paid into an account. -/
def tokensIn (y : Pubkey) : Nat :=
  match x.label with
  | .call _ c ts => if c.isSplPayout then credit y ts else 0
  | .external | .commit => 0

/-- The lamports the event let out of the fee vault. -/
def feesOut : Nat :=
  match x.label with
  | .call _ (.withdrawFees _ amount) _ => amount.toNat
  | _ => 0

end Event

theorem Sends.spares {l l' : Ledger} {src dst x : Pubkey} {n : Nat} (h : Sends l l' src dst n)
    (hx : x ≠ src) : (l x).lamports.toNat ≤ (l' x).lamports.toNat := by
  have he := h.lamports x
  rw [if_neg hx] at he
  omega

theorem Initialised.spares {l l' : Ledger} {payer k x : Pubkey} {rent : Nat} {data : AccountData}
    (h : Initialised l l' payer k rent data) (hx : x ≠ payer) :
    (l x).lamports.toNat ≤ (l' x).lamports.toNat := by
  by_cases hk : x = k
  · rw [hk, h.funded]
    omega
  · rw [h.bystander x hk hx]

theorem Signer.ne_pda {rt : Runtime} (s : Signer rt) {x : Pubkey} (hx : rt.IsPda x) :
    x ≠ s.key := by
  intro he
  subst he
  exact s.property hx

section
variable {rt : Runtime} {ctx : TxContext} {l l' : Ledger} {ts : List Transfer} {x : Pubkey}

theorem initializeConfigHandler_spares {a : InitializeConfig rt} {feeBps : UInt16}
    {window : Int64} {mplCore : Pubkey} (hx : rt.IsPda x)
    (h : initializeConfigHandler rt l a feeBps window mplCore = .ok (l', ts)) :
    (l x).lamports.toNat ≤ (l' x).lamports.toNat := by
  simp only [initializeConfigHandler, bind_ok, pure_ok, Prod.mk.injEq, exitAccount_writable] at h
  obtain ⟨_, _, l₁, h₁, _, _, _, _, _, _, rfl, rfl⟩ := h
  rw [Ledger.setData_lamports]
  exact (initAccount_ok h₁).spares (a.authority.ne_pda hx)

theorem registerNodeHandler_spares {a : RegisterNode rt} {name uri geo : String}
    {capacity : UInt64} {initReputation : UInt32} (hx : rt.IsPda x)
    (h : registerNodeHandler rt l a name uri capacity geo initReputation = .ok (l', ts)) :
    (l x).lamports.toNat ≤ (l' x).lamports.toNat := by
  simp only [registerNodeHandler, createNodeAsset, bind_ok, pure_ok, Prod.mk.injEq,
    exitAccount_writable] at h
  obtain ⟨_, _, _, _, _, _, l₁, h₁, _, _, _, _, _, _, _, _, _, ⟨_, _, l₂, h₂, rfl⟩, rfl, rfl⟩ := h
  have init := (initAccount_ok h₁).spares (a.provider.ne_pda hx)
  have sent := (systemTransfer_ok h₂).2.spares (a.provider.ne_pda hx)
  rw [Ledger.setData_lamports, Ledger.setData_lamports]
  omega

theorem openSessionHandler_spares {a : OpenSession rt} {sessionSeed amount : UInt64}
    {durationSecs : Int64} {ratePerUnit : UInt64} (hx : rt.IsPda x)
    (h : openSessionHandler rt ctx l a sessionSeed amount durationSecs ratePerUnit =
      .ok (l', ts)) : (l x).lamports.toNat ≤ (l' x).lamports.toNat := by
  simp only [openSessionHandler, bind_ok, pure_ok, Prod.mk.injEq, exitAccount_readonly,
    exitAccount_writable] at h
  obtain ⟨_, _, _, _, _, _, _, _, _, _, _, _, l₁, h₁, _, _, _, _, _, _, l₂, h₂, _, _, _, _, rfl,
    rfl⟩ := h
  have init := (initAccount_ok h₁).spares (a.consumer.ne_pda hx)
  have sent := (systemTransfer_ok h₂).2.spares (a.consumer.ne_pda hx)
  rw [Ledger.setData_lamports]
  omega

theorem openSessionSplHandler_spares {a : OpenSessionSpl rt} {sessionSeed amount : UInt64}
    {durationSecs : Int64} {ratePerUnit : UInt64} (hx : rt.IsPda x)
    (h : openSessionSplHandler rt ctx l a sessionSeed amount durationSecs ratePerUnit =
      .ok (l', ts)) : (l x).lamports.toNat ≤ (l' x).lamports.toNat := by
  simp only [openSessionSplHandler, initAssociatedToken_ok, bind_ok, pure_ok, Prod.mk.injEq,
    exitAccount_readonly, exitAccount_writable] at h
  obtain ⟨_, _, _, _, _, _, _, _, _, _, _, _, l₁, h₁, _, _, _, _, _, _, _, _, _, _, l₂, ⟨_, h₂⟩,
    _, _, _, _, _, _, l₃, h₃, _, _, _, _, rfl, rfl⟩ := h
  have session := (initAccount_ok h₁).spares (a.consumer.ne_pda hx)
  have vault := (initAccount_ok h₂).spares (a.consumer.ne_pda hx)
  rw [Ledger.setData_lamports, (tokenTransfer_ok h₃).2.lamports]
  omega

/-- Setting up and administering takes lamports from signers only. -/
theorem Call.spares {c : Call rt} (hx : rt.IsPda x) (h : c.exec ctx l = .ok (l', ts))
    (hk : c.session? = none ∨ c.opens = true) (hw : ∀ a n, c ≠ .withdrawFees a n) :
    (l x).lamports.toNat ≤ (l' x).lamports.toNat := by
  cases c with
  | initializeConfig a f w m => exact initializeConfigHandler_spares hx h
  | registerNode a n u cap g r => exact registerNodeHandler_spares hx h
  | openSession a seed n d r => exact openSessionHandler_spares hx h
  | openSessionSpl a seed n d r => exact openSessionSplHandler_spares hx h
  | updateConfig a f w =>
    simp only [Call.exec, updateConfigHandler, bind_ok, pure_ok, Prod.mk.injEq,
      exitAccount_writable] at h
    obtain ⟨_, _, _, _, _, _, rfl, rfl⟩ := h
    rw [Ledger.setData_lamports]
  | setPaused a p =>
    simp only [Call.exec, setPausedHandler, bind_ok, pure_ok, Prod.mk.injEq,
      exitAccount_writable] at h
    obtain ⟨_, _, rfl, rfl⟩ := h
    rw [Ledger.setData_lamports]
  | updateNodeMeta a cap g b =>
    obtain ⟨_, _, _, _, _, _, _, _, rfl⟩ := updateNodeMetaHandler_ok h
    rw [Ledger.setData_lamports, Ledger.setData_lamports]
  | withdrawFees a n => exact absurd rfl (hw a n)
  | _ => rcases hk with hk | hk <;> cases hk

end

theorem fee_le_credit {v : Pubkey} {ts : List Transfer}
    (h : ∀ t ∈ ts, t.role = .fee → t.dest = v) : received .fee ts ≤ credit v ts := by
  induction ts with
  | nil => simp
  | cons t ts ih =>
    have hrest := ih fun u hu => h u (List.mem_cons_of_mem t hu)
    have ht := h t List.mem_cons_self
    rw [received_cons, credit_cons]
    split
    · rename_i hf
      rw [if_pos (ht hf).symm]
      omega
    · omega

section
variable {rt : Runtime} {l l' : Ledger} {label : Label rt} {v y : Pubkey} {b : UInt8}

/-- A payout in lamports leaves the fee in the vault, and no payout takes any
lamports from it. -/
theorem SessionCall.fees_kept {ctx : TxContext} {c : Call rt} {ts : List Transfer} {k : Pubkey}
    {s s' : Session} {mv : SessionMove} (hi : Inv rt l) (vault : rt.find .feeVault = some (v, b))
    (h : SessionCall rt ctx c l l' ts k s s' mv) :
    (l v).lamports.toNat + (if c.isSolPayout then received .fee ts else 0) ≤
      (l' v).lamports.toNat := by
  have hs := h.recorded.before
  have hvk : k ≠ v := rt.session_ne_feeVault (hi.session k s hs).address vault
  cases hv : c.vaultToken? with
  | none =>
    obtain ⟨_, hp⟩ := h.inLamports hv
    have hbal := hp.lamports v
    have hdebit : debit v ts = 0 :=
      debit_eq_zero fun t ht he => absurd ((he.trans (hp.source t ht).2).symm) hvk
    have hcredit : received .fee ts ≤ credit v ts := by
      refine fee_le_credit fun t ht hf => ?_
      rw [(hp.dest_ne hi hs t ht).1, hf]
      exact Runtime.feeVault_of_find vault
    split <;> omega
  | some w =>
    obtain ⟨_, hp⟩ := h.inTokens w hv
    have hsol : c.isSolPayout = false := by
      by_contra hne
      rw [Call.vaultToken_of_sol (by simpa using hne)] at hv
      cases hv
    rw [hp.lamports, hsol]
    simp

theorem Call.not_payout_of_setup {c : Call rt} (h : c.session? = none ∨ c.opens = true) :
    c.isSolPayout = false ∧ c.isSplPayout = false := by
  rcases h with h | h
  · cases c <;> simp_all [Call.session?, Call.isSolPayout, Call.isSplPayout]
  · exact Call.not_payout_of_opens h

theorem withdrawFeesHandler_takes {a : WithdrawFees rt} {amount : UInt64} {ts : List Transfer}
    (h : withdrawFeesHandler rt l a amount = .ok (l', ts)) (x : Pubkey) :
    (l x).lamports.toNat ≤ (l' x).lamports.toNat + amount.toNat := by
  simp only [withdrawFeesHandler, bind_ok, pure_ok, Prod.mk.injEq] at h
  obtain ⟨_, _, _, _, _, _, _, _, _, _, l₁, h₁, rfl, rfl⟩ := h
  have he := (systemTransfer_ok h₁).2.lamports x
  split at he <;> omega

/-- Only a withdrawal takes lamports from the fee vault, as far as the other
programs leave it alone. -/
theorem Step.fees_kept (hi : Inv rt l) (h : Step rt l label l')
    (vault : rt.find .feeVault = some (v, b))
    (untouched : label = .external → (l v).lamports ≤ (l' v).lamports) :
    (l v).lamports.toNat + Event.feesIn ⟨l, label, l'⟩ ≤
      (l' v).lamports.toNat + Event.feesOut ⟨l, label, l'⟩ := by
  have hv := Runtime.isPda_of_find vault
  cases h with
  | external respects =>
    have := UInt64.le_iff_toNat_le.mp (untouched rfl)
    simpa [Event.feesIn, Event.feesOut] using this
  | commit =>
    simp only [Event.feesIn, Event.feesOut, Ledger.purge, Nat.add_zero]
    split
    · rename_i hz
      simp [hz]
    · exact Nat.le_refl _
  | @call ctx c _ _ ts hp ok =>
    by_cases hset : c.session? = none ∨ c.opens = true
    · have hin : Event.feesIn ⟨l, .call ctx c ts, l'⟩ = 0 := by
        simp [Event.feesIn, Call.not_payout_of_setup hset]
      rw [hin, Nat.add_zero]
      by_cases hw : ∃ a n, c = .withdrawFees a n
      · obtain ⟨a, n, rfl⟩ := hw
        exact withdrawFeesHandler_takes ok v
      · have spared := Call.spares hv ok hset fun a n he => hw ⟨a, n, he⟩
        omega
    · simp only [not_or, Bool.not_eq_true] at hset
      obtain ⟨k, hk⟩ := Option.ne_none_iff_exists'.mp hset.1
      obtain ⟨s, s', mv, hc⟩ := Call.session_call hp ok hk hset.2
      have kept := hc.fees_kept hi vault
      simp only [Event.feesIn]
      omega

/-- A payout in tokens takes none from an account of the fee vault. -/
theorem SessionCall.tokens_kept {ctx : TxContext} {c : Call rt} {ts : List Transfer} {k w : Pubkey}
    {s s' : Session} {mv : SessionMove} {t t' : TokenAccount}
    (h : SessionCall rt ctx c l l' ts k s s' mv) (hw : c.vaultToken? = some w)
    (vault : rt.find .feeVault = some (v, b)) (ht : (l y).data = .token t) (owner : t.owner = v)
    (ht' : (l' y).data = .token t') : t.amount.toNat + credit y ts = t'.amount.toNat := by
  obtain ⟨_, hp⟩ := h.inTokens w hw
  obtain ⟨t₁, ht₁, _, _, hbal⟩ := hp.tokens y t ht
  obtain rfl : t₁ = t' := by simpa [ht'] using ht₁.symm
  have hdebit := hp.others ht fun b' he => rt.vault_ne_feeVault he vault owner
  omega

/-- A token account of the fee vault keeps what it holds, and what it is paid. -/
theorem Step.tokens_kept (h : Step rt l label l') (vault : rt.find .feeVault = some (v, b))
    {t : TokenAccount} (ht : (l y).data = .token t) (owner : t.owner = v)
    (funded : 0 < (l y).lamports.toNat) :
    0 < (l' y).lamports.toNat ∧ ∃ t', (l' y).data = .token t' ∧ t'.mint = t.mint ∧
      t'.owner = v ∧ t.amount.toNat + Event.tokensIn ⟨l, label, l'⟩ y ≤ t'.amount.toNat := by
  have hpda : rt.IsPda t.owner := owner ▸ Runtime.isPda_of_find vault
  obtain ⟨t', ht', hm, ho, hl, ha⟩ := (h.frame.token y t ht hpda).resolve_left
    fun gone => absurd gone.1 (by omega)
  have grows := ha fun k s b' _ _ he => rt.vault_ne_feeVault he vault owner
  refine ⟨by omega, t', ht', hm, ho.trans owner, ?_⟩
  cases h with
  | external | commit => exact grows
  | @call ctx c _ _ ts hp ok =>
    simp only [Event.tokensIn]
    split
    · rename_i hspl
      obtain ⟨w, hw⟩ := Call.vaultToken_of_spl hspl
      have hset : ¬ (c.session? = none ∨ c.opens = true) := fun hset => by
        simp [(Call.not_payout_of_setup hset).2] at hspl
      simp only [not_or, Bool.not_eq_true] at hset
      obtain ⟨k, hk⟩ := Option.ne_none_iff_exists'.mp hset.1
      obtain ⟨s, s', mv, hc⟩ := Call.session_call hp ok hk hset.2
      exact (hc.tokens_kept hw vault ht owner ht').le
    · exact grows

end

section
variable {rt : Runtime} {l l' : Ledger} {tr : History rt} {v y : Pubkey} {b : UInt8}

theorem run_fees_kept (hi : Inv rt l) (run : Run (Step rt) l tr l')
    (vault : rt.find .feeVault = some (v, b))
    (untouched : ∀ x ∈ tr, x.label = .external → (x.before v).lamports ≤ (x.after v).lamports) :
    (l v).lamports.toNat + total Event.feesIn tr ≤
      (l' v).lamports.toNat + total Event.feesOut tr := by
  induction run with
  | nil => simp
  | snoc run last ih =>
    have hprev := ih fun x hx => untouched x (List.mem_append_left _ hx)
    have hlast := last.fees_kept (run.invariant hi Step.inv) vault
      (untouched ⟨_, _, _⟩ (List.mem_append_right _ List.mem_cons_self))
    rw [total_snoc, total_snoc]
    omega

theorem run_tokens_kept (run : Run (Step rt) l tr l') (vault : rt.find .feeVault = some (v, b))
    {t : TokenAccount} (ht : (l y).data = .token t) (owner : t.owner = v)
    (funded : 0 < (l y).lamports.toNat) :
    0 < (l' y).lamports.toNat ∧ ∃ t', (l' y).data = .token t' ∧ t'.mint = t.mint ∧
      t'.owner = v ∧ t.amount.toNat + total (Event.tokensIn · y) tr ≤ t'.amount.toNat := by
  induction run with
  | nil => exact ⟨funded, t, ht, rfl, owner, by simp⟩
  | snoc run last ih =>
    obtain ⟨hpos, t₁, ht₁, hm₁, ho₁, ha₁⟩ := ih
    obtain ⟨hpos', t₂, ht₂, hm₂, ho₂, ha₂⟩ := last.tokens_kept vault ht₁ ho₁ hpos
    refine ⟨hpos', t₂, ht₂, hm₂.trans hm₁, ho₂, ?_⟩
    rw [total_snoc]
    omega

theorem withdrawFeesHandler_signed {a : WithdrawFees rt} {amount : UInt64} {ts : List Transfer}
    (h : withdrawFeesHandler rt l a amount = .ok (l', ts)) :
    ∃ c, (l a.config).data = .config c ∧ c.authority = a.authority.key := by
  simp only [withdrawFeesHandler, bind_ok, loadConfig_ok, require_ok] at h
  obtain ⟨c, hc, _, signed, _⟩ := h
  exact ⟨c, hc, signed⟩

/-- Who withdrew fees still is the authority. -/
theorem run_withdrawals (hi : Inv rt l) (run : Run (Step rt) l tr l') {x : Event rt}
    (hx : x ∈ tr) {ctx : TxContext} {a : WithdrawFees rt} {amount : UInt64} {ts : List Transfer}
    (label : x.label = .call ctx (.withdrawFees a amount) ts) :
    ∃ c, (l' a.config).data = .config c ∧ c.authority = a.authority.key := by
  obtain ⟨pre, post, _, before, hstep, after⟩ := run.split hx
  have hix := before.invariant hi Step.inv
  have onwards := (Run.single hstep).append after
  rw [label] at hstep
  cases hstep with
  | call hp ok =>
    obtain ⟨c, hc, signed⟩ := withdrawFeesHandler_signed ok
    obtain ⟨c', hc', kept⟩ := run_authority hix onwards hc
    exact ⟨c', hc', kept.trans signed⟩

/-- Fees are in safe custody from any reachable state on. Every fee taken in
lamports is in the fee vault unless a withdrawal took it out, and only the one
authority can withdraw. Fees taken in tokens stay for good: no instruction pays
out of a token account of the fee vault. -/
theorem fees_in_custody (reached : Reachable rt l) (run : Run (Step rt) l tr l')
    (vault : rt.find .feeVault = some (v, b))
    (untouched : ∀ x ∈ tr, x.label = .external → (x.before v).lamports ≤ (x.after v).lamports) :
    (l v).lamports.toNat + total Event.feesIn tr ≤
        (l' v).lamports.toNat + total Event.feesOut tr ∧
      (∀ x ∈ tr, ∀ ctx a amount ts, x.label = .call ctx (.withdrawFees a amount) ts →
        ∃ c, (l' a.config).data = .config c ∧ c.authority = a.authority.key) ∧
      ∀ y t, (l y).data = .token t → t.owner = v → 0 < (l y).lamports.toNat →
        ∃ t', (l' y).data = .token t' ∧ t'.mint = t.mint ∧ t'.owner = v ∧
          t.amount.toNat + total (Event.tokensIn · y) tr ≤ t'.amount.toNat := by
  obtain ⟨start, past, genesis, arrival⟩ := reached
  have hi := run_inv genesis arrival
  refine ⟨run_fees_kept hi run vault untouched,
    fun x hx ctx a amount ts hl => run_withdrawals hi run hx hl,
    fun y t ht owner funded => ?_⟩
  exact (run_tokens_kept run vault ht owner funded).2

end

section
open Localnet Transaction

/-- A session in lamports and one in tokens are settled, and the authority
withdraws a part of the fees. -/
def collected : Ledger × History Localnet.rt :=
  submit Localnet.start (deploy ++ [openSol 7 1000000, openSpl 8 1000000,
    cosigned 1 (update 7 1 400000 2500)
      (.settleSession (settleAccounts 7) (update 7 1 400000 2500)),
    cosigned 1 (update 8 1 600000 2500)
      (.settleSessionSpl ⟨payoutAccounts 8, ixSysvarId⟩ (update 8 1 600000 2500)),
    submitted 2 (.withdrawFees ⟨config, feeVault, authority, 1⟩ 1500)])

theorem fees_in_custody_collected : 2000 ≤ (collected.1 feeVault).lamports.toNat + 1500 ∧
    ∃ t, (collected.1 feeToken).data = .token t ∧ t.owner = feeVault ∧ 3000 ≤ t.amount.toNat := by
  have run : Run (Step Localnet.rt) Localnet.start collected.2 collected.1 := submit_run _ _
  have alone : collected.2.all (fun x => !x.label.isExternal) = true := by decide +kernel
  have totals : total Event.feesIn collected.2 = 2000 ∧
      total (Event.tokensIn · feeToken) collected.2 = 3000 ∧
      total Event.feesOut collected.2 = 1500 := by decide +kernel
  have vault : Localnet.rt.find .feeVault = some (feeVault, 255) := find_eq .feeVault
  obtain ⟨hlamports, _, htokens⟩ := fees_in_custody ⟨_, [], start_genesis, .nil _⟩ run vault
    fun x hx he => by
      have hno := List.all_eq_true.mp alone x hx
      simp [he, Label.isExternal] at hno
  obtain ⟨t, ht, _, howner, hamount⟩ := htokens feeToken ⟨mint, feeVault, 0⟩ (by decide) rfl
    (by decide)
  rw [totals.1, totals.2.2] at hlamports
  rw [totals.2.1] at hamount
  exact ⟨by omega, t, ht, howner, by omega⟩

end

end SolMesh
