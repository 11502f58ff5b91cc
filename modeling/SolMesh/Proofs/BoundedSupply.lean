import SolMesh.Proofs.DisputeExit
import SolMesh.Proofs.ExitAvailability
import SolMesh.Proofs.TotalSupply

namespace SolMesh
open Holdings Outcome Runs Words

/-- What has lamports when its transaction ends loses none of them. -/
theorem Ledger.purge_allLamports (l : Ledger) : l.purge.allLamports = l.allLamports := by
  refine congrArg worth (funext fun x => ?_)
  by_cases hz : (l x).lamports = 0 <;> simp [Ledger.purge, hz]

/-- Everybody else moves lamports without making any: the runtime compares the
sums before and after every instruction. -/
def OthersBalance {rt : Runtime} (tr : History rt) : Prop :=
  ∀ x ∈ tr, x.label = .external → x.after.allLamports = x.before.allLamports

theorem run_allLamports {rt : Runtime} {start l : Ledger} {tr : History rt}
    (run : Run (Step rt) start tr l) (others : OthersBalance tr) :
    l.allLamports = start.allLamports := by
  induction run with
  | nil => rfl
  | @snoc l l' tr label run last ih =>
    have before := ih fun x hx => others x (List.mem_append_left _ hx)
    have step := others ⟨l, label, l'⟩ (by simp)
    cases last with
    | external => exact (step rfl).trans before
    | commit => exact (Ledger.purge_allLamports l).trans before
    | call _ ok => exact (Call.conserves ok).lamports.trans before

section
variable {rt : Runtime} {l : Ledger} {k m : Pubkey} {s : Session} {cfg : Config}

/-- Who is paid has room for what another account holds. -/
theorem Ledger.room_of_allLamports (total : l.allLamports < 2 ^ 64) {x y : Pubkey} (h : x ≠ y)
    {n : Nat} (hn : n ≤ (l y).lamports.toNat) : (l x).lamports.toNat + n < 2 ^ 64 := by
  have hpair : (l x).lamports.toNat + (l y).lamports.toNat ≤ l.allLamports :=
    pair_le_worth (fun k => (l k).lamports.toNat) h
  omega

/-- The parties of a live session in lamports have room for its escrow. -/
theorem Inv.payees_room (hi : Inv rt l) (total : l.allLamports < 2 ^ 64)
    (hs : (l k).data = .session s) (alive : s.status.terminal = false) (hm : s.mint = none)
    {x : Pubkey} (hc : (l x).data = .config cfg) (r : Role) :
    (l (s.payee cfg.feeVault r)).lamports.toNat + s.unsettled < 2 ^ 64 := by
  have cover := ((hi.session k s hs).escrow alive).lamports hm
  exact l.room_of_allLamports total (hi.payee_ne_session hs hc r) (by omega)

/-- Nor can a token account of a live session's mint overflow, unless it is the
vault itself. -/
theorem Inv.tokens_room (hi : Inv rt l) (total : l.supply m < 2 ^ 64)
    (hs : (l k).data = .session s) (alive : s.status.terminal = false) (hm : s.mint = some m)
    {x : Pubkey} (hx : x ≠ rt.vaultAta k m) {t : TokenAccount} (ht : (l x).data = .token t)
    (htm : t.mint = m) : TakesTokens l x m s.unsettled := by
  obtain ⟨_, v, hv, hvm, _, cover⟩ := ((hi.session k s hs).escrow alive).vault m hm
  have hpair : (l x).data.holding m + (l (rt.vaultAta k m)).data.holding m ≤ l.supply m :=
    pair_le_worth (fun k => (l k).data.holding m) hx
  rw [ht, hv, AccountData.holding, AccountData.holding, if_pos htm, if_pos hvm] at hpair
  exact ⟨t, ht, htm, by omega⟩

end

/-- A token account of the mint that one of the parties owns. -/
def PaysInto (l : Ledger) (m : Pubkey) (x owner : Pubkey) : Prop :=
  ∃ t, (l x).data = .token t ∧ t.mint = m ∧ t.owner = owner

/-- The vault belongs to a derived address, and who is paid is somebody else. -/
theorem Inv.payee_account_ne_vault {rt : Runtime} {l : Ledger} {k m x c : Pubkey} {s : Session}
    {cfg : Config} (hi : Inv rt l) (hs : (l k).data = .session s)
    (alive : s.status.terminal = false) (hm : s.mint = some m) (hc : (l c).data = .config cfg)
    {r : Role} (hx : PaysInto l m x (s.payee cfg.feeVault r)) : x ≠ rt.vaultAta k m := by
  intro he
  have escrow := (hi.session k s hs).escrow alive
  obtain ⟨_, v, hv, _, hvo, _⟩ := escrow.vault m hm
  obtain ⟨t, ht, _, hto⟩ := hx
  rw [he, hv, AccountData.token.injEq] at ht
  subst ht
  exact hi.payee_ne_vault hs hc (escrow.authority m hm) r (hto.symm.trans hvo)

section
variable {rt : Runtime} {l : Ledger} {k m x : Pubkey} {s : Session} {cfg : Config}
  {ctx : TxContext}

theorem IsOpen.expire_bounded (h : IsOpen rt l k s) (total : l.allLamports < 2 ^ 64)
    (hm : s.mint = none) (hc : (l x).data = .config cfg) (late : s.expiry < ctx.unixTimestamp)
    (cranker : Signer rt) :
    ∃ l' ts, expireHandler rt ctx l ⟨x, k, s.consumer, cranker⟩ = .ok (l', ts) ∧
      RefundedLamports l l' k s .expired s.unsettled := by
  have alive : s.status.terminal = false := by simp [h.status, SessionStatus.terminal]
  have room := h.inv.payees_room total h.data alive hm hc .consumer
  exact (h.expire hm ctx ⟨⟨cfg, hc⟩, rfl, rfl, room⟩).1 late

theorem IsOpen.expireSpl_bounded (h : IsOpen rt l k s) (total : l.supply m < 2 ^ 64)
    (hm : s.mint = some m) (hc : (l x).data = .config cfg) (late : s.expiry < ctx.unixTimestamp)
    {dest : Pubkey} (hdest : PaysInto l m dest s.consumer) (cranker : Signer rt) :
    ∃ l' ts, expireSessionSplHandler rt ctx l ⟨x, k, s.consumer, rt.vaultAuthority k,
        rt.vaultAta k m, dest, cranker⟩ = .ok (l', ts) ∧
      RefundedTokens l l' k (rt.vaultAta k m) dest s .expired s.unsettled := by
  have alive : s.status.terminal = false := by simp [h.status, SessionStatus.terminal]
  have apart := h.inv.payee_account_ne_vault (r := .consumer) h.data alive hm hc hdest
  obtain ⟨t, ht, htm, hown⟩ := hdest
  have takes := h.inv.tokens_room total h.data alive hm apart ht htm
  exact (h.expireSpl hm ctx ⟨⟨cfg, hc⟩, rfl, rfl, rfl, rfl, ⟨t, ht, hown⟩, takes⟩).1 late

theorem InDispute.finalize_bounded (h : InDispute rt l k s ctx) (total : l.allLamports < 2 ^ 64)
    (hm : s.mint = none) (hc : (l x).data = .config cfg) (payer : Signer rt) :
    (∃ r, finalizeHandler rt ctx l ⟨x, s.node, k, s.provider, s.consumer, s.asset, cfg.feeVault,
        payer, cfg.mplCoreProgram⟩ = .ok r) ↔ TrackersFit l cfg s :=
  h.finalize_iff hm
    ⟨⟨hc, rfl, rfl, rfl, rfl, rfl, rfl⟩, rfl, h.inv.payees_room total h.data h.alive hm hc⟩

theorem InDispute.finalizeSpl_bounded (h : InDispute rt l k s ctx) (total : l.supply m < 2 ^ 64)
    (hm : s.mint = some m) (hc : (l x).data = .config cfg) {dest : Role → Pubkey}
    (hdest : ∀ r, PaysInto l m (dest r) (s.payee cfg.feeVault r)) (payer : Signer rt) :
    (∃ r, finalizeCloseSplHandler rt ctx l ⟨x, s.node, k, s.provider, s.consumer, s.asset,
        rt.vaultAuthority k, rt.vaultAta k m, dest .provider, dest .consumer, dest .fee, payer,
        cfg.mplCoreProgram⟩ = .ok r) ↔ TrackersFit l cfg s := by
  have receives : ∀ r, OwnedBy l (dest r) (s.payee cfg.feeVault r) ∧
      TakesTokens l (dest r) m s.unsettled := by
    intro r
    have apart := h.inv.payee_account_ne_vault h.data h.alive hm hc (hdest r)
    obtain ⟨t, ht, htm, hown⟩ := hdest r
    exact ⟨⟨t, ht, hown⟩, h.inv.tokens_room total h.data h.alive hm apart ht htm⟩
  exact h.finalizeSpl_iff hm ⟨⟨hc, rfl, rfl, rfl, rfl, rfl, rfl⟩, rfl, rfl, receives .provider,
    receives .consumer, receives .fee⟩

end

/-- Nobody can be kept from a payout by a receiver that is too full: as long as
lamports and tokens are as many as the chain allows, an expired session can be
refunded, and a dispute that is over can be finalized if and only if the node's
trackers have room. -/
theorem exits_need_no_room {rt : Runtime} {start l : Ledger} {tr : History rt}
    (genesis : Genesis start) (run : Run (Step rt) start tr l) (others : OthersBalance tr)
    (total : start.allLamports < 2 ^ 64) {k x : Pubkey} {s : Session} {cfg : Config}
    (supply : ∀ m, s.mint = some m → l.supply m < 2 ^ 64) (hs : (l k).data = .session s)
    (hc : (l x).data = .config cfg) (ctx : TxContext) (signer : Signer rt) :
    (s.status = .open → s.expiry < ctx.unixTimestamp →
      (s.mint = none → ∃ l' ts,
        (Call.expireSession ⟨x, k, s.consumer, signer⟩).exec ctx l = .ok (l', ts) ∧
          RefundedLamports l l' k s .expired s.unsettled) ∧
      ∀ m dest, s.mint = some m → PaysInto l m dest s.consumer → ∃ l' ts,
        (Call.expireSessionSpl ⟨x, k, s.consumer, rt.vaultAuthority k, rt.vaultAta k m, dest,
          signer⟩).exec ctx l = .ok (l', ts) ∧
            RefundedTokens l l' k (rt.vaultAta k m) dest s .expired s.unsettled) ∧
    (s.status = .closing → s.challengeDeadline < ctx.unixTimestamp →
      (s.mint = none →
        ((∃ r, (Call.finalizeClose ⟨x, s.node, k, s.provider, s.consumer, s.asset, cfg.feeVault,
          signer, cfg.mplCoreProgram⟩).exec ctx l = .ok r) ↔ TrackersFit l cfg s)) ∧
      ∀ m (dest : Role → Pubkey), s.mint = some m →
        (∀ r, PaysInto l m (dest r) (s.payee cfg.feeVault r)) →
        ((∃ r, (Call.finalizeCloseSpl ⟨x, s.node, k, s.provider, s.consumer, s.asset,
          rt.vaultAuthority k, rt.vaultAta k m, dest .provider, dest .consumer, dest .fee, signer,
          cfg.mplCoreProgram⟩).exec ctx l = .ok r) ↔ TrackersFit l cfg s)) := by
  have hi := run_inv genesis run
  have bounded : l.allLamports < 2 ^ 64 := by
    rw [run_allLamports run others]
    exact total
  constructor
  · intro hopen late
    have h : IsOpen rt l k s := ⟨hi, hs, hopen⟩
    exact ⟨fun hm => h.expire_bounded bounded hm hc late signer,
      fun m dest hm hdest => h.expireSpl_bounded (supply m hm) hm hc late hdest signer⟩
  · intro closing late
    have h : InDispute rt l k s ctx := ⟨hi, hs, closing, late⟩
    exact ⟨fun hm => h.finalize_bounded bounded hm hc signer,
      fun m dest hm hdest => h.finalizeSpl_bounded (supply m hm) hm hc hdest signer⟩

def Label.isExternal {rt : Runtime} : Label rt → Bool
  | .external => true
  | .call .. | .commit => false

theorem othersBalance_of_none {rt : Runtime} {tr : History rt}
    (h : tr.all (fun x => !x.label.isExternal) = true) : OthersBalance tr := by
  intro x hx he
  have hno := List.all_eq_true.mp h x hx
  simp [he, Label.isExternal] at hno

/-- Left alone, the program never has more tokens of a mint. -/
theorem run_supply_le {rt : Runtime} {start l : Ledger} {tr : History rt}
    (run : Run (Step rt) start tr l) (h : tr.all (fun x => !x.label.isExternal) = true)
    (mint : Pubkey) : l.supply mint ≤ start.supply mint := by
  induction run with
  | nil => exact Nat.le_refl _
  | @snoc l l' tr label run last ih =>
    rw [List.all_append, Bool.and_eq_true] at h
    have before := ih h.1
    cases last with
    | external => simp [Label.isExternal] at h
    | call _ ok => exact (Nat.le_of_eq ((Call.conserves ok).supply mint)).trans before
    | commit =>
      refine Nat.le_trans (worth_le_worth fun x => ?_) before
      by_cases hz : (l x).lamports = 0 <;> simp [Ledger.purge, hz, AccountData.holding]

namespace Localnet
open Transaction

/-- The addresses that have anything at the start. -/
def funded : Finset Pubkey :=
  insert feeVault ((List.range 23).map fun n => BitVec.ofNat 256 n).toFinset

theorem mem_funded {k : Pubkey} (h : k.toNat < 23 ∨ k = feeVault) : k ∈ funded := by
  rw [funded, Finset.mem_insert, List.mem_toFinset, List.mem_map]
  rcases h with h | h
  · exact .inr ⟨k.toNat, List.mem_range.mpr h, BitVec.ofNat_toNat 256 k ▸ BitVec.setWidth_eq k⟩
  · exact .inl h

theorem start_bounded (k m : Pubkey) :
    (start k).lamports.toNat ≤ (if k ∈ funded then 10 ^ 10 else 0) ∧
      (start k).data.holding m ≤ if k ∈ funded then 10 ^ 10 else 0 := by
  by_cases hk : k.toNat < 23 ∨ k = feeVault
  · rw [if_pos (mem_funded hk)]
    unfold start
    split_ifs <;> simp only [AccountData.holding] <;> (try split) <;> simp
  · obtain ⟨hk, hfee⟩ := not_or.mp hk
    have hne : ∀ n : Nat, n < 23 → k ≠ BitVec.ofNat 256 n := by
      intro n hn he
      apply hk
      rw [he, BitVec.toNat_ofNat]
      omega
    have hempty : start k = ⟨0, .system⟩ := by
      have h₁ : ¬(k = mint ∨ k = otherMint) :=
        not_or.mpr ⟨hne 18 (by omega), hne 19 (by omega)⟩
      have h₂ : k ≠ consumerToken := hne 20 (by omega)
      have h₃ : k ≠ providerToken := hne 21 (by omega)
      have h₄ : k ≠ feeToken := hne 22 (by omega)
      rw [start, if_neg h₁, if_neg h₂, if_neg h₃, if_neg h₄, if_neg hfee, if_neg (by omega)]
    rw [hempty]
    exact ⟨Nat.zero_le _, Nat.zero_le _⟩

theorem card_funded : funded.card ≤ 24 := by
  have hle := List.toFinset_card_le ((List.range 23).map fun n => BitVec.ofNat 256 n)
  rw [List.length_map, List.length_range] at hle
  have hinsert : funded.card ≤ _ := Finset.card_insert_le feeVault _
  omega

theorem start_allLamports : start.allLamports < 2 ^ 64 := by
  have hle := worth_le_card funded fun k => (start_bounded k 0).1
  have hcard := card_funded
  change worth _ < _
  omega

theorem start_supply (m : Pubkey) : start.supply m < 2 ^ 64 := by
  have hle := worth_le_card funded fun k => (start_bounded k m).2
  have hcard := card_funded
  change worth _ < _
  omega

/-- A session in tokens and one in lamports, both past their expiry. -/
def twoSessions : Ledger × History rt :=
  submit start (deploy ++ [openSol 7 1000000, openSpl 8 500000])

/-- Both deposits go back to the consumer. -/
theorem exits_need_no_room_expired :
    (∃ l' ts, (Call.expireSession ⟨config, session 7, 3, stranger⟩).exec ⟨[], 0, 61⟩
        twoSessions.1 = .ok (l', ts) ∧
      RefundedLamports twoSessions.1 l' (session 7) (opened 7 1000000 none 0) .expired 1000000) ∧
    ∃ l' ts, (Call.expireSessionSpl ⟨config, session 8, 3, rt.vaultAuthority (session 8),
        rt.vaultAta (session 8) mint, consumerToken, stranger⟩).exec ⟨[], 0, 61⟩ twoSessions.1 =
          .ok (l', ts) ∧
      RefundedTokens twoSessions.1 l' (session 8) (rt.vaultAta (session 8) mint) consumerToken
        (opened 8 500000 (some mint) 255) .expired 500000 := by
  have run : Run (Step rt) start twoSessions.2 twoSessions.1 := submit_run start _
  have alone : twoSessions.2.all (fun x => !x.label.isExternal) = true := by decide +kernel
  have others := othersBalance_of_none alone
  have supply : ∀ m, twoSessions.1.supply m < 2 ^ 64 := fun m =>
    Nat.lt_of_le_of_lt (run_supply_le run alone m) (start_supply m)
  have hc : (twoSessions.1 config).data = .config deployedConfig := by decide +kernel
  constructor
  · exact ((exits_need_no_room start_genesis run others start_allLamports
      (s := opened 7 1000000 none 0) (fun m _ => supply m) (by decide +kernel) hc ⟨[], 0, 61⟩
      stranger).1 rfl (by decide)).1 rfl
  · exact ((exits_need_no_room start_genesis run others start_allLamports
      (s := opened 8 500000 (some mint) 255) (fun m _ => supply m) (by decide +kernel) hc
      ⟨[], 0, 61⟩ stranger).1 rfl (by decide)).2 mint consumerToken rfl
        ⟨⟨mint, 3, 999500000⟩, by decide +kernel, rfl, rfl⟩

end Localnet

end SolMesh
