import SolMesh.Model.Localnet
import SolMesh.Proofs.Opening

namespace SolMesh
open Outcome Words Runs

section
variable {rt : Runtime} {l l' : Ledger} {payer k : Pubkey} {space : Nat} {data : AccountData}

/-- Nobody pays for the opening of their own address. -/
theorem initAccount_payer_ne (h : initAccount rt l payer k space data = .ok l') : payer ≠ k := by
  have hmin := rt.minimumBalance_pos space
  intro he
  subst he
  simp only [initAccount, bind_ok, require_ok] at h
  obtain ⟨_, _, h⟩ := h
  split at h
  · rename_i hz
    simp only [bind_ok] at h
    obtain ⟨_, sent, _⟩ := h
    have hcovered := systemTransfer_covered sent
    rw [hz, UInt64.toNat_zero] at hcovered
    omega
  · simp only [bind_ok, require_ok] at h
    obtain ⟨_, hne, _⟩ := h
    exact hne rfl

/-- What an opening leaves alone, the next opening finds as it was. -/
theorem Initialised.missingRent {rent : Nat} (h : Initialised l l' payer k rent data) {x : Pubkey}
    (hk : x ≠ k) (hp : x ≠ payer) (space : Nat) :
    missingRent rt l' x space = missingRent rt l x space := by
  rw [SolMesh.missingRent, SolMesh.missingRent, h.bystander x hk hp]

end

/-- The rent that a session in tokens lacks, for its record and its vault. -/
def missingRents (rt : Runtime) (l : Ledger) (k m : Pubkey) : Nat :=
  missingRent rt l k Session.space + missingRent rt l (rt.vaultAta k m) tokenAccountSpace

/-- What it takes to open a session in tokens of the mint `m`, out of the token
account `src`: above all, nobody has made its vault before. -/
structure TakesSpl (rt : Runtime) (l : Ledger) (now : Int64) (d : Deposit rt) (k m src : Pubkey) :
    Prop extends Admits rt l now d k where
  inTokens : d.mint = some m
  isMint : (l m).data = .mint
  funds : ∃ t, (l src).data = .token t ∧ t.mint = m ∧ t.owner = d.consumer.key ∧
    d.amount.toNat ≤ t.amount.toNat
  authority : ∃ b, rt.find (.vault k) = some (rt.vaultAuthority k, b)
  vaultUnused : (l (rt.vaultAta k m)).data = .system
  apart : rt.vaultAta k m ≠ k ∧ d.consumer.key ≠ rt.vaultAta k m
  rent : 0 < missingRents rt l k m → (l d.consumer.key).data = .system ∧
    missingRents rt l k m ≤ (l d.consumer.key).lamports.toNat

/-- The ledger after an opening in tokens: the vault holds the deposit, the
consumer has paid it and the rent, and nothing else has changed. -/
structure DepositedSpl (rt : Runtime) (l l' : Ledger) (now : Int64) (d : Deposit rt)
    (k m src : Pubkey) : Prop where
  record : ∃ s, (l' k).data = .session s ∧ d.Agreed l now s ∧ Opened rt l l' k s
  vault : (l' (rt.vaultAta k m)).data = .token ⟨m, rt.vaultAuthority k, d.amount⟩
  source : ∃ t t', (l src).data = .token t ∧ (l' src).data = .token t' ∧ t'.mint = t.mint ∧
    t'.owner = t.owner ∧ t'.amount.toNat + d.amount.toNat = t.amount.toNat
  held : (l' k).lamports.toNat =
      max (rt.minimumBalance Session.space).toNat (l k).lamports.toNat ∧
    (l' (rt.vaultAta k m)).lamports.toNat =
      max (rt.minimumBalance tokenAccountSpace).toNat (l (rt.vaultAta k m)).lamports.toNat
  paid : (l' d.consumer.key).lamports.toNat + missingRents rt l k m =
    (l d.consumer.key).lamports.toNat
  lamports : ∀ x, x ≠ k → x ≠ rt.vaultAta k m → x ≠ d.consumer.key →
    (l' x).lamports = (l x).lamports
  data : ∀ x, x ≠ k → x ≠ rt.vaultAta k m → x ≠ src → (l' x).data = (l x).data

def OpenSessionSpl.deposit {rt : Runtime} (a : OpenSessionSpl rt) (sessionSeed amount : UInt64)
    (durationSecs : Int64) (ratePerUnit : UInt64) : Deposit rt :=
  ⟨a.node, a.consumer, some a.mint, sessionSeed, amount, durationSecs, ratePerUnit⟩

section
variable {rt : Runtime} {ctx : TxContext} {l l' : Ledger} {a : OpenSessionSpl rt}
  {sessionSeed amount ratePerUnit : UInt64} {durationSecs : Int64} {ts : List Transfer}

theorem openSessionSplHandler_taken (hi : Inv rt l)
    (h : openSessionSplHandler rt ctx l a sessionSeed amount durationSecs ratePerUnit =
      .ok (l', ts)) :
    TakesSpl rt l ctx.unixTimestamp (a.deposit sessionSeed amount durationSecs ratePerUnit)
        a.session a.mint a.consumerToken ∧
      DepositedSpl rt l l' ctx.unixTimestamp
        (a.deposit sessionSeed amount durationSecs ratePerUnit) a.session a.mint
        a.consumerToken := by
  obtain ⟨s, m, opened, _⟩ := openSessionSplHandler_effect h
  have agreed := openSessionSplHandler_agreed hi h opened.after
  obtain rfl : m = a.mint := Option.some.inj (opened.mint.symm.trans agreed.mint)
  simp only [openSessionSplHandler, initAssociatedToken_ok, bind_ok, loadMint_ok, loadToken_ok,
    findSeeds_ok, require_ok, pure_ok, Prod.mk.injEq, exitAccount_readonly,
    exitAccount_writable] at h
  obtain ⟨_, _, _, _, _, _, _, _, _, _, _, hfind, l₁, h₁, _, hmint, ct, hct, _, hctMint, _,
    hctOwner, vaultBump, hvault, l₂, ⟨hata, h₂⟩, _, _, _, _, _, _, l₃, h₃, _, _, _, _, rfl,
    rfl⟩ := h
  have ata : a.vaultToken = rt.vaultAta a.session a.mint := by
    rw [hata, Runtime.vaultAta, Runtime.vaultAuthority_of_find hvault]
  rw [ata] at h₂ h₃
  have hck := a.consumer.key_ne hfind
  have hcv := initAccount_payer_ne h₂
  have init := initAccount_ok h₁
  have initVault := initAccount_ok h₂
  obtain ⟨⟨t, _, ht, _, _, _, covered⟩, sends⟩ := tokenTransfer_ok h₃
  have hvk : rt.vaultAta a.session a.mint ≠ a.session := by
    intro he
    have fresh := initVault.fresh
    rw [init.data, if_pos he] at fresh
    cases fresh
  have hvs : a.consumerToken ≠ rt.vaultAta a.session a.mint := by
    intro he
    have fresh := initVault.fresh
    rw [← he, hct] at fresh
    cases fresh
  have hks : a.consumerToken ≠ a.session := by
    intro he
    rw [init.data, if_pos he] at hct
    cases hct
  have hkm : a.mint ≠ a.session := by
    intro he
    rw [init.data, if_pos he] at hmint
    cases hmint
  rw [init.data, if_neg hkm] at hmint
  rw [init.data, if_neg hks] at hct
  rw [initVault.data, if_neg hvs, init.data, if_neg hks, hct] at ht
  cases ht
  have paidSession := initAccount_payer hck h₁
  have paidVault := initAccount_payer hcv h₂
  rw [init.missingRent hvk (Ne.symm hcv)] at paidVault
  have rents : (l₂ a.consumer.key).lamports.toNat + missingRents rt l a.session a.mint =
      (l a.consumer.key).lamports.toNat := by
    rw [missingRents]
    omega
  have wallet : 0 < missingRents rt l a.session a.mint → (l a.consumer.key).data = .system := by
    intro lacking
    rcases Nat.eq_zero_or_pos (missingRent rt l a.session Session.space) with hzero | hpos
    · obtain ⟨_, pays⟩ := (initAccount_iff hcv).mp ⟨l₂, h₂⟩
      rw [init.missingRent hvk (Ne.symm hcv), init.data, if_neg hck] at pays
      rw [missingRents, hzero, Nat.zero_add] at lacking
      exact (pays lacking).1
    · exact (((initAccount_iff hck).mp ⟨l₁, h₁⟩).2 hpos).1
  obtain ⟨t', ht', mint, owner, amounts⟩ := sends.token a.consumerToken ct
    (by rw [initVault.data, if_neg hvs, init.data, if_neg hks, hct])
  rw [if_pos rfl, if_neg hvs, Nat.add_zero] at amounts
  refine ⟨⟨.of_opened opened.toOpened agreed, rfl, hmint, ⟨ct, hct, hctMint, hctOwner, covered⟩,
    ⟨_, opened.authority⟩, opened.vaultFresh, ⟨hvk, hcv⟩, fun lacking => ⟨?_, ?_⟩⟩,
    ⟨⟨s, opened.after, agreed, opened.toOpened⟩, ?_, ⟨ct, t', hct, ?_, mint, owner, amounts⟩,
      ⟨opened.funded, ?_⟩, ?_, fun x hk hv hc => ?_, fun x hk hv hx => ?_⟩⟩
  · exact wallet lacking
  · simp only [OpenSessionSpl.deposit]
    omega
  · rw [opened.vault, agreed.deposited]
    rfl
  · rw [Ledger.setData_data, if_neg hks, ht']
  · rw [Ledger.setData_lamports, sends.lamports, initVault.funded,
      init.bystander _ hvk (Ne.symm hcv)]
  · simp only [OpenSessionSpl.deposit, Ledger.setData_lamports, sends.lamports]
    exact rents
  · rw [Ledger.setData_lamports, sends.lamports, initVault.bystander x hv hc,
      init.bystander x hk hc]
  · rw [Ledger.setData_data, if_neg hk, sends.others hx hv, initVault.data, if_neg hv, init.data,
      if_neg hk]

/-- Nothing else is asked for. -/
theorem TakesSpl.opens (ctx : TxContext) (hi : Inv rt l) (uncounted : Uncounted l)
    (h : TakesSpl rt l ctx.unixTimestamp (a.deposit sessionSeed amount durationSecs ratePerUnit)
      a.session a.mint a.consumerToken) (config : a.config = rt.configAddress)
    (authority : a.vaultAuthority = rt.vaultAuthority a.session)
    (vault : a.vaultToken = rt.vaultAta a.session a.mint) :
    ∃ l' ts, openSessionSplHandler rt ctx l a sessionSeed amount durationSecs ratePerUnit =
      .ok (l', ts) := by
  obtain ⟨cfg, n, bump, expiry, total, c⟩ := h.checks hi uncounted
  obtain ⟨t, ht, mint, owner, covered⟩ := h.funds
  obtain ⟨vaultBump, hvault⟩ := h.authority
  have hck := a.consumer.key_ne c.address
  have hvk := h.apart.1
  have hcv := h.apart.2
  have unused := h.unused
  have hmk : a.mint ≠ a.session := by
    intro he
    have hmint := h.isMint
    rw [he, unused] at hmint
    cases hmint
  have hsk : a.consumerToken ≠ a.session := ne_of_data ht unused (by simp)
  have hsv : a.consumerToken ≠ rt.vaultAta a.session a.mint :=
    ne_of_data ht h.vaultUnused (by simp)
  simp only [OpenSessionSpl.deposit] at hcv owner covered
  have rent : 0 < missingRents rt l a.session a.mint → (l a.consumer.key).data = .system ∧
    missingRents rt l a.session a.mint ≤ (l a.consumer.key).lamports.toNat := h.rent
  rw [missingRents] at rent
  obtain ⟨l₁, h₁⟩ : ∃ l₁, initAccount rt l a.consumer.key a.session Session.space
      (.session default) = .ok l₁ := by
    refine (initAccount_iff hck).mpr ⟨unused, fun lacking => ?_⟩
    obtain ⟨wallet, funds⟩ := rent (by omega)
    exact ⟨wallet, by omega⟩
  have init := initAccount_ok h₁
  have paidSession := initAccount_payer hck h₁
  obtain ⟨l₂, h₂⟩ : ∃ l₂, initAccount rt l₁ a.consumer.key (rt.vaultAta a.session a.mint)
      tokenAccountSpace (.token { mint := a.mint, owner := rt.vaultAuthority a.session
                                  amount := 0 }) = .ok l₂ := by
    refine (initAccount_iff hcv).mpr ⟨?_, fun lacking => ?_⟩
    · rw [init.data, if_neg hvk]
      exact h.vaultUnused
    · rw [init.missingRent hvk (Ne.symm hcv)] at lacking ⊢
      obtain ⟨wallet, funds⟩ := rent (by omega)
      rw [init.data, if_neg hck]
      exact ⟨wallet, by omega⟩
  have initVault := initAccount_ok h₂
  obtain ⟨l₃, h₃⟩ := tokenTransfer_exists
    (show (l₂ a.consumerToken).data = .token t by
      rw [initVault.data, if_neg hsv, init.data, if_neg hsk, ht])
    (show (l₂ (rt.vaultAta a.session a.mint)).data = _ by rw [initVault.data, if_pos rfl])
    mint owner covered (by have := amount.toNat_lt; simpa using this)
  simp only [openSessionSplHandler, initAssociatedToken_ok, config, authority, vault, bind_ok,
    loadConfig_ok, loadNode_ok, loadMint_ok, loadToken_ok, checkSeeds_ok, findSeeds_ok, require_ok,
    okOr_ok, pure_ok, Prod.mk.injEq]
  exact ⟨_, _, cfg, c.config, (), c.configSeeds, n, c.node, (), c.nodeSeeds, (), c.active, bump,
    c.address, l₁, h₁, (), by rw [init.data, if_neg hmk]; exact h.isMint, t,
    by rw [init.data, if_neg hsk, ht], (), mint, (), owner, vaultBump, hvault, l₂, ⟨rfl, h₂⟩, (),
    c.unpaused, (), c.amount, (), c.duration, l₃, h₃, expiry, c.expiry, total, c.total, rfl, rfl⟩

end

section
variable {rt : Runtime} {l l' : Ledger} {tr : History rt} {x : Pubkey} {t : TokenAccount}

/-- Making a token account is nothing the program could notice. -/
theorem Initialised.respects {payer : Pubkey} {rent : Nat}
    (h : Initialised l l' payer x rent (.token t)) : Respects rt l l' := by
  have unused := h.fresh
  have kept : ∀ y, (l y).data ≠ .system →
      (l' y).data = (l y).data ∧ (l' y).lamports = (l y).lamports := by
    intro y hy
    have hyx : y ≠ x := ne_of_absent hy unused
    rw [h.data, if_neg hyx]
    exact ⟨rfl, h.carrier y hyx hy⟩
  refine ⟨fun y hy => ?_, fun y hy => ?_, fun y u hu _ => ?_, fun y a ha _ => ?_, fun y hy => ?_⟩
  · obtain ⟨data, lamports⟩ := kept y fun he => by simp [he, AccountData.ownedByProgram] at hy
    exact ⟨data, lamports ▸ Nat.le_refl _⟩
  · rw [h.data] at hy
    split at hy
    · cases hy
    · exact hy
  · obtain ⟨data, lamports⟩ := kept y fun he => by simp [he] at hu
    exact ⟨lamports ▸ Nat.le_refl _, u, data.trans hu, rfl, rfl, Nat.le_refl _⟩
  · obtain ⟨data, lamports⟩ := kept y fun he => by simp [he] at ha
    exact ⟨lamports ▸ id, .inr ⟨a, data.trans ha, rfl, rfl⟩⟩
  · obtain ⟨data, lamports⟩ := kept y fun he => by simp [he] at hy
    exact ⟨lamports ▸ id, data.trans hy⟩

/-- A token account of a derived address stays one. -/
theorem Step.token_stays {label : Label rt} (h : Step rt l label l') (ht : (l x).data = .token t)
    (pda : rt.IsPda t.owner) (funded : 0 < (l x).lamports.toNat) :
    ∃ t', (l' x).data = .token t' ∧ t'.owner = t.owner ∧ 0 < (l' x).lamports.toNat := by
  obtain ⟨t', ht', _, owner, lamports, _⟩ := (h.frame.token x t ht pda).resolve_left
    fun gone => absurd gone.1 (by omega)
  exact ⟨t', ht', owner, by omega⟩

theorem run_token_stays (run : Run (Step rt) l tr l') (ht : (l x).data = .token t)
    (pda : rt.IsPda t.owner) (funded : 0 < (l x).lamports.toNat) :
    ∃ t', (l' x).data = .token t' ∧ t'.owner = t.owner ∧ 0 < (l' x).lamports.toNat := by
  induction run with
  | nil => exact ⟨t, ht, rfl, funded⟩
  | snoc run last ih =>
    obtain ⟨t₁, ht₁, owner, funded₁⟩ := ih
    obtain ⟨t₂, ht₂, owner', funded₂⟩ := last.token_stays ht₁ (owner ▸ pda) funded₁
    exact ⟨t₂, ht₂, owner'.trans owner, funded₂⟩

end

/-- Anybody can keep a session from ever being opened in tokens. Whoever pays the
rent for the token account that would be its vault, which takes no signature of
anybody else, changes nothing but that account and their own: and from then on,
whatever happens, `open_session_spl` with that session and mint fails. -/
theorem vault_can_be_squatted {rt : Runtime} {start l : Ledger} {tr : History rt}
    (genesis : Genesis start) (run : Run (Step rt) start tr l) {k m p : Pubkey} {b : UInt8}
    (authority : rt.find (.vault k) = some (rt.vaultAuthority k, b))
    (unused : (l (rt.vaultAta k m)).data = .system) (wallet : (l p).data = .system)
    (apart : p ≠ rt.vaultAta k m)
    (rent : missingRent rt l (rt.vaultAta k m) tokenAccountSpace ≤ (l p).lamports.toNat) :
    ∃ l₁, Step rt l .external l₁ ∧
      (∀ x, x ≠ p → x ≠ rt.vaultAta k m → l₁ x = l x) ∧
      (l₁ p).lamports.toNat + missingRent rt l (rt.vaultAta k m) tokenAccountSpace =
        (l p).lamports.toNat ∧
      ∀ tr' l₂, Run (Step rt) l₁ tr' l₂ → ∀ ctx (a : OpenSessionSpl rt) sessionSeed amount
        durationSecs ratePerUnit, a.session = k → a.mint = m →
          ∀ r, (Call.openSessionSpl a sessionSeed amount durationSecs ratePerUnit).exec ctx l₂ ≠
            .ok r := by
  obtain ⟨l₁, made⟩ : ∃ l₁, initAccount rt l p (rt.vaultAta k m) tokenAccountSpace
      (.token { mint := m, owner := rt.vaultAuthority k, amount := 0 }) = .ok l₁ :=
    (initAccount_iff apart).mpr ⟨unused, fun _ => ⟨wallet, rent⟩⟩
  have init := initAccount_ok made
  have step : Step rt l .external l₁ := .external init.respects
  refine ⟨l₁, step, fun x hp hv => ?_, initAccount_payer apart made, ?_⟩
  · refine account_ext (congrArg UInt64.toNat (init.bystander x hv hp)) ?_
    rw [init.data, if_neg hv]
  · intro tr' l₂ onwards ctx a sessionSeed amount durationSecs ratePerUnit hk hm r ok
    have hmin := rt.minimumBalance_pos tokenAccountSpace
    obtain ⟨t, ht, _⟩ := run_token_stays onwards
      (show (l₁ (rt.vaultAta k m)).data = _ by rw [init.data, if_pos rfl])
      (Runtime.isPda_of_find authority) (by rw [init.funded]; omega)
    have hi := onwards.invariant (Step.inv (run_inv genesis run) step) Step.inv
    have vaultUnused := (openSessionSplHandler_taken hi ok).1.vaultUnused
    rw [hk, hm, ht] at vaultUnused
    cases vaultUnused

section
open Localnet Transaction

/-- The consumer's opening of session 7 in tokens. -/
def openSpl7 : Call Localnet.rt :=
  .openSessionSpl ⟨config, node, session 7, mint, consumerToken, vaultAuthority 7, vaultToken 7,
    consumer⟩ 7 1000000 60 1

theorem vault_can_be_squatted_deployed :
    (∃ r, openSpl7.exec ⟨[], 0, 0⟩ (submit Localnet.start deploy).1 = .ok r) ∧
      ∃ l₁, Step Localnet.rt (submit Localnet.start deploy).1 .external l₁ ∧
        ∀ r, openSpl7.exec ⟨[], 0, 0⟩ l₁ ≠ .ok r := by
  have run : Run (Step Localnet.rt) Localnet.start (submit Localnet.start deploy).2
      (submit Localnet.start deploy).1 := submit_run _ _
  have authority : Localnet.rt.find (.vault (session 7)) =
      some (Localnet.rt.vaultAuthority (session 7), 255) := by
    have found : Localnet.rt.find (.vault (session 7)) = some (vaultAuthority 7, 255) := find_eq _
    rw [Runtime.vaultAuthority_of_find found]
    exact found
  refine ⟨exists_ok (by decide +kernel), ?_⟩
  obtain ⟨l₁, step, _, _, never⟩ := vault_can_be_squatted start_genesis run (m := mint)
    (p := stranger.key) authority (by decide +kernel) (by decide +kernel) (by decide +kernel)
    (by decide +kernel)
  exact ⟨l₁, step, never [] l₁ (.nil l₁) _ _ _ _ _ _ rfl rfl⟩

end

end SolMesh
