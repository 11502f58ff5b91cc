import SolMesh.Proofs.SdkOpening
import SolMesh.Proofs.SplOpening

namespace SolMesh.Sdk
open Outcome Words Client Runs

section
variable {rt : Runtime} {l : Ledger} {x : Pubkey} {opts : OpenSplOpts rt}
  {discriminator : String → List UInt8} {ixs : List (Instruction rt)}

/-- The opening in tokens that the client asks for at `k`. -/
def OpenSplOpts.accounts (opts : OpenSplOpts rt) (config k : Pubkey) : OpenSessionSpl rt :=
  ⟨config, opts.node, k, opts.mint, opts.consumerToken, rt.vaultAuthority k,
    rt.vaultAta k opts.mint, opts.consumer⟩

/-- The client's transaction, with the addresses of session and vault derived from
what it opens. -/
theorem openSessionSpl_some (hconfig : configPda rt = some x) :
    openSessionSpl discriminator opts = some ixs ↔ ∃ (d : Deposit rt) (k : Pubkey),
      opts.Means (some opts.mint) d ∧
      (∃ b, rt.find (.session d.node d.consumer.key d.sessionSeed) = some (k, b)) ∧
      (∃ b, rt.find (.vault k) = some (rt.vaultAuthority k, b)) ∧
      ixs = [method discriminator "open_session_spl" (openArgs opts.toOpenOpts) (.openSessionSpl
        (opts.accounts x k) d.sessionSeed d.amount d.durationSecs d.ratePerUnit)] := by
  simp only [openSessionSpl, hconfig, Option.bind_eq_bind, Option.bind_eq_some_iff,
    Option.pure_def, Option.some.injEq, exists_eq_left', u64Arg_some, i64Arg_some]
  constructor
  · intro h
    obtain ⟨k, hk, v, hv, _, hes, _, hea, _, hed, _, her, seed, hseed, amount, hamount, duration,
      hduration, rate, hrate, rfl⟩ := h
    obtain ⟨rfl, found⟩ := vaultAuthority_some.mp hv
    rw [encodeU64_of hseed, Option.some.injEq] at hes
    rw [encodeU64_of hamount, Option.some.injEq] at hea
    rw [encodeI64_of hduration, Option.some.injEq] at hed
    rw [encodeU64_of hrate, Option.some.injEq] at her
    subst hes hea hed her
    exact ⟨⟨opts.node, opts.consumer, some opts.mint, seed, amount, duration, rate⟩, k,
      ⟨rfl, rfl, rfl, hseed, hamount, hduration, hrate⟩, (sessionPda_some hseed).mp hk, found,
      rfl⟩
  · intro h
    obtain ⟨d, k, means, hfind, found, rfl⟩ := h
    rw [means.node, means.consumer] at hfind
    exact ⟨k, (sessionPda_some means.seed).mpr hfind, _, vaultAuthority_some.mpr ⟨rfl, found⟩, _,
      encodeU64_of means.seed, _, encodeU64_of means.amount, _, encodeI64_of means.durationSecs,
      _, encodeU64_of means.ratePerUnit, _, means.seed, _, means.amount, _, means.durationSecs, _,
      means.ratePerUnit, rfl⟩

theorem OpenSplOpts.deposit_eq {k : Pubkey} {d : Deposit rt}
    (means : opts.Means (some opts.mint) d) : (opts.accounts x k).deposit d.sessionSeed d.amount
      d.durationSecs d.ratePerUnit = d := by
  rw [OpenSessionSpl.deposit, accounts, ← means.node, ← means.consumer, ← means.mint]

/-- The consumer may hold what an opening in tokens leaves it. -/
def LeavesRentSpl (rt : Runtime) (l : Ledger) (d : Deposit rt) (k m : Pubkey) : Prop :=
  MayHold rt (l d.consumer.key) ((l d.consumer.key).lamports.toNat - missingRents rt l k m)

/-- An opening in tokens keeps the rent rule where the consumer does: session and
vault are rent exempt from the start. -/
theorem rentKept_openingSpl {mid : Ledger} {now : Int64} {d : Deposit rt} {k m src : Pubkey}
    (takes : TakesSpl rt l now d k m src) (deposited : DepositedSpl rt l mid now d k m src) :
    RentKept rt l mid ↔ LeavesRentSpl rt l d k m := by
  obtain ⟨s, hs, _⟩ := deposited.record
  obtain ⟨b, hb⟩ := takes.address
  obtain ⟨heldSession, heldVault⟩ := deposited.held
  have apart : d.consumer.key ≠ k := d.consumer.key_ne hb
  have size : ∀ x, x ≠ k → x ≠ rt.vaultAta k m → (mid x).data.length? = (l x).data.length? := by
    intro x hk hv
    by_cases hx : x = src
    · obtain ⟨t, t', ht, ht', _⟩ := deposited.source
      rw [hx, ht', ht]
      rfl
    · rw [deposited.data x hk hv hx]
  have paid := deposited.paid
  have left : (mid d.consumer.key).lamports.toNat =
      (l d.consumer.key).lamports.toNat - missingRents rt l k m := by
    omega
  rw [LeavesRentSpl, ← left]
  constructor
  · intro kept
    exact (allows_iff_mayHold (size _ apart takes.apart.2)).mp (kept _)
  · intro holds x
    by_cases hk : x = k
    · subst hk
      have hsize : (mid x).data.length? = some Session.space := by
        rw [hs]
        rfl
      exact allows_exempt hsize (by omega)
    by_cases hv : x = rt.vaultAta k m
    · subst hv
      have hsize : (mid (rt.vaultAta k m)).data.length? = some tokenAccountSpace := by
        rw [deposited.vault]
        rfl
      exact allows_exempt hsize (by omega)
    rw [allows_iff_mayHold (size x hk hv)]
    by_cases hx : x = d.consumer.key
    · subst hx
      exact holds
    · rw [deposited.lamports x hk hv hx]
      exact mayHold_self rt (l x)

theorem openSpl_executes (hi : Inv rt l) (uncounted : Uncounted l) {now : Int64} {d : Deposit rt}
    {k : Pubkey} (means : opts.Means (some opts.mint) d)
    (takes : TakesSpl rt l now d k opts.mint opts.consumerToken)
    (rent : LeavesRentSpl rt l d k opts.mint) :
    ∃ ixs l' tr', openSessionSpl discriminator opts = some ixs ∧
      (Transaction.mk ixs now).exec l = .ok (l', tr') := by
  obtain ⟨_, _, _, _, _, c⟩ := takes.checks hi uncounted
  have hconfig : configPda rt = some rt.configAddress := by
    rw [configPda, pda, (hi.config _ _ c.config).1.address]
    rfl
  let ix := method discriminator "open_session_spl" (openArgs opts.toOpenOpts) (.openSessionSpl
    (opts.accounts rt.configAddress k) d.sessionSeed d.amount d.durationSecs d.ratePerUnit)
  have made : openSessionSpl discriminator opts = some [ix] :=
    (openSessionSpl_some hconfig).mpr ⟨d, k, means, takes.address, takes.authority, rfl⟩
  rw [← OpenSplOpts.deposit_eq (x := rt.configAddress) (k := k) means] at takes rent
  obtain ⟨mid, ts, ok⟩ := takes.opens (lastContext [] ix now) hi uncounted rfl rfl rfl
  obtain ⟨_, deposited⟩ := openSessionSplHandler_taken hi ok
  have kept : RentKept rt l mid := (rentKept_openingSpl takes deposited).mpr rent
  exact ⟨_, _, _, made, (exec_alone _ _ _).mpr ⟨mid, ts, ok, kept, rfl, rfl⟩⟩

theorem openSpl_executed (hi : Inv rt l) {now : Int64} {l' : Ledger} {tr : History rt}
    (made : openSessionSpl discriminator opts = some ixs)
    (exec : (Transaction.mk ixs now).exec l = .ok (l', tr)) :
    ∃ d k mid, opts.Means (some opts.mint) d ∧
      TakesSpl rt l now d k opts.mint opts.consumerToken ∧ LeavesRentSpl rt l d k opts.mint ∧
      DepositedSpl rt l mid now d k opts.mint opts.consumerToken ∧ l' = mid.purge := by
  obtain ⟨x, hconfig⟩ : ∃ x, configPda rt = some x := by
    have h := made
    simp only [openSessionSpl, Option.bind_eq_bind, Option.bind_eq_some_iff] at h
    obtain ⟨_, _, _, _, _, _, _, _, _, _, _, _, x, hx, _⟩ := h
    exact ⟨x, hx⟩
  obtain ⟨d, k, means, _, _, rfl⟩ := (openSessionSpl_some hconfig).mp made
  obtain ⟨mid, ts, ok, kept, rfl, _⟩ := (exec_alone _ _ _).mp exec
  obtain ⟨takes, deposited⟩ := openSessionSplHandler_taken hi ok
  have rent := (rentKept_openingSpl takes deposited).mp kept
  rw [OpenSplOpts.deposit_eq means] at takes rent deposited
  exact ⟨d, k, mid, means, takes, rent, deposited, rfl⟩

end

section
open Localnet Transaction

def openSplOpts : OpenSplOpts Localnet.rt where
  consumer := Localnet.consumer
  node := Localnet.node
  seed := 7
  amount := 1000000
  durationSecs := 60
  ratePerUnit := 1
  mint := Localnet.mint
  consumerToken := Localnet.consumerToken

end

end SolMesh.Sdk
