import SolMesh.Model.Localnet
import SolMesh.Proofs.Opening
import SolMesh.Proofs.SdkTransactions

namespace SolMesh.Sdk
open Outcome Words Client Runs

/-- The numbers of the client, at the widths of the program, for the given money. -/
structure OpenOpts.Means {rt : Runtime} (opts : OpenOpts rt) (mint : Option Pubkey)
    (d : Deposit rt) : Prop where
  node : d.node = opts.node
  consumer : d.consumer = opts.consumer
  mint : d.mint = mint
  seed : (d.sessionSeed.toNat : Int) = opts.seed
  amount : (d.amount.toNat : Int) = opts.amount
  durationSecs : d.durationSecs.toInt = opts.durationSecs
  ratePerUnit : (d.ratePerUnit.toNat : Int) = opts.ratePerUnit

theorem u64Arg_some {v : Int} {w : UInt64} : u64Arg v = some w ↔ (w.toNat : Int) = v := by
  have hw := w.toNat_lt
  constructor
  · intro h
    have hv : 0 ≤ v ∧ v < 2 ^ 64 := by
      by_contra hne
      rw [u64Arg, if_neg hne] at h
      cases h
    obtain ⟨w', hw', he⟩ := u64Arg_exists hv
    obtain rfl : w' = w := by simpa [h] using hw'.symm
    exact he
  · intro h
    obtain ⟨w', hw', he⟩ := u64Arg_exists (v := v) ⟨by omega, by omega⟩
    obtain rfl : w' = w := UInt64.toNat_inj.mp (by omega)
    exact hw'

theorem i64Arg_some {v : Int} {w : Int64} : i64Arg v = some w ↔ w.toInt = v := by
  have hlo := Int64.le_toInt w
  have hhi := Int64.toInt_lt w
  constructor
  · intro h
    have hv : -2 ^ 63 ≤ v ∧ v < 2 ^ 63 := by
      by_contra hne
      rw [i64Arg, if_neg hne] at h
      cases h
    obtain ⟨w', hw', he⟩ := i64Arg_exists hv
    obtain rfl : w' = w := by simpa [h] using hw'.symm
    exact he
  · intro h
    obtain ⟨w', hw', he⟩ := i64Arg_exists (v := v) ⟨by omega, by omega⟩
    obtain rfl : w' = w := Int64.toInt_inj.mp (by omega)
    exact hw'

theorem encodeU64_of {v : Int} {w : UInt64} (h : (w.toNat : Int) = v) :
    encodeU64 v = some (encodeBn v) := by
  have hw := w.toNat_lt
  exact if_pos ⟨by omega, by omega⟩

theorem encodeI64_of {v : Int} {w : Int64} (h : w.toInt = v) :
    encodeI64 v = some (encodeBn v) := by
  have hlo := Int64.le_toInt w
  have hhi := Int64.toInt_lt w
  exact if_pos ⟨by omega, by omega⟩

theorem sessionPda_some {rt : Runtime} {node consumer k : Pubkey} {v : Int} {w : UInt64}
    (h : (w.toNat : Int) = v) : sessionPda rt node consumer v = some k ↔
      ∃ b, rt.find (.session node consumer w) = some (k, b) := by
  have hw := w.toNat_lt
  have habs : v.natAbs = w.toNat := by omega
  rw [sessionPda, habs, if_pos hw, UInt64.ofNat_toNat, pda, Option.map_eq_some_iff]
  constructor
  · intro h
    obtain ⟨⟨k', b⟩, hfind, rfl⟩ := h
    exact ⟨b, hfind⟩
  · intro h
    obtain ⟨b, hfind⟩ := h
    exact ⟨(k, b), hfind, rfl⟩

/-- The instruction's data, as Anchor writes it. -/
def openArgs {rt : Runtime} (opts : OpenOpts rt) : List UInt8 :=
  encodeBn opts.seed ++ encodeBn opts.amount ++ encodeBn opts.durationSecs ++
    encodeBn opts.ratePerUnit

section
variable {rt : Runtime} {l : Ledger} {x : Pubkey} {cfg : Config} {opts : OpenOpts rt}
  {discriminator : String → List UInt8} {ixs : List (Instruction rt)}

/-- The client's transaction: one instruction, with the session's address
derived from what it opens. -/
theorem openSession_some (hconfig : configPda rt = some x) :
    openSession discriminator opts = some ixs ↔ ∃ (d : Deposit rt) (k : Pubkey), opts.Means none d ∧
      (∃ b, rt.find (.session d.node d.consumer.key d.sessionSeed) = some (k, b)) ∧
      ixs = [method discriminator "open_session" (openArgs opts) (.openSession
        ⟨x, d.node, k, d.consumer⟩ d.sessionSeed d.amount d.durationSecs d.ratePerUnit)] := by
  simp only [openSession, hconfig, Option.bind_eq_bind, Option.bind_eq_some_iff, Option.pure_def,
    Option.some.injEq, exists_eq_left', u64Arg_some, i64Arg_some]
  constructor
  · intro h
    obtain ⟨_, hes, _, hea, _, hed, _, her, k, hk, seed, hseed, amount, hamount, duration,
      hduration, rate, hrate, rfl⟩ := h
    rw [encodeU64_of hseed, Option.some.injEq] at hes
    rw [encodeU64_of hamount, Option.some.injEq] at hea
    rw [encodeI64_of hduration, Option.some.injEq] at hed
    rw [encodeU64_of hrate, Option.some.injEq] at her
    subst hes hea hed her
    exact ⟨⟨opts.node, opts.consumer, none, seed, amount, duration, rate⟩, k,
      ⟨rfl, rfl, rfl, hseed, hamount, hduration, hrate⟩, (sessionPda_some hseed).mp hk, rfl⟩
  · intro h
    obtain ⟨d, k, means, hfind, rfl⟩ := h
    rw [means.node, means.consumer] at hfind ⊢
    exact ⟨_, encodeU64_of means.seed, _, encodeU64_of means.amount, _,
      encodeI64_of means.durationSecs, _, encodeU64_of means.ratePerUnit, k,
      (sessionPda_some means.seed).mpr hfind, _, means.seed, _, means.amount, _,
      means.durationSecs, _, means.ratePerUnit, rfl⟩

/-- A transaction of one call of the program. -/
theorem exec_alone {now : Int64} {l' : Ledger} {tr : History rt} (name : String)
    (args : List UInt8) (c : Call rt) :
    (Transaction.mk [method discriminator name args c] now).exec l = .ok (l', tr) ↔
      ∃ mid ts, c.exec (lastContext [] (method discriminator name args c) now) l = .ok (mid, ts) ∧
        RentKept rt l mid ∧ l' = mid.purge ∧
        tr = [⟨l, .call (lastContext [] (method discriminator name args c) now) c ts, mid⟩,
          ⟨mid, .commit, mid.purge⟩] := by
  have passes : (lastContext [] (method discriminator name args c) now).precompiled rt = true := by
    simp [TxContext.precompiled, lastContext, Transaction.sysvar, method, programId_ne]
  exact (exec_last (by simp) c).trans (and_iff_right passes)

theorem Deposit.of_call {x k : Pubkey} {d : Deposit rt} (h : d.mint = none) :
    (⟨x, d.node, k, d.consumer⟩ : OpenSession rt).deposit d.sessionSeed d.amount d.durationSecs
      d.ratePerUnit = d := by
  cases d
  cases h
  rfl

/-- The consumer may hold what an opening in lamports leaves it. -/
def LeavesRent (rt : Runtime) (l : Ledger) (d : Deposit rt) (k : Pubkey) : Prop :=
  MayHold rt (l d.consumer.key) ((l d.consumer.key).lamports.toNat -
    (missingRent rt l k Session.space + d.amount.toNat))

/-- An opening keeps the rent rule where the consumer does: the session is rent
exempt from the start. -/
theorem rentKept_opening {mid : Ledger} {now : Int64} {d : Deposit rt} {k : Pubkey}
    (takes : Takes rt l now d k) (deposited : Deposited rt l mid now d k) :
    RentKept rt l mid ↔ LeavesRent rt l d k := by
  obtain ⟨s, hs, _⟩ := deposited.record
  have apart : d.consumer.key ≠ k := ne_of_data deposited.wallet hs (by simp)
  have size : (mid d.consumer.key).data.length? = (l d.consumer.key).data.length? := by
    rw [deposited.wallet, takes.wallet]
  have paid := deposited.paid
  have left : (mid d.consumer.key).lamports.toNat = (l d.consumer.key).lamports.toNat -
      (missingRent rt l k Session.space + d.amount.toNat) := by
    omega
  rw [LeavesRent, ← left]
  constructor
  · intro kept
    exact (allows_iff_mayHold size).mp (kept _)
  · intro holds x
    by_cases hk : x = k
    · subst hk
      have held := deposited.held
      have hsize : (mid x).data.length? = some Session.space := by
        rw [hs]
        rfl
      exact allows_exempt hsize (by omega)
    by_cases hx : x = d.consumer.key
    · subst hx
      exact (allows_iff_mayHold size).mpr holds
    · rw [deposited.rest x hk hx]
      exact RentState.allows_refl _

theorem open_executes (hi : Inv rt l) (uncounted : Uncounted l) {now : Int64} {d : Deposit rt}
    {k : Pubkey} (means : opts.Means none d) (takes : Takes rt l now d k)
    (rent : LeavesRent rt l d k) :
    ∃ ixs l' tr', openSession discriminator opts = some ixs ∧
      (Transaction.mk ixs now).exec l = .ok (l', tr') := by
  obtain ⟨authority, rules, hforce, _⟩ := takes.unpaused
  obtain ⟨cfg, hcfg, _, _⟩ := charter_some hforce
  have hconfig : configPda rt = some rt.configAddress := by
    rw [configPda, pda, (hi.config _ cfg hcfg).1.address]
    rfl
  have hd := Deposit.of_call (x := rt.configAddress) (k := k) means.mint
  rw [← hd] at takes rent
  let ix := method discriminator "open_session" (openArgs opts)
    (.openSession ⟨rt.configAddress, d.node, k, d.consumer⟩ d.sessionSeed d.amount
      d.durationSecs d.ratePerUnit)
  obtain ⟨mid, ts, ok⟩ := takes.opens (lastContext [] ix now) hi uncounted rfl
  obtain ⟨_, deposited⟩ := openSessionHandler_taken hi ok
  have kept : RentKept rt l mid := (rentKept_opening takes deposited).mpr rent
  rw [hd] at takes
  exact ⟨_, _, _, (openSession_some hconfig).mpr ⟨d, k, means, takes.address, rfl⟩,
    (exec_alone _ _ _).mpr ⟨mid, ts, ok, kept, rfl, rfl⟩⟩

theorem open_executed (hi : Inv rt l) {now : Int64} {l' : Ledger} {tr : History rt}
    (made : openSession discriminator opts = some ixs)
    (exec : (Transaction.mk ixs now).exec l = .ok (l', tr)) :
    ∃ d k mid, opts.Means none d ∧ Takes rt l now d k ∧ LeavesRent rt l d k ∧
      Deposited rt l mid now d k ∧ l' = mid.purge := by
  obtain ⟨x, hconfig⟩ : ∃ x, configPda rt = some x := by
    have h := made
    simp only [openSession, Option.bind_eq_bind, Option.bind_eq_some_iff] at h
    obtain ⟨_, _, _, _, _, _, _, _, x, hx, _⟩ := h
    exact ⟨x, hx⟩
  obtain ⟨d, k, means, _, rfl⟩ := (openSession_some hconfig).mp made
  obtain ⟨mid, ts, ok, kept, rfl, _⟩ := (exec_alone _ _ _).mp exec
  obtain ⟨takes, deposited⟩ := openSessionHandler_taken hi ok
  have rent := (rentKept_opening takes deposited).mp kept
  rw [Deposit.of_call means.mint] at takes rent deposited
  exact ⟨d, k, mid, means, takes, rent, deposited, rfl⟩

end

section
open Localnet Transaction

def openOpts : OpenOpts Localnet.rt where
  consumer := Localnet.consumer
  node := Localnet.node
  seed := 7
  amount := 1000000
  durationSecs := 60
  ratePerUnit := 1

end

end SolMesh.Sdk
