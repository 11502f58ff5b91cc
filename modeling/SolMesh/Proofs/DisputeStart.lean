import SolMesh.Proofs.Dispute
import SolMesh.Proofs.SignatureCompleteness

namespace SolMesh
open Outcome Words Runs

/-- An update that a party can bring against an open session: newer than its
record, within its bounds, and signed by both parties in this transaction. -/
structure Disputable (ctx : TxContext) (k : Pubkey) (s : Session) (u : StateUpdate) : Prop
    extends Admissible s u where
  domain : u.domain = stateDomain
  session : u.session = k
  provider : CarriesSignature ctx s.provider u.toMessageBytes
  consumer : CarriesSignature ctx s.consumer u.toMessageBytes

theorem Disputable.presents {ctx : TxContext} {k : Pubkey} {s : Session} {u : StateUpdate}
    (h : Disputable ctx k s u) : Presents ctx k s u :=
  ⟨h.domain, h.session, verifyEd25519Signature_iff.mpr h.provider,
    verifyEd25519Signature_iff.mpr h.consumer⟩

/-- The dispute is on: the instruction succeeded and its window lies ahead. -/
def DisputeStarts {rt : Runtime} (ctx : TxContext) (l : Ledger) (k : Pubkey)
    (a : UnilateralClose rt) (u : StateUpdate) : Prop :=
  ∃ l' ts s', (Call.initiateUnilateralClose a u).exec ctx l = .ok (l', ts) ∧
    (l' k).data = .session s' ∧ s'.status = .closing ∧ ctx.unixTimestamp < s'.challengeDeadline

section
variable {rt : Runtime} {ctx : TxContext} {l : Ledger} {k : Pubkey} {s : Session} {cfg : Config}
  {a : UnilateralClose rt} {u : StateUpdate}

/-- A window that ends in time starts with the dispute. -/
theorem dispute_starts_of_fits (hi : Inv rt l) (hs : (l k).data = .session s)
    (hopen : s.status = .open) (own : a.Own l k s cfg)
    (party : a.caller.key = s.provider ∨ a.caller.key = s.consumer) (hu : Disputable ctx k s u)
    (now : 0 ≤ ctx.unixTimestamp.toInt)
    (fits : ctx.unixTimestamp.toInt + cfg.challengeWindowSecs.toInt < 2 ^ 63) :
    DisputeStarts ctx l k a u := by
  have window := (hi.config _ cfg own.config).1.window
  obtain ⟨deadline, hdeadline, hok⟩ := initiateHandler_accepts hi hs hopen own party hu.presents
    hu.toAdmissible ⟨by omega, fits⟩
  refine ⟨_, _, _, hok, Ledger.setData_self _ _ _, rfl, ?_⟩
  rw [Int64.lt_iff_toInt_lt]
  change _ < deadline.toInt
  omega

/-- A later one makes the program refuse the dispute after all its checks. -/
theorem initiate_overflow (hi : Inv rt l) (hs : (l k).data = .session s)
    (hopen : s.status = .open) (own : a.Own l k s cfg)
    (party : a.caller.key = s.provider ∨ a.caller.key = s.consumer) (hu : Disputable ctx k s u)
    (late : 2 ^ 63 ≤ ctx.unixTimestamp.toInt + cfg.challengeWindowSecs.toInt) :
    (Call.initiateUnilateralClose a u).exec ctx l = .error (.custom .mathOverflow) := by
  have terms : s.SameTerms s := by constructor <;> rfl
  have hload := own.loaded hi hs terms
  have hverify := hu.presents.verified terms hu.covered hu.keeps
  have hnone : checkedAddInt ctx.unixTimestamp cfg.challengeWindowSecs = none :=
    if_neg fun h => by omega
  obtain rfl := own.session
  simp [Call.exec, initiateHandler, hload, party, hopen, hu.newer, hverify, hnone, require, okOr,
    bind, Except.bind]

end

/-- A party can start a dispute over an open session, in SOL or in tokens, with
a newer update signed by both if and only if the configured window, counted from
now, ends before the clock does. Otherwise the program overflows and no dispute
can start. -/
theorem dispute_starts_iff {rt : Runtime} {start l : Ledger} {tr : History rt}
    (genesis : Genesis start) (run : Run (Step rt) start tr l) (k : Pubkey) (s : Session)
    (hs : (l k).data = .session s) (hopen : s.status = .open) (ctx : TxContext)
    (now : 0 ≤ ctx.unixTimestamp.toInt ∧ ctx.unixTimestamp.toInt < 2 ^ 62) (cfg : Config)
    (a : UnilateralClose rt) (own : a.Own l k s cfg)
    (party : a.caller.key = s.provider ∨ a.caller.key = s.consumer) (u : StateUpdate)
    (hu : Disputable ctx k s u) :
    (DisputeStarts ctx l k a u ↔
        ctx.unixTimestamp.toInt + cfg.challengeWindowSecs.toInt < 2 ^ 63) ∧
      (¬ DisputeStarts ctx l k a u →
        (Call.initiateUnilateralClose a u).exec ctx l = .error (.custom .mathOverflow)) := by
  have hi := run_inv genesis run
  have starts := dispute_starts_of_fits hi hs hopen own party hu now.1
  have overflows := initiate_overflow hi hs hopen own party hu
  refine ⟨⟨fun h => ?_, starts⟩, fun h => ?_⟩
  · by_contra hlt
    obtain ⟨l', ts, s', hok, _⟩ := h
    cases hok.symm.trans (overflows (by omega))
  · exact overflows (by by_contra hlt; exact h (starts (by omega)))

section
open Localnet Transaction

theorem dispute_starts_iff_fresh :
    DisputeStarts (cosignedContext 5 second) freshSession.1 (session 7)
      (closeAccounts 7 provider) second := by
  have run : Run (Step Localnet.rt) Localnet.start freshSession.2 freshSession.1 :=
    submit_run _ _
  exact (dispute_starts_iff start_genesis run (session 7) (opened 7 1000000 none 0)
    (by decide +kernel) rfl (cosignedContext 5 second) (by decide) deployedConfig
    (closeAccounts 7 provider) ⟨by decide +kernel, rfl, rfl, rfl, rfl⟩ (.inl rfl) second
    ⟨⟨by decide, by decide, by decide⟩, rfl, rfl,
      verifyEd25519Signature_iff.mp (by decide +kernel),
      verifyEd25519Signature_iff.mp (by decide +kernel)⟩).1.mpr (by decide)

/-- The authority sets the longest window there is. -/
def boundless : Ledger × History Localnet.rt :=
  submit Localnet.start (deploy ++ [openSol 7 1000000,
    submitted 1 (.updateConfig ⟨config, authority⟩ none (some 0x7FFFFFFFFFFFFFFF))])

/-- From then on nobody can start a dispute. -/
theorem dispute_blocked : ¬ ∀ (rt : Runtime) (start l : Ledger) (tr : History rt) (k : Pubkey)
    (s : Session) (ctx : TxContext) (cfg : Config) (a : UnilateralClose rt) (u : StateUpdate),
    Genesis start → Run (Step rt) start tr l → (l k).data = .session s → s.status = .open →
    0 ≤ ctx.unixTimestamp.toInt ∧ ctx.unixTimestamp.toInt < 2 ^ 62 → a.Own l k s cfg →
    a.caller.key = s.provider ∨ a.caller.key = s.consumer → Disputable ctx k s u →
    DisputeStarts ctx l k a u := by
  intro h
  have run : Run (Step Localnet.rt) Localnet.start boundless.2 boundless.1 := submit_run _ _
  obtain ⟨l', ts, s', hok, _⟩ := h Localnet.rt Localnet.start boundless.1 boundless.2 (session 7)
    (opened 7 1000000 none 0) (cosignedContext 5 second)
    { deployedConfig with challengeWindowSecs := 0x7FFFFFFFFFFFFFFF } (closeAccounts 7 provider)
    second start_genesis run (by decide +kernel) rfl (by decide)
    ⟨by decide +kernel, rfl, rfl, rfl, rfl⟩ (.inl rfl)
    ⟨⟨by decide, by decide, by decide⟩, rfl, rfl,
      verifyEd25519Signature_iff.mp (by decide +kernel),
      verifyEd25519Signature_iff.mp (by decide +kernel)⟩
  have fails : ((Call.initiateUnilateralClose (closeAccounts 7 provider) second).exec
      (cosignedContext 5 second) boundless.1).isOk = false := by decide +kernel
  rw [hok] at fails
  cases fails

end

end SolMesh
