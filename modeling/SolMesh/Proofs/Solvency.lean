import SolMesh.Model.Localnet
import SolMesh.Proofs.Invariant

namespace SolMesh
open Runs

/-- Whatever anybody has done, the escrow of a session that is not over covers
what the session may still pay, in the asset it was opened with. -/
theorem escrow_solvent {rt : Runtime} {start l : Ledger} {tr : History rt}
    (genesis : Genesis start) (run : Run (Step rt) start tr l) (k : Pubkey) (s : Session)
    (hs : (l k).data = .session s) :
    s.settledToProvider ≤ s.deposited ∧
      (s.status = .closing →
        s.settledToProvider ≤ s.pendingPayout ∧ s.pendingPayout ≤ s.deposited) ∧
      (s.status = .open ∨ s.status = .closing →
        (s.mint = none → (rt.minimumBalance Session.space).toNat +
          (s.deposited.toNat - s.settledToProvider.toNat) ≤ (l k).lamports.toNat) ∧
        ∀ m, s.mint = some m → ∃ t, (l (rt.vaultAta k m)).data = .token t ∧ t.mint = m ∧
          t.owner = rt.vaultAuthority k ∧
          s.deposited.toNat - s.settledToProvider.toNat ≤ t.amount.toNat) := by
  have hok := (run_inv genesis run).session k s hs
  refine ⟨UInt64.le_iff_toNat_le.mpr hok.settled, fun hc => ?_, fun ha => ?_⟩
  · obtain ⟨hlo, hhi⟩ := hok.pending hc
    exact ⟨UInt64.le_iff_toNat_le.mpr hlo, UInt64.le_iff_toNat_le.mpr hhi⟩
  · have hactive : s.status.terminal = false := by
      rcases ha with h | h <;> simp [h, SessionStatus.terminal]
    have he := hok.escrow hactive
    exact ⟨he.lamports, fun m hm => (he.vault m hm).2⟩

section
open Localnet Transaction

/-- One session of each kind, the first after a checkpoint. -/
def twoSessions : Ledger × History Localnet.rt :=
  submit Localnet.start (deploy ++ [openSol 7 1000000, openSpl 8 5000,
    cosigned 5 (update 7 1 300000 1000)
      (.checkpointSettle (settleAccounts 7) (update 7 1 300000 1000))])

theorem escrow_solvent_sessions :
    (rt.minimumBalance Session.space).toNat + (1000000 - 300000) ≤
        (twoSessions.1 (session 7)).lamports.toNat ∧
      ∃ t, (twoSessions.1 (rt.vaultAta (session 8) mint)).data = .token t ∧ t.mint = mint ∧
        t.owner = rt.vaultAuthority (session 8) ∧ 5000 ≤ t.amount.toNat := by
  have run : Run (Step rt) Localnet.start twoSessions.2 twoSessions.1 := submit_run _ _
  have sol := escrow_solvent start_genesis run (session 7)
    ((opened 7 1000000 none 0).settle (update 7 1 300000 1000) true) (by decide +kernel)
  have spl := escrow_solvent start_genesis run (session 8) (opened 8 5000 (some mint) 255)
    (by decide +kernel)
  exact ⟨(sol.2.2 (.inl rfl)).1 rfl, (spl.2.2 (.inl rfl)).2 mint rfl⟩

end

end SolMesh
