import SolMesh.Proofs.Invariant
import SolMesh.Proofs.Progress

namespace SolMesh
open Outcome Words

/-- Payouts of one session out of one account, each to the receiver in its role. -/
def transfersTo (k src : Pubkey) (dest : Role → Pubkey) (xs : List (Role × UInt64)) :
    List Transfer :=
  xs.map fun x => ⟨k, x.1, src, dest x.1, x.2⟩

/-- The amounts of a settlement in their roles. -/
def sharesOf (pa fee rem : UInt64) : List (Role × UInt64) :=
  [(.provider, pa), (.fee, fee), (.consumer, rem)]

section
variable {k src : Pubkey} {dest : Role → Pubkey} {xs : List (Role × UInt64)}

theorem mem_transfersTo {t : Transfer} (h : t ∈ transfersTo k src dest xs) :
    t.source = src ∧ t.dest = dest t.role := by
  obtain ⟨x, _, rfl⟩ := List.mem_map.mp h
  exact ⟨rfl, rfl⟩

theorem amountOf_transfersTo (k src : Pubkey) (dest : Role → Pubkey)
    (xs : List (Role × UInt64)) :
    amountOf (transfersTo k src dest xs) = (xs.map fun x => x.2.toNat).sum := by
  simp [amountOf, transfersTo, Function.comp_def]

theorem total_sharesOf (pa fee rem : UInt64) :
    ((sharesOf pa fee rem).map fun x => x.2.toNat).sum = pa.toNat + fee.toNat + rem.toNat := by
  simp [sharesOf, Nat.add_assoc]

end

/-- An escrow in lamports that covers what is unsettled, with receivers that can
take it. -/
structure SolEscrow (k : Pubkey) (s : Session) (feeVault : Pubkey) (l : Ledger) : Prop where
  cover : s.unsettled ≤ (l k).lamports.toNat
  apart : ∀ r, s.payee feeVault r ≠ k
  room : ∀ r, (l (s.payee feeVault r)).lamports.toNat + s.unsettled < 2 ^ 64

/-- A token account of mint `m` can still take `n`. -/
def TakesTokens (l : Ledger) (x m : Pubkey) (n : Nat) : Prop :=
  ∃ t, (l x).data = .token t ∧ t.mint = m ∧ t.amount.toNat + n < 2 ^ 64

def OwnedBy (l : Ledger) (x owner : Pubkey) : Prop :=
  ∃ t, (l x).data = .token t ∧ t.owner = owner

/-- A vault of mint `m` holds at least `n`, and its authority can sign for it. -/
structure VaultCovers (rt : Runtime) (l : Ledger) (v m authority k : Pubkey) (bump : UInt8)
    (n : Nat) : Prop where
  sign : rt.createProgramAddress (.vault k) bump = some authority
  account : ∃ t, (l v).data = .token t ∧ t.mint = m ∧ t.owner = authority ∧ n ≤ t.amount.toNat

section
variable {rt : Runtime} {k feeVault : Pubkey} {s : Session} {l : Ledger} {cfg : Config}

theorem SolEscrow.pays (h : SolEscrow k s feeVault l) (xs : List (Role × UInt64))
    (hle : (xs.map fun x => x.2.toNat).sum ≤ s.unsettled) :
    ∃ mid, LamportsPaid l (transfersTo k k (s.payee feeVault) xs) mid := by
  have total := amountOf_transfersTo k k (s.payee feeVault) xs
  have cover := h.cover
  refine LamportsPaid.exists (fun t ht => (mem_transfersTo ht).1) (fun t ht _ => ?_) (by omega)
    fun x _ => ?_
  · rw [(mem_transfersTo ht).2]
    exact h.apart t.role
  · refine room_of_dests (n := s.unsettled) (by omega) (fun x => (l x).lamports.toNat_lt) ?_ x
    intro t ht
    rw [(mem_transfersTo ht).2]
    exact h.room t.role

/-- The session's account is none of the receivers of its payouts in lamports. -/
theorem Inv.payee_ne_session (hi : Inv rt l) (hs : (l k).data = .session s) {x : Pubkey}
    (hc : (l x).data = .config cfg) (r : Role) : s.payee cfg.feeVault r ≠ k := by
  have hok := hi.session k s hs
  obtain ⟨b, hb⟩ := (hi.config x cfg hc).1.feeVault
  exact hi.payee_ne hs (Runtime.isPda_of_find hok.address)
    (rt.session_ne_feeVault hok.address hb) r

/-- Nor is its vault authority. -/
theorem Inv.payee_ne_vault (hi : Inv rt l) (hs : (l k).data = .session s) {x v : Pubkey}
    {b : UInt8} (hc : (l x).data = .config cfg) (hv : rt.find (.vault k) = some (v, b))
    (r : Role) : s.payee cfg.feeVault r ≠ v := by
  obtain ⟨b', hb'⟩ := (hi.config x cfg hc).1.feeVault
  exact hi.payee_ne hs (Runtime.isPda_of_find hv) (rt.vault_ne_feeVault hv hb') r

/-- A session that is not over has its escrow in lamports when its receivers
have room. -/
theorem Inv.solEscrow (hi : Inv rt l) (hs : (l k).data = .session s)
    (alive : s.status.terminal = false) (hm : s.mint = none) {x : Pubkey}
    (hc : (l x).data = .config cfg)
    (room : ∀ r, (l (s.payee cfg.feeVault r)).lamports.toNat + s.unsettled < 2 ^ 64) :
    SolEscrow k s cfg.feeVault l := by
  have cover := ((hi.session k s hs).escrow alive).lamports hm
  exact ⟨by omega, hi.payee_ne_session hs hc, room⟩

/-- A vault that covers several payouts makes them all. -/
theorem VaultCovers.pays {v m authority : Pubkey} {bump : UInt8} {n : Nat}
    (h : VaultCovers rt l v m authority k bump n) {dest : Role → Pubkey}
    (takes : ∀ r, TakesTokens l (dest r) m n) (apart : ∀ r, dest r ≠ v)
    (xs : List (Role × UInt64)) (hle : (xs.map fun x => x.2.toNat).sum ≤ n) :
    ∃ mid, TokensPaid rt authority k bump l (transfersTo k v dest xs) mid := by
  have total := amountOf_transfersTo k v dest xs
  obtain ⟨t, ht, hmint, howner, hcover⟩ := h.account
  have roomy : ∀ x, l.tokens x + credit x (transfersTo k v dest xs) < 2 ^ 64 := by
    refine room_of_dests (n := n) (by omega) (fun x => l.tokens_lt x) fun u hu => ?_
    obtain ⟨b, hb, _, hroom⟩ := takes u.role
    rw [(mem_transfersTo hu).2, Ledger.tokens_of_data hb]
    exact hroom
  have rights : VaultRights rt l authority k bump (transfersTo k v dest xs) := by
    refine ⟨fun _ _ _ => h.sign, fun u hu _ => ?_⟩
    obtain ⟨b, hb, hbm, _⟩ := takes u.role
    rw [(mem_transfersTo hu).1, (mem_transfersTo hu).2]
    exact ⟨t, b, ht, hb, hmint.trans hbm.symm, howner⟩
  refine TokensPaid.exists rights (fun u hu => (mem_transfersTo hu).1) (fun u hu _ => ?_)
    (fun a ha => ?_) fun x b _ hb => ?_
  · rw [(mem_transfersTo hu).2]
    exact apart u.role
  · obtain rfl : t = a := by simpa [ht] using ha
    omega
  · have hx := roomy x
    rwa [Ledger.tokens_of_data hb] at hx

end

end SolMesh
