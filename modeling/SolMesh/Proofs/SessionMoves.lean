import SolMesh.Model.Program
import SolMesh.Proofs.SignatureBinding
import SolMesh.Support.Channel

namespace SolMesh
open Outcome Words Runs

/-- The transaction presents both parties' signatures over these exact bytes,
which are for this session, and the precompile let it pass. -/
structure CoSigned (rt : Runtime) (ctx : TxContext) (k : Pubkey) (s : Session)
    (u : StateUpdate) : Prop where
  domain : u.domain = stateDomain
  session : u.session = k
  precompiled : ctx.precompiled rt = true
  provider : Presented rt ctx s.provider u.toMessageBytes
  consumer : Presented rt ctx s.consumer u.toMessageBytes

/-- The agreement the consumer opened the session with. -/
structure Session.SameTerms (s s' : Session) : Prop where
  node : s'.node = s.node
  asset : s'.asset = s.asset
  provider : s'.provider = s.provider
  consumer : s'.consumer = s.consumer
  mint : s'.mint = s.mint
  deposited : s'.deposited = s.deposited
  ratePerUnit : s'.ratePerUnit = s.ratePerUnit
  openedAt : s'.openedAt = s.openedAt
  expiry : s'.expiry = s.expiry
  sessionSeed : s'.sessionSeed = s.sessionSeed
  vaultBump : s'.vaultBump = s.vaultBump
  bump : s'.bump = s.bump

theorem Session.SameTerms.trans {s s' s'' : Session} (h : s.SameTerms s')
    (h' : s'.SameTerms s'') : s.SameTerms s'' :=
  ⟨h'.node.trans h.node, h'.asset.trans h.asset, h'.provider.trans h.provider,
    h'.consumer.trans h.consumer, h'.mint.trans h.mint, h'.deposited.trans h.deposited,
    h'.ratePerUnit.trans h.ratePerUnit, h'.openedAt.trans h.openedAt, h'.expiry.trans h.expiry,
    h'.sessionSeed.trans h.sessionSeed, h'.vaultBump.trans h.vaultBump, h'.bump.trans h.bump⟩

theorem CoSigned.of_terms {rt : Runtime} {ctx : TxContext} {k : Pubkey} {s s' : Session}
    {u : StateUpdate} (h : CoSigned rt ctx k s u) (ht : s.SameTerms s') :
    CoSigned rt ctx k s' u :=
  ⟨h.domain, h.session, h.precompiled, ht.provider ▸ h.provider, ht.consumer ▸ h.consumer⟩

/-- What every instruction that takes an update demands of it. -/
structure Accepts (rt : Runtime) (k : Pubkey) (s : Session) (u : StateUpdate) : Prop where
  newer : s.lastNonce.toNat < u.nonce.toNat
  keeps : s.settledToProvider.toNat ≤ u.owedToProvider.toNat
  covered : u.owedToProvider.toNat ≤ s.deposited.toNat
  cosigned : ∃ ctx, CoSigned rt ctx k s u

theorem verifyCosignedState_ok {ctx : TxContext} {s : Session} {k : Pubkey} {u : StateUpdate} :
    verifyCosignedState ctx s k u = .ok () ↔
      u.domain = stateDomain ∧ u.session = k ∧
      u.owedToProvider.toNat ≤ s.deposited.toNat ∧
      s.settledToProvider.toNat ≤ u.owedToProvider.toNat ∧
      verifyEd25519Signature ctx s.provider u.toMessageBytes = .ok () ∧
      verifyEd25519Signature ctx s.consumer u.toMessageBytes = .ok () := by
  simp only [verifyCosignedState, bind_ok, require_ok, StateUpdate.hasValidDomain,
    decide_eq_true_eq, UInt64.le_iff_toNat_le]
  constructor
  · intro h
    obtain ⟨_, hd, _, _, _, hk, _, hle, _, hge, _, hp, hc⟩ := h
    exact ⟨hd, hk, hle, hge, hp, hc⟩
  · intro h
    obtain ⟨hd, hk, hle, hge, hp, hc⟩ := h
    exact ⟨(), hd, (), hd, (), hk, (), hle, (), hge, (), hp, hc⟩

theorem cosigned_of_verify {rt : Runtime} {ctx : TxContext} {s : Session} {k : Pubkey}
    {u : StateUpdate} (hp : ctx.precompiled rt = true)
    (h : verifyCosignedState ctx s k u = .ok ()) : CoSigned rt ctx k s u := by
  obtain ⟨hd, hk, _, _, hprov, hcons⟩ := verifyCosignedState_ok.mp h
  exact ⟨hd, hk, hp, verifyEd25519Signature_presented hp hprov,
    verifyEd25519Signature_presented hp hcons⟩

theorem accepts_of_verify {rt : Runtime} {ctx : TxContext} {s : Session} {k : Pubkey}
    {u : StateUpdate} (hp : ctx.precompiled rt = true) (hn : s.lastNonce < u.nonce)
    (h : verifyCosignedState ctx s k u = .ok ()) : Accepts rt k s u := by
  obtain ⟨_, _, hle, hge, _⟩ := verifyCosignedState_ok.mp h
  exact ⟨UInt64.lt_iff_toNat_lt.mp hn, hge, hle, ctx, cosigned_of_verify hp h⟩

instance : Channel.Message StateUpdate where
  nonce u := u.nonce.toNat
  owed u := u.owedToProvider.toNat

abbrev SessionMove := Channel.Move StateUpdate

/-- What an instruction can do to the record of a session, with the money that
leaves the escrow on that occasion. -/
inductive Session.Step (rt : Runtime) (k : Pubkey) : Session → SessionMove → Session → Prop
  | checkpoint {s : Session} {u : StateUpdate} {payout : Nat} (status : s.status = .open)
      (accepts : Accepts rt k s u)
      (paid : payout + s.settledToProvider.toNat = u.owedToProvider.toNat) :
      Session.Step rt k s (.checkpoint u payout) (s.settle u true)
  | settle {s : Session} {u : StateUpdate} {payout refund : Nat} (status : s.status = .open)
      (accepts : Accepts rt k s u)
      (paid : payout + s.settledToProvider.toNat = u.owedToProvider.toNat)
      (rest : refund + u.owedToProvider.toNat = s.deposited.toNat) :
      Session.Step rt k s (.settle u payout refund) (s.settle u false)
  | initiate {s : Session} {u : StateUpdate} (deadline : Int64) (status : s.status = .open)
      (accepts : Accepts rt k s u) :
      Session.Step rt k s (.initiate u deadline.toInt)
        { s.propose u with status := .closing, challengeDeadline := deadline }
  | challenge {s : Session} {u : StateUpdate} (now : Int64) (status : s.status = .closing)
      (early : now.toInt ≤ s.challengeDeadline.toInt) (accepts : Accepts rt k s u) :
      Session.Step rt k s (.challenge u now.toInt) (s.propose u)
  | finalize {s : Session} {payout refund : Nat} (now : Int64) (status : s.status = .closing)
      (late : s.challengeDeadline.toInt < now.toInt)
      (paid : payout + s.settledToProvider.toNat = s.pendingPayout.toNat)
      (rest : refund + s.pendingPayout.toNat = s.deposited.toNat) :
      Session.Step rt k s (.finalize now.toInt payout refund)
        { s with settledToProvider := s.pendingPayout, status := .settled }
  | cancel {s : Session} {refund : Nat} (status : s.status = .open) (unused : s.lastNonce = 0)
      (rest : refund + s.settledToProvider.toNat = s.deposited.toNat) :
      Session.Step rt k s (.reclaim refund) { s with status := .cancelled }
  | expire {s : Session} {refund : Nat} (now : Int64) (status : s.status = .open)
      (late : s.expiry.toInt < now.toInt)
      (rest : refund + s.settledToProvider.toNat = s.deposited.toNat) :
      Session.Step rt k s (.reclaim refund) { s with status := .expired }

namespace Session

variable {rt : Runtime} {k : Pubkey} {s s' : Session} {mv : SessionMove}

theorem Step.terms (h : Session.Step rt k s mv s') : SameTerms s s' := by
  cases h <;> constructor <;> rfl

theorem Step.active (h : Session.Step rt k s mv s') : s.status.terminal = false := by
  cases h with
  | checkpoint status | settle status | initiate _ status | cancel status | expire _ status
  | challenge _ status | finalize _ status => simp [status, SessionStatus.terminal]

/-- A step takes only updates that pass the checks on them. -/
theorem Step.accepts (h : Session.Step rt k s mv s') {u : StateUpdate}
    (hu : mv.message? = some u) : Accepts rt k s u := by
  cases h with
  | checkpoint _ accepts | settle _ accepts | initiate _ _ accepts | challenge _ _ _ accepts =>
    cases hu
    exact accepts
  | finalize | cancel | expire => cases hu

theorem Step.finalized (h : Session.Step rt k s mv s') {time : Int} {payout refund : Nat}
    (hm : mv = .finalize time payout refund) :
    s.challengeDeadline.toInt < time ∧
      payout + s.settledToProvider.toNat = s.pendingPayout.toNat ∧
      refund + s.pendingPayout.toNat = s.deposited.toNat ∧
      s' = { s with settledToProvider := s.pendingPayout, status := .settled } := by
  cases h with
  | finalize now status late paid rest =>
    cases hm
    exact ⟨late, paid, rest, rfl⟩
  | _ => cases hm

theorem Step.cancelled (h : Session.Step rt k s mv s') (hs : s'.status = .cancelled) :
    s.lastNonce = 0 ∧ mv.refund + s.settledToProvider.toNat = s.deposited.toNat ∧
      s' = { s with status := .cancelled } := by
  cases h with
  | cancel status unused rest => exact ⟨unused, rest, rfl⟩
  | checkpoint status => simp [Session.settle, status] at hs
  | challenge now status => simp [Session.propose, status] at hs
  | settle | initiate | finalize | expire => cases hs

/-- What is settled grows by what the step pays out. -/
theorem Step.settled_grows (h : Session.Step rt k s mv s') :
    s'.settledToProvider.toNat = s.settledToProvider.toNat + mv.payout := by
  cases h with
  | checkpoint _ _ paid | settle _ _ paid | finalize _ _ _ paid =>
    simp only [Session.settle, Channel.Move.payout]
    omega
  | initiate | challenge | cancel | expire => rfl

/-- The money a step pays out is what the escrow then owes less. A step that
closes the session pays all of it. -/
theorem Step.outflow (h : Session.Step rt k s mv s') (hle : s.settledToProvider ≤ s.deposited) :
    mv.payout + mv.refund ≤ s.unsettled ∧
      (s'.status.terminal = false → mv.payout + mv.refund + s'.unsettled = s.unsettled) ∧
      (s'.status.terminal = true → mv.payout + mv.refund = s.unsettled) := by
  rw [UInt64.le_iff_toNat_le] at hle
  cases h with
  | checkpoint status accepts paid =>
    have hc := accepts.covered
    simp only [Channel.Move.payout, Channel.Move.refund, unsettled, Session.settle, if_true,
      status, SessionStatus.terminal, true_implies, Bool.false_eq_true, false_implies, and_true]
    omega
  | settle status accepts paid rest =>
    simp only [Channel.Move.payout, Channel.Move.refund, unsettled, Session.settle,
      SessionStatus.terminal, Bool.false_eq_true, if_false, Bool.true_eq_false, false_implies,
      true_implies, true_and]
    omega
  | initiate deadline status accepts =>
    simp [Channel.Move.payout, Channel.Move.refund, unsettled, Session.propose,
      SessionStatus.terminal]
  | challenge now status early accepts =>
    simp [Channel.Move.payout, Channel.Move.refund, unsettled, Session.propose, status,
      SessionStatus.terminal]
  | finalize now status late paid rest =>
    simp only [Channel.Move.payout, Channel.Move.refund, unsettled, SessionStatus.terminal,
      Bool.true_eq_false, false_implies, true_implies, true_and]
    omega
  | cancel status unused rest | expire now status late rest =>
    simp only [Channel.Move.payout, Channel.Move.refund, unsettled, SessionStatus.terminal,
      Bool.true_eq_false, false_implies, true_implies, true_and]
    omega

end Session

def SessionStatus.phase : SessionStatus → Channel.Phase
  | .open => .open
  | .closing => .closing
  | .settled | .cancelled | .expired => .closed

/-- The record of a session is a channel. -/
structure Session.Matches (s : Session) (a : Channel.State StateUpdate) : Prop where
  deposit : a.deposit = s.deposited.toNat
  settled : a.settled = s.settledToProvider.toNat
  phase : a.phase = s.status.phase
  deadline : a.deadline = s.challengeDeadline.toInt
  nonce : a.nonce = s.lastNonce.toNat
  units : a.last.elim 0 StateUpdate.unitsConsumed = s.pendingUnits
  pending : s.status = .closing → a.due = s.pendingPayout.toNat
  unused : a.last = none → s.pendingPayout = 0
  cancelled : s.status = .cancelled → a.last = none

namespace Session.Matches

variable {rt : Runtime} {k : Pubkey} {s s' : Session} {a : Channel.State StateUpdate}

theorem admits (h : s.Matches a) {u : StateUpdate} (ha : Accepts rt k s u) : a.Admits u :=
  ⟨h.nonce ▸ ha.newer, h.settled ▸ ha.keeps, h.deposit ▸ ha.covered⟩

theorem isOpen (h : s.Matches a) (hs : s.status = .open) : a.phase = .open := by
  rw [h.phase, hs]
  rfl

theorem isClosing (h : s.Matches a) (hs : s.status = .closing) : a.phase = .closing := by
  rw [h.phase, hs]
  rfl

theorem last_of_nonce (h : s.Matches a) (hs : 0 < s.lastNonce.toNat) :
    ∃ u, a.last = some u ∧ u.nonce = s.lastNonce := by
  have hn := h.nonce
  cases hl : a.last with
  | none =>
    rw [Channel.State.nonce_none hl] at hn
    omega
  | some u =>
    rw [Channel.State.nonce_some hl] at hn
    exact ⟨u, rfl, UInt64.toNat_inj.mp hn⟩

/-- Messages have positive nonces, so a record without one has nonce 0. -/
theorem last_none (h : s.Matches a) (hpos : ∀ u, a.last = some u → 0 < u.nonce.toNat)
    (hs : s.lastNonce = 0) : a.last = none := by
  have hn := h.nonce
  cases hl : a.last with
  | none => rfl
  | some u =>
    have hp := hpos u hl
    rw [Channel.State.nonce_some hl, hs] at hn
    exact absurd hn hp.ne'

/-- Each step on the record is a step of the channel. -/
theorem step (h : s.Matches a) {mv : SessionMove}
    (hpos : ∀ u, a.last = some u → 0 < u.nonce.toNat) (hstep : Session.Step rt k s mv s') :
    ∃ b, Channel.Step a mv b ∧ s'.Matches b := by
  cases hstep with
  | checkpoint status accepts paid =>
    refine ⟨_, .checkpoint (h.isOpen status) (h.admits accepts) (h.settled ▸ paid), ?_⟩
    exact
      { deposit := h.deposit, settled := rfl, phase := h.phase, deadline := h.deadline
        nonce := rfl, units := rfl
        pending := fun hc => by simp [Session.settle, status] at hc
        unused := fun hn => by cases hn
        cancelled := fun hc => by simp [Session.settle, status] at hc }
  | settle status accepts paid rest =>
    refine ⟨_, .settle (h.isOpen status) (h.admits accepts) (h.settled ▸ paid)
      (h.deposit ▸ rest), ?_⟩
    exact
      { deposit := h.deposit, settled := rfl, phase := rfl, deadline := h.deadline
        nonce := rfl, units := rfl
        pending := fun hc => by cases hc
        unused := fun hn => by cases hn
        cancelled := fun hc => by cases hc }
  | initiate deadline status accepts =>
    refine ⟨_, .initiate (h.isOpen status) (h.admits accepts), ?_⟩
    exact
      { deposit := h.deposit, settled := h.settled, phase := rfl, deadline := rfl
        nonce := rfl, units := rfl
        pending := fun _ => rfl
        unused := fun hn => by cases hn
        cancelled := fun hc => by cases hc }
  | challenge now status early accepts =>
    refine ⟨_, .challenge (h.isClosing status) (h.admits accepts) (h.deadline ▸ early), ?_⟩
    exact
      { deposit := h.deposit, settled := h.settled, phase := h.phase, deadline := h.deadline
        nonce := rfl, units := rfl
        pending := fun _ => rfl
        unused := fun hn => by cases hn
        cancelled := fun hc => by simp [Session.propose, status] at hc }
  | finalize now status late paid rest =>
    have hdue := h.pending status
    refine ⟨_, .finalize (h.isClosing status) (h.deadline ▸ late) ?_ ?_, ?_⟩
    · rw [h.settled, hdue, paid]
    · rw [h.deposit, hdue, rest]
    exact
      { deposit := h.deposit, settled := hdue, phase := rfl, deadline := h.deadline
        nonce := h.nonce, units := h.units
        pending := fun hc => by cases hc
        unused := h.unused
        cancelled := fun hc => by cases hc }
  | cancel status unused rest =>
    refine ⟨_, .reclaim (h.isOpen status) (by rw [h.settled, h.deposit, rest]), ?_⟩
    exact
      { deposit := h.deposit, settled := h.settled, phase := rfl, deadline := h.deadline
        nonce := h.nonce, units := h.units
        pending := fun hc => by cases hc
        unused := h.unused
        cancelled := fun _ => h.last_none hpos unused }
  | expire now status late rest =>
    refine ⟨_, .reclaim (h.isOpen status) (by rw [h.settled, h.deposit, rest]), ?_⟩
    exact
      { deposit := h.deposit, settled := h.settled, phase := rfl, deadline := h.deadline
        nonce := h.nonce, units := h.units
        pending := fun hc => by cases hc
        unused := h.unused
        cancelled := fun hc => by cases hc }

end Session.Matches

end SolMesh
