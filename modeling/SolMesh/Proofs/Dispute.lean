import Mathlib.Data.List.Nodup
import SolMesh.Model.Localnet
import SolMesh.Proofs.Attempts
import SolMesh.Proofs.Conservation

namespace SolMesh
open Outcome Words Runs

/-- A dispute instruction is called with the session's own accounts. -/
structure UnilateralClose.Own {rt : Runtime} (l : Ledger) (k : Pubkey) (s : Session)
    (cfg : Config) (a : UnilateralClose rt) : Prop where
  config : (l a.config).data = .config cfg
  session : a.session = k
  provider : a.provider = s.provider
  consumer : a.consumer = s.consumer
  sysvar : a.instructionsSysvar = ixSysvarId

/-- The transaction carries both parties' signatures over the update. -/
structure Presents (ctx : TxContext) (k : Pubkey) (s : Session) (u : StateUpdate) : Prop where
  domain : u.domain = stateDomain
  session : u.session = k
  provider : verifyEd25519Signature ctx s.provider u.toMessageBytes = .ok ()
  consumer : verifyEd25519Signature ctx s.consumer u.toMessageBytes = .ok ()

/-- The update is newer than the session's record and within its bounds. -/
structure Admissible (s : Session) (u : StateUpdate) : Prop where
  newer : s.lastNonce < u.nonce
  keeps : s.settledToProvider ≤ u.owedToProvider
  covered : u.owedToProvider ≤ s.deposited

theorem UnilateralClose.Own.loaded {rt : Runtime} {l : Ledger} {k : Pubkey} {s s' : Session}
    {cfg : Config} {a : UnilateralClose rt} (h : a.Own l k s cfg) (hi : Inv rt l)
    (hs : (l k).data = .session s') (ht : s.SameTerms s') : a.load rt l = .ok (cfg, s') := by
  have hok := hi.session k s' hs
  have haddress := create_of_find (hi.config _ cfg h.config).1.address
  refine UnilateralClose.load_ok.mpr
    ⟨⟨h.config, haddress, h.session ▸ hs, ?_⟩, ?_, ?_, h.sysvar⟩
  · rw [h.session]
    exact create_of_find hok.address
  · rw [ht.provider, h.provider]
  · rw [ht.consumer, h.consumer]

theorem Presents.verified {ctx : TxContext} {k : Pubkey} {s s' : Session} {u : StateUpdate}
    (h : Presents ctx k s u) (ht : s.SameTerms s') (hle : u.owedToProvider ≤ s'.deposited)
    (hge : s'.settledToProvider ≤ u.owedToProvider) :
    verifyCosignedState ctx s' k u = .ok () := by
  refine verifyCosignedState_ok.mpr ⟨h.domain, h.session, UInt64.le_iff_toNat_le.mp hle,
    UInt64.le_iff_toNat_le.mp hge, ?_, ?_⟩
  · rw [ht.provider]
    exact h.provider
  · rw [ht.consumer]
    exact h.consumer

/-- A party's first update starts the window of that moment. -/
theorem initiateHandler_accepts {rt : Runtime} {ctx : TxContext} {l : Ledger} {k : Pubkey}
    {s : Session} {cfg : Config} {a : UnilateralClose rt} {u : StateUpdate} (hi : Inv rt l)
    (hs : (l k).data = .session s) (hopen : s.status = .open) (own : a.Own l k s cfg)
    (party : a.caller.key = s.provider ∨ a.caller.key = s.consumer) (presents : Presents ctx k s u)
    (hu : Admissible s u)
    (fits : -2 ^ 63 ≤ ctx.unixTimestamp.toInt + cfg.challengeWindowSecs.toInt ∧
      ctx.unixTimestamp.toInt + cfg.challengeWindowSecs.toInt < 2 ^ 63) :
    ∃ deadline : Int64,
      deadline.toInt = ctx.unixTimestamp.toInt + cfg.challengeWindowSecs.toInt ∧
      initiateHandler rt ctx l a u = .ok (l.setData k (.session
        { s.propose u with status := .closing, challengeDeadline := deadline }), []) := by
  have terms : s.SameTerms s := by constructor <;> rfl
  have hload := own.loaded hi hs terms
  have hverify := presents.verified terms hu.covered hu.keeps
  have hdeadline : checkedAddInt ctx.unixTimestamp cfg.challengeWindowSecs =
      some (ctx.unixTimestamp + cfg.challengeWindowSecs) := if_pos fits
  refine ⟨_, checkedAddInt_some.mp hdeadline, ?_⟩
  obtain rfl := own.session
  simp only [initiateHandler, bind_ok, require_ok, okOr_ok, pure_ok]
  exact ⟨(cfg, s), hload, (), party, (), hopen, (), hu.newer, (), hverify, _, hdeadline, rfl⟩

/-- A newer update replaces the one on record while the window is open. -/
theorem challengeHandler_accepts {rt : Runtime} {ctx : TxContext} {l : Ledger} {k : Pubkey}
    {s s' : Session} {cfg : Config} {a : UnilateralClose rt} {u : StateUpdate} (hi : Inv rt l)
    (hs : (l k).data = .session s') (terms : s.SameTerms s') (closing : s'.status = .closing)
    (own : a.Own l k s cfg) (presents : Presents ctx k s u) (hu : Admissible s' u)
    (early : ctx.unixTimestamp ≤ s'.challengeDeadline) :
    challengeHandler rt ctx l a u = .ok (l.setData k (.session (s'.propose u)), []) := by
  have hload := own.loaded hi hs terms
  have hverify := presents.verified terms hu.covered hu.keeps
  obtain rfl := own.session
  simp only [challengeHandler, bind_ok, require_ok, pure_ok]
  exact ⟨(cfg, s'), hload, (), closing, (), early, (), hu.newer, (), hverify, rfl⟩

/-- Every other call on a session in dispute fails. -/
theorem Call.in_dispute {rt : Runtime} {ctx : TxContext} {c : Call rt} {l l' : Ledger}
    {ts : List Transfer} {k : Pubkey} {s : Session} (hp : ctx.precompiled rt = true)
    (h : c.exec ctx l = .ok (l', ts)) (hk : c.session? = some k) (hs : (l k).data = .session s)
    (closing : s.status = .closing) :
    ∃ s' mv, SessionCall rt ctx c l l' ts k s s' mv ∧
      ((∃ a u, c = .challenge a u ∧ ctx.unixTimestamp.toInt ≤ s.challengeDeadline.toInt) ∨
        (c.finalizes = true ∧ s.challengeDeadline.toInt < ctx.unixTimestamp.toInt ∧
          mv = .finalize ctx.unixTimestamp.toInt (earnings ts) (received .consumer ts))) := by
  rcases Call.on_session hp h hk with ⟨_, _, s₁, ho⟩ | ⟨_, s₀, s', mv, hc⟩
  · have hop := Opened.of_either ho
    simp [hop.fresh] at hs
  · obtain rfl : s = s₀ := by simpa [hc.recorded.before] using hs.symm
    refine ⟨s', mv, hc, ?_⟩
    have hmove := hc.move
    have hstep := hc.step
    generalize hn : ctx.unixTimestamp.toInt = now at hmove ⊢
    cases hstep with
    | checkpoint status | settle status | initiate _ status | cancel status
    | expire _ status => simp [status] at closing
    | challenge time status early =>
      cases c with
      | challenge a v =>
        simp only [Call.move, hn, Option.some.injEq, Channel.Move.challenge.injEq] at hmove
        exact .inl ⟨a, v, rfl, by omega⟩
      | _ => simp [Call.move] at hmove
    | finalize time status late =>
      cases c with
      | finalizeClose a | finalizeCloseSpl a =>
        simp only [Call.move, hn, Option.some.injEq, Channel.Move.finalize.injEq] at hmove
        obtain ⟨ht, hpay, hrefund⟩ := hmove
        exact .inr ⟨rfl, by omega, by rw [ht, hpay, hrefund]⟩
      | _ => simp [Call.move] at hmove

/-- Nothing the event does is about session `k`. -/
def Elsewhere {rt : Runtime} (k : Pubkey) (x : Transition Ledger (Trial rt)) : Prop :=
  ∀ ctx c, x.label.call? = some (ctx, c) → c.session? ≠ some k

/-- The update that is submitted to `challenge` for session `k`. -/
def challengeOf {rt : Runtime} (k : Pubkey) (x : Transition Ledger (Trial rt)) :
    Option StateUpdate :=
  match x.label.call? with
  | some (_, .challenge a u) => if a.session = k then some u else none
  | _ => none

def challenges {rt : Runtime} (k : Pubkey) (tr : List (Transition Ledger (Trial rt))) :
    List StateUpdate :=
  tr.filterMap (challengeOf k)

/-- The time of each submission. -/
def clock {rt : Runtime} (tr : List (Transition Ledger (Trial rt))) : List Int :=
  tr.filterMap fun x => x.label.call?.map fun p => p.1.unixTimestamp.toInt

/-- What may happen while session `s` at `k` is in dispute until `deadline`:
submissions of signed updates in time, attempts to finalize at any time, and
whatever is not about the session. -/
inductive Turn (rt : Runtime) (k : Pubkey) (s : Session) (deadline : Int)
    (x : Transition Ledger (Trial rt)) : Prop
  | challenge (ctx : TxContext) (a : UnilateralClose rt) (u : StateUpdate) (cfg : Config)
      (call : x.label.call? = some (ctx, .challenge a u)) (own : a.Own x.before k s cfg)
      (presents : Presents ctx k s u) (early : ctx.unixTimestamp.toInt ≤ deadline)
  | finalize (ctx : TxContext) (c : Call rt) (call : x.label.call? = some (ctx, c))
      (named : c.session? = some k) (finalizes : c.finalizes = true)
  | elsewhere (elsewhere : Elsewhere k x)

/-- The event ended the dispute over session `k`. -/
def Finalizes {rt : Runtime} (k : Pubkey) (x : Transition Ledger (Trial rt)) : Prop :=
  ∃ ctx c ts, x.label = .took (.call ctx c ts) ∧ c.session? = some k ∧ c.finalizes = true

/-- The record of session `s` in a dispute that the update `top` leads. -/
structure Standing (s : Session) (top : StateUpdate) (deadline : Int) (s' : Session) : Prop where
  terms : s.SameTerms s'
  status : s'.status = .closing
  settled : s'.settledToProvider = s.settledToProvider
  deadline : s'.challengeDeadline.toInt = deadline
  nonce : s'.lastNonce = top.nonce
  payout : s'.pendingPayout = top.owedToProvider
  units : s'.pendingUnits = top.unitsConsumed

/-- The event ended the dispute after the deadline, paid the provider what
`top` owes, and gave the rest of the deposit back. -/
def PaysOut {rt : Runtime} (k : Pubkey) (s : Session) (top : StateUpdate) (deadline : Int)
    (x : Transition Ledger (Trial rt)) : Prop :=
  ∃ ctx c ts s', x.label = .took (.call ctx c ts) ∧ deadline < ctx.unixTimestamp.toInt ∧
    earnings ts + s.settledToProvider.toNat = top.owedToProvider.toNat ∧
    received .consumer ts + top.owedToProvider.toNat = s.deposited.toNat ∧
    (x.after k).data = .session s' ∧ s'.status = .settled ∧
    s'.settledToProvider = top.owedToProvider ∧ s'.lastNonce = top.nonce ∧
    s'.pendingPayout = top.owedToProvider ∧ s'.pendingUnits = top.unitsConsumed

/-- One of the updates, and none of them is newer. -/
def IsNewest (top : StateUpdate) (us : List StateUpdate) : Prop :=
  top ∈ us ∧ ∀ u ∈ us, u.nonce ≤ top.nonce

/-- Where a dispute that `top` leads has got to. -/
inductive Contested {rt : Runtime} (k : Pubkey) (s : Session) (deadline : Int)
    (top : StateUpdate) (tr : List (Transition Ledger (Trial rt))) (l : Ledger) : Prop
  | stands (s' : Session) (data : (l k).data = .session s') (standing : Standing s top deadline s')
      (quiet : ∀ x ∈ tr, ¬ Finalizes k x)
  | ended (closed : ∀ s', (l k).data = .session s' → s'.status.terminal = true)
      (final : ∃ x ∈ tr, Finalizes k x)
      (paid : ∀ x ∈ tr, Finalizes k x → PaysOut k s top deadline x)

theorem Elsewhere.not_finalizes {rt : Runtime} {k : Pubkey} {x : Transition Ledger (Trial rt)}
    (h : Elsewhere k x) : ¬ Finalizes k x := by
  intro hf
  obtain ⟨ctx, c, ts, hl, hk, _⟩ := hf
  exact h ctx c (by simp [hl, Trial.call?]) hk

theorem Elsewhere.no_challenge {rt : Runtime} {k : Pubkey} {x : Transition Ledger (Trial rt)}
    (h : Elsewhere k x) : challengeOf k x = none := by
  unfold challengeOf
  split
  · rename_i ctx a u hc
    rw [if_neg]
    intro hk
    exact h ctx _ hc (by simp [Call.session?, hk])
  · rfl

/-- What is not about the session keeps its record. -/
theorem Elsewhere.keeps {rt : Runtime} {k : Pubkey} {l l' : Ledger} {trial : Trial rt}
    (h : Elsewhere k ⟨l, trial, l'⟩) (hi : Inv rt l) (ha : Attempt rt l trial l') :
    (∀ s, (l k).data = .session s → s.status.terminal = false → (l' k).data = .session s) ∧
      ∀ s, (l' k).data = .session s → (l k).data = .session s := by
  cases ha with
  | refused => exact ⟨fun s hs _ => hs, fun s hs => hs⟩
  | took step =>
    rename_i label
    have hb : label.busy ≠ some k := by
      cases label with
      | call ctx c ts => exact h ctx c rfl
      | external | commit => simp [Label.busy]
    exact ⟨fun s hs ht => step.session_stays hi hb hs ht,
      fun s hs => (step.frame.session_back hb hs).1⟩

theorem IsNewest.newer {top u : StateUpdate} {us : List StateUpdate} (h : IsNewest top us)
    (hn : top.nonce < u.nonce) : IsNewest u (us ++ [u]) := by
  refine ⟨by simp, forall_mem_snoc (fun v hv => ?_) (UInt64.le_refl _)⟩
  have hle := UInt64.le_iff_toNat_le.mp (h.2 v hv)
  have hlt := UInt64.lt_iff_toNat_lt.mp hn
  exact UInt64.le_iff_toNat_le.mpr (by omega)

theorem IsNewest.older {top u : StateUpdate} {us : List StateUpdate} (h : IsNewest top us)
    (hn : u.nonce ≤ top.nonce) : IsNewest top (us ++ [u]) :=
  ⟨List.mem_append_left _ h.1, forall_mem_snoc h.2 hn⟩

section
variable {rt : Runtime} {l l' : Ledger} {k : Pubkey} {s s' : Session} {deadline : Int}
  {top u : StateUpdate} {ctx : TxContext} {trial : Trial rt}

/-- In time, a newer update takes the lead and an older one changes nothing. -/
theorem Standing.challenge {a : UnilateralClose rt} {cfg : Config}
    (h : Standing s top deadline s') (hi : Inv rt l) (data : (l k).data = .session s')
    (own : a.Own l k s cfg) (presents : Presents ctx k s u)
    (early : ctx.unixTimestamp.toInt ≤ deadline) (keeps : s.settledToProvider ≤ u.owedToProvider)
    (covered : u.owedToProvider ≤ s.deposited) (ha : Attempt rt l trial l')
    (call : trial.call? = some (ctx, .challenge a u)) :
    (top.nonce < u.nonce → ∃ s'', (l' k).data = .session s'' ∧ Standing s u deadline s'') ∧
      (u.nonce ≤ top.nonce → l' = l) := by
  obtain ⟨hp, hout⟩ := ha.outcome call
  constructor
  · intro hn
    have hok : (Call.challenge a u).exec ctx l =
        .ok (l.setData k (.session (s'.propose u)), []) := by
      refine challengeHandler_accepts hi data h.terms h.status own presents ⟨?_, ?_, ?_⟩ ?_
      · rw [h.nonce]
        exact hn
      · rw [h.settled]
        exact keeps
      · rw [h.terms.deposited]
        exact covered
      · exact Int64.le_iff_toInt_le.mpr (h.deadline ▸ early)
    rcases hout with ⟨ts, _, hts⟩ | ⟨_, _, e, he⟩
    · rw [hok] at hts
      cases hts
      have same : s'.SameTerms (s'.propose u) := by constructor <;> rfl
      exact ⟨s'.propose u, Ledger.setData_self _ _ _, h.terms.trans same, h.status, h.settled,
        h.deadline, rfl, rfl, rfl⟩
    · rw [hok] at he
      cases he
  · intro hn
    rcases hout with ⟨ts, _, hts⟩ | ⟨_, hl, _⟩
    · obtain ⟨s₀, he, _⟩ := challengeHandler_effect hp hts
      obtain rfl : s' = s₀ := by
        simpa [own.session, data] using he.recorded.before
      have hnewer := (he.step.accepts rfl).newer
      have hle := UInt64.le_iff_toNat_le.mp hn
      rw [h.nonce] at hnewer
      omega
    · exact hl

/-- An attempt to finalize pays by the leading update after the deadline, and
comes to nothing otherwise. -/
theorem Standing.finalize {c : Call rt} (h : Standing s top deadline s')
    (data : (l k).data = .session s') (ha : Attempt rt l trial l')
    (call : trial.call? = some (ctx, c)) (named : c.session? = some k)
    (finalizes : c.finalizes = true) :
    (l' = l ∧ ¬ Finalizes k ⟨l, trial, l'⟩) ∨
      (Finalizes k ⟨l, trial, l'⟩ ∧ PaysOut k s top deadline ⟨l, trial, l'⟩ ∧
        ∀ s'', (l' k).data = .session s'' → s''.status.terminal = true) := by
  obtain ⟨hp, ⟨ts, htook, hok⟩ | ⟨hrefused, hl, _⟩⟩ := ha.outcome call
  · right
    obtain ⟨s'', mv, hc, ⟨a, v, hcall, _⟩ | ⟨_, _, hmv⟩⟩ :=
      Call.in_dispute hp hok named data h.status
    · simp [hcall, Call.finalizes] at finalizes
    · obtain ⟨late, paid, rest, hs''⟩ := hc.step.finalized hmv
      have hafter := hc.recorded.after
      have hsettled := h.settled
      have hpayout := h.payout
      have hdeposited := h.terms.deposited
      refine ⟨⟨ctx, c, ts, htook, named, finalizes⟩,
        ⟨ctx, c, ts, s'', htook, ?_, ?_, ?_, hafter, ?_⟩, ?_⟩
      · rw [← h.deadline]
        exact late
      · rw [← hsettled, ← hpayout]
        exact paid
      · rw [← hdeposited, ← hpayout]
        exact rest
      · rw [hs'']
        exact ⟨rfl, hpayout, h.nonce, hpayout, h.units⟩
      · intro s₁ hs₁
        obtain rfl : s'' = s₁ := by simpa [hafter] using hs₁
        rw [hs'']
        rfl
  · left
    refine ⟨hl, fun hf => ?_⟩
    obtain ⟨_, _, _, he, _⟩ := hf
    rw [hrefused] at he
    cases he

/-- A session that is over takes part in nothing. -/
theorem Attempt.refused_over {c : Call rt} (ha : Attempt rt l trial l')
    (closed : ∀ s, (l k).data = .session s → s.status.terminal = true)
    (call : trial.call? = some (ctx, c)) (named : c.session? = some k)
    (opens : c.opens = false) : l' = l ∧ trial = .refused ctx c := by
  obtain ⟨hp, ⟨ts, _, hok⟩ | ⟨hrefused, hl, _⟩⟩ := ha.outcome call
  · obtain ⟨s, s', mv, hc⟩ := Call.session_call hp hok named opens
    have hactive := hc.step.active
    rw [closed s hc.recorded.before] at hactive
    cases hactive
  · exact ⟨hl, hrefused⟩

end

theorem challengeOf_call {rt : Runtime} {k : Pubkey} {l l' : Ledger} {trial : Trial rt}
    {ctx : TxContext} {a : UnilateralClose rt} {u : StateUpdate}
    (h : trial.call? = some (ctx, .challenge a u)) (hk : a.session = k) :
    challengeOf k ⟨l, trial, l'⟩ = some u := by
  simp [challengeOf, h, hk]

theorem challengeOf_finalize {rt : Runtime} {k : Pubkey} {x : Transition Ledger (Trial rt)}
    {ctx : TxContext} {c : Call rt} (h : x.label.call? = some (ctx, c))
    (hf : c.finalizes = true) : challengeOf k x = none := by
  cases c <;> simp_all [challengeOf, Call.finalizes]

theorem Finalizes.time {rt : Runtime} {k : Pubkey} {s : Session} {top : StateUpdate}
    {deadline : Int} {tr : List (Transition Ledger (Trial rt))}
    {x : Transition Ledger (Trial rt)} (hx : x ∈ tr) (h : PaysOut k s top deadline x) :
    ∃ time ∈ clock tr, deadline < time := by
  obtain ⟨ctx, c, ts, _, hl, late, _⟩ := h
  refine ⟨ctx.unixTimestamp.toInt, ?_, late⟩
  exact List.mem_filterMap.mpr ⟨x, hx, by simp [hl, Trial.call?]⟩

section
variable {rt : Runtime} {l l' : Ledger} {k : Pubkey} {s : Session} {deadline : Int}
  {top : StateUpdate} {tr : List (Transition Ledger (Trial rt))} {trial : Trial rt}

/-- An event that neither challenges nor finalizes keeps what has been reached. -/
theorem Contested.elsewhere (h : Contested k s deadline top tr l) (hi : Inv rt l)
    (ha : Attempt rt l trial l') (he : Elsewhere k ⟨l, trial, l'⟩) :
    Contested k s deadline top (tr ++ [⟨l, trial, l'⟩]) l' := by
  obtain ⟨stays, back⟩ := he.keeps hi ha
  have hno := he.not_finalizes
  cases h with
  | stands s' data standing quiet =>
    have data' := stays s' data (by simp [standing.status, SessionStatus.terminal])
    exact .stands s' data' standing (forall_mem_snoc quiet hno)
  | ended closed final paid =>
    obtain ⟨x, hx, hf⟩ := final
    exact .ended (fun s' hs' => closed s' (back s' hs')) ⟨x, List.mem_append_left _ hx, hf⟩
      (forall_mem_snoc paid fun hfy => absurd hfy hno)

theorem Contested.finalize {ctx : TxContext} {c : Call rt} (h : Contested k s deadline top tr l)
    (ha : Attempt rt l trial l') (call : trial.call? = some (ctx, c))
    (named : c.session? = some k) (finalizes : c.finalizes = true) :
    Contested k s deadline top (tr ++ [⟨l, trial, l'⟩]) l' := by
  have hopens : c.opens = false := by
    cases c <;> simp_all [Call.finalizes, Call.opens]
  cases h with
  | stands s' data standing quiet =>
    rcases standing.finalize data ha call named finalizes with ⟨hl, hno⟩ | ⟨hf, hpays, hclosed⟩
    · exact .stands s' (hl ▸ data) standing (forall_mem_snoc quiet hno)
    · exact .ended hclosed ⟨⟨l, trial, l'⟩, by simp, hf⟩
        (forall_mem_snoc (fun x hx hfx => absurd hfx (quiet x hx)) fun _ => hpays)
  | ended closed final paid =>
    obtain ⟨hl, hrefused⟩ := ha.refused_over closed call named hopens
    obtain ⟨x, hx, hf⟩ := final
    refine .ended (hl ▸ closed) ⟨x, List.mem_append_left _ hx, hf⟩
      (forall_mem_snoc paid fun hfy => ?_)
    obtain ⟨_, _, _, he, _⟩ := hfy
    rw [hrefused] at he
    cases he

end

/-- However the submissions are ordered, the newest of them leads the dispute,
and pays when the dispute ends. -/
theorem contest_run {rt : Runtime} {l₂ l : Ledger} {k : Pubkey} {s s₂ : Session}
    {deadline : Int} {u₀ : StateUpdate} {tr : List (Transition Ledger (Trial rt))}
    (hi : Inv rt l₂) (data : (l₂ k).data = .session s₂) (standing : Standing s u₀ deadline s₂)
    (run : Run (Attempt rt) l₂ tr l) (turns : ∀ x ∈ tr, Turn rt k s deadline x)
    (bounds : ∀ u ∈ challenges k tr, s.settledToProvider ≤ u.owedToProvider ∧
      u.owedToProvider ≤ s.deposited)
    (ordered : (clock tr).Pairwise (· ≤ ·)) :
    Inv rt l ∧ ∃ top, IsNewest top (u₀ :: challenges k tr) ∧ Contested k s deadline top tr l := by
  induction run with
  | nil =>
    refine ⟨hi, u₀, ⟨by simp, fun u hu => ?_⟩, .stands s₂ data standing (by simp)⟩
    rw [List.mem_singleton.mp hu]
    exact UInt64.le_refl _
  | @snoc t l' tr trial run last ih =>
    have hsplit : challenges k (tr ++ [⟨t, trial, l'⟩]) =
        challenges k tr ++ (challengeOf k ⟨t, trial, l'⟩).toList := by
      cases h : challengeOf k ⟨t, trial, l'⟩ <;> simp [challenges, h]
    have hclock : clock (tr ++ [⟨t, trial, l'⟩]) = clock tr ++ clock [⟨t, trial, l'⟩] := by
      simp [clock, List.filterMap_append]
    rw [hclock, List.pairwise_append] at ordered
    obtain ⟨before, _, later⟩ := ordered
    rw [hsplit] at bounds
    obtain ⟨hinv, top, htop, hcontest⟩ := ih (fun x hx => turns x (List.mem_append_left _ hx))
      (fun u hu => bounds u (List.mem_append_left _ hu)) before
    refine ⟨last.inv hinv, ?_⟩
    rw [hsplit]
    cases turns ⟨t, trial, l'⟩ (by simp) with
    | elsewhere he =>
      rw [he.no_challenge]
      exact ⟨top, by simpa using htop, hcontest.elsewhere hinv last he⟩
    | finalize ctx c call named finalizes =>
      rw [challengeOf_finalize call finalizes]
      exact ⟨top, by simpa using htop, hcontest.finalize last call named finalizes⟩
    | challenge ctx a u cfg call own presents early =>
      have hu : challengeOf k ⟨t, trial, l'⟩ = some u := challengeOf_call call own.session
      rw [hu] at bounds ⊢
      obtain ⟨hkeeps, hcovered⟩ := bounds u (by simp)
      cases hcontest with
      | stands s' data standing quiet =>
        obtain ⟨leads, trails⟩ := standing.challenge hinv data own presents early hkeeps hcovered
          last call
        have hquiet : ∀ x ∈ tr ++ [⟨t, trial, l'⟩], ¬ Finalizes k x := by
          refine forall_mem_snoc quiet fun hf => ?_
          obtain ⟨_, c, ts, he, _, hfin⟩ := hf
          obtain rfl : trial = _ := he
          cases call
          cases hfin
        rcases Nat.lt_or_ge top.nonce.toNat u.nonce.toNat with hn | hn
        · have hn' := UInt64.lt_iff_toNat_lt.mpr hn
          obtain ⟨s'', data', standing'⟩ := leads hn'
          exact ⟨u, htop.newer hn', .stands s'' data' standing' hquiet⟩
        · have hn' := UInt64.le_iff_toNat_le.mpr hn
          exact ⟨top, htop.older hn', .stands s' (trails hn' ▸ data) standing hquiet⟩
      | ended closed final paid =>
        -- the deadline has passed, and time does not go back
        obtain ⟨x, hx, hf⟩ := final
        obtain ⟨time, htime, late⟩ := Finalizes.time hx (paid x hx hf)
        have hle := later time htime ctx.unixTimestamp.toInt (by simp [clock, call])
        omega

theorem IsNewest.unique {top top' : StateUpdate} {us : List StateUpdate} (h : IsNewest top us)
    (h' : IsNewest top' us) (distinct : (us.map StateUpdate.nonce).Nodup) : top = top' := by
  have hle := UInt64.le_iff_toNat_le.mp (h.2 top' h'.1)
  have hge := UInt64.le_iff_toNat_le.mp (h'.2 top h.1)
  exact List.inj_on_of_nodup_map distinct h.1 h'.1 (UInt64.toNat_inj.mp (by omega))

/-- Until it is disputed, an open session is left alone by what goes on elsewhere. -/
theorem waiting_run {rt : Runtime} {l₀ l : Ledger} {k : Pubkey} {s : Session}
    {tr : List (Transition Ledger (Trial rt))} (hi : Inv rt l₀) (hs : (l₀ k).data = .session s)
    (active : s.status.terminal = false) (run : Run (Attempt rt) l₀ tr l)
    (others : ∀ x ∈ tr, Elsewhere k x) : Inv rt l ∧ (l k).data = .session s := by
  induction run with
  | nil => exact ⟨hi, hs⟩
  | snoc run last ih =>
    obtain ⟨hinv, hdata⟩ := ih fun x hx => others x (List.mem_append_left _ hx)
    obtain ⟨stays, _⟩ := (others _ (by simp)).keeps hinv last
    exact ⟨last.inv hinv, stays s hdata active⟩

/-- A set of updates is submitted in some order, the first to open a dispute
and the others to challenge it. The newest of them decides the dispute, which
cannot be finalized before its deadline nor challenged after it. -/
theorem highest_nonce_wins {rt : Runtime} {start l₀ l₁ l₂ l₃ : Ledger} {tr₀ : History rt}
    {before after : List (Transition Ledger (Trial rt))} {trial : Trial rt}
    (genesis : Genesis start) (reached : Run (Step rt) start tr₀ l₀) (k : Pubkey) (s : Session)
    (hs : (l₀ k).data = .session s) (hopen : s.status = .open)
    (waiting : Run (Attempt rt) l₀ before l₁) (others : ∀ x ∈ before, Elsewhere k x)
    (ctx : TxContext) (a : UnilateralClose rt) (u₀ : StateUpdate) (cfg : Config)
    (call : trial.call? = some (ctx, .initiateUnilateralClose a u₀)) (own : a.Own l₁ k s cfg)
    (party : a.caller.key = s.provider ∨ a.caller.key = s.consumer) (presents : Presents ctx k s u₀)
    (fits : -2 ^ 63 ≤ ctx.unixTimestamp.toInt + cfg.challengeWindowSecs.toInt ∧
      ctx.unixTimestamp.toInt + cfg.challengeWindowSecs.toInt < 2 ^ 63)
    (initiate : Attempt rt l₁ trial l₂) (dispute : Run (Attempt rt) l₂ after l₃)
    (turns : ∀ x ∈ after,
      Turn rt k s (ctx.unixTimestamp.toInt + cfg.challengeWindowSecs.toInt) x)
    (ordered : (clock after).Pairwise (· ≤ ·)) (M : List StateUpdate)
    (submitted : (u₀ :: challenges k after).Perm M) (admissible : ∀ u ∈ M, Admissible s u)
    (distinct : (M.map StateUpdate.nonce).Nodup) (top : StateUpdate)
    (newest : IsNewest top M) :
    ((∀ x ∈ after, ¬ Finalizes k x) → ∃ s', (l₃ k).data = .session s' ∧
        Standing s top (ctx.unixTimestamp.toInt + cfg.challengeWindowSecs.toInt) s' ∧
        ∀ (ctx' : TxContext) (c : Call rt) (r : Effect), ctx'.precompiled rt = true →
          c.session? = some k → c.exec ctx' l₃ = .ok r →
          ((∃ a u, c = .challenge a u) ∧ ctx'.unixTimestamp.toInt ≤
              ctx.unixTimestamp.toInt + cfg.challengeWindowSecs.toInt) ∨
            (c.finalizes = true ∧ ctx.unixTimestamp.toInt + cfg.challengeWindowSecs.toInt <
              ctx'.unixTimestamp.toInt)) ∧
      ∀ x ∈ after, Finalizes k x →
        PaysOut k s top (ctx.unixTimestamp.toInt + cfg.challengeWindowSecs.toInt) x := by
  obtain ⟨hi, hs₁⟩ := waiting_run (run_inv genesis reached) hs
    (by simp [hopen, SessionStatus.terminal]) waiting others
  have hu₀ := admissible u₀ (submitted.subset (by simp))
  obtain ⟨deadline, hdeadline, hok⟩ :=
    initiateHandler_accepts hi hs₁ hopen own party presents hu₀ fits
  have hl₂ : l₂ = l₁.setData k (.session
      { s.propose u₀ with status := .closing, challengeDeadline := deadline }) := by
    obtain ⟨_, ⟨ts, _, hts⟩ | ⟨_, _, e, he⟩⟩ := initiate.outcome call
    · cases hok.symm.trans hts
      rfl
    · cases hok.symm.trans he
  have standing : Standing s u₀ (ctx.unixTimestamp.toInt + cfg.challengeWindowSecs.toInt)
      { s.propose u₀ with status := .closing, challengeDeadline := deadline } :=
    ⟨by constructor <;> rfl, rfl, rfl, hdeadline, rfl, rfl, rfl⟩
  have bounds : ∀ u ∈ challenges k after, s.settledToProvider ≤ u.owedToProvider ∧
      u.owedToProvider ≤ s.deposited := by
    intro u hu
    have := admissible u (submitted.subset (List.mem_cons_of_mem _ hu))
    exact ⟨this.keeps, this.covered⟩
  obtain ⟨_, top', htop', hcontest⟩ := contest_run (initiate.inv hi)
    (hl₂ ▸ Ledger.setData_self _ _ _) standing dispute turns bounds ordered
  have hnewest : IsNewest top' M :=
    ⟨submitted.subset htop'.1, fun u hu => htop'.2 u (submitted.symm.subset hu)⟩
  obtain rfl := hnewest.unique newest distinct
  cases hcontest with
  | stands s' data standing' quiet =>
    refine ⟨fun _ => ⟨s', data, standing', ?_⟩, fun x hx hf => absurd hf (quiet x hx)⟩
    intro ctx' c r hp hk hr
    obtain ⟨_, _, _, ⟨a', v, hc, early⟩ | ⟨hfin, late, _⟩⟩ :=
      Call.in_dispute hp hr hk data standing'.status
    · exact .inl ⟨⟨a', v, hc⟩, standing'.deadline ▸ early⟩
    · exact .inr ⟨hfin, standing'.deadline ▸ late⟩
  | ended closed final paid =>
    obtain ⟨x, hx, hf⟩ := final
    exact ⟨fun hquiet => absurd hf (hquiet x hx), paid⟩

section
open Localnet Transaction

/-- The context of a call behind the signatures over the update it carries. -/
def cosignedContext (now : Int64) (u : StateUpdate) : TxContext :=
  ⟨[⟨ed25519ProgramId, ed25519Data provider.key.toList u.toMessageBytes⟩,
    ⟨ed25519ProgramId, ed25519Data consumer.key.toList u.toMessageBytes⟩,
    ⟨programId, []⟩], 2, now⟩

def second : StateUpdate := update 7 2 400000 1500
def first : StateUpdate := update 7 1 300000 1000

/-- The provider disputes by the second update. -/
def disputedBySecond : Ledger :=
  Call.submit (cosignedContext 5 second) freshSession.1
    (.initiateUnilateralClose (closeAccounts 7 provider) second : Call Localnet.rt)

/-- In the last second of the window the consumer submits the first one. -/
def challengedByFirst : Ledger :=
  Call.submit (cosignedContext 8 first) disputedBySecond
    (.challenge (closeAccounts 7 consumer) first : Call Localnet.rt)

theorem highest_nonce_wins_disputed : ∃ s', (challengedByFirst (session 7)).data = .session s' ∧
    s'.lastNonce = 2 ∧ s'.pendingPayout = 400000 ∧ s'.challengeDeadline.toInt = 8 := by
  have reached : Run (Step Localnet.rt) Localnet.start freshSession.2 freshSession.1 :=
    submit_run _ _
  obtain ⟨opening, hopening, initiate⟩ := Attempt.submitted
    (show (cosignedContext 5 second).precompiled Localnet.rt = true by decide +kernel)
    freshSession.1 (.initiateUnilateralClose (closeAccounts 7 provider) second)
  obtain ⟨trial, htrial, challenge⟩ := Attempt.submitted
    (show (cosignedContext 8 first).precompiled Localnet.rt = true by decide +kernel)
    disputedBySecond (.challenge (closeAccounts 7 consumer) first)
  have dispute : Run (Attempt Localnet.rt) disputedBySecond
      [⟨disputedBySecond, trial, challengedByFirst⟩] challengedByFirst := Run.single challenge
  have data : ((freshSession.1) config).data = .config deployedConfig := by decide +kernel
  have data' : (disputedBySecond config).data = .config deployedConfig := by decide +kernel
  have quiet : ∀ x ∈ [(⟨disputedBySecond, trial, challengedByFirst⟩ :
      Transition Ledger (Trial Localnet.rt))], ¬ Finalizes (session 7) x := by
    intro x hx hf
    obtain rfl := List.mem_singleton.mp hx
    obtain ⟨_, c, ts, he, _, hfin⟩ := hf
    obtain rfl : trial = _ := he
    cases htrial
    cases hfin
  have result := highest_nonce_wins start_genesis reached (session 7) (opened 7 1000000 none 0)
    (by decide +kernel) rfl (.nil _) (by simp) (cosignedContext 5 second)
    (closeAccounts 7 provider) second deployedConfig hopening ⟨data, rfl, rfl, rfl, rfl⟩ (.inl rfl)
    ⟨rfl, rfl, by decide +kernel, by decide +kernel⟩ (by decide) initiate dispute ?_ ?_
    [first, second] ?_ ?_ (by decide +kernel) second ?_
  · obtain ⟨s', hs', standing, _⟩ := result.1 quiet
    exact ⟨s', hs', standing.nonce, standing.payout, standing.deadline⟩
  · intro x hx
    obtain rfl := List.mem_singleton.mp hx
    exact .challenge _ _ first deployedConfig htrial ⟨data', rfl, rfl, rfl, rfl⟩
      ⟨rfl, rfl, by decide +kernel, by decide +kernel⟩ (by decide)
  · simp [clock, htrial]
  · have hone : challenges (session 7) [(⟨disputedBySecond, trial, challengedByFirst⟩ :
        Transition Ledger (Trial Localnet.rt))] = [first] := by
      have hcall : challengeOf (session 7) (⟨disputedBySecond, trial, challengedByFirst⟩ :
          Transition Ledger (Trial Localnet.rt)) = some first := challengeOf_call htrial rfl
      simp [challenges, hcall]
    rw [hone]
    exact .swap _ _ _
  · intro u hu
    rcases List.mem_cons.mp hu with rfl | hu
    · exact ⟨by decide, by decide, by decide⟩
    · obtain rfl := List.mem_singleton.mp hu
      exact ⟨by decide, by decide, by decide⟩
  · refine ⟨by simp, fun u hu => ?_⟩
    rcases List.mem_cons.mp hu with rfl | hu
    · decide
    · obtain rfl := List.mem_singleton.mp hu
      decide

end

end SolMesh
