import SolMesh.Proofs.Escrow
import SolMesh.Support.Holdings

namespace SolMesh
open Holdings Outcome Words

instance : Fintype Pubkey :=
  Fintype.ofEquiv (Fin (2 ^ (8 * 32))) ⟨BitVec.ofFin, BitVec.toFin, fun _ => rfl, fun _ => rfl⟩

/-- The tokens of a mint in one account. -/
def AccountData.holding (mint : Pubkey) : AccountData → Nat
  | .token t => if t.mint = mint then t.amount.toNat else 0
  | _ => 0

namespace Ledger

/-- The lamports of all accounts. -/
def allLamports (l : Ledger) : Nat := worth fun k => (l k).lamports.toNat

/-- The tokens of a mint in all accounts. -/
def supply (l : Ledger) (mint : Pubkey) : Nat := worth fun k => (l k).data.holding mint

end Ledger

/-- Nothing came into being and nothing got lost, and records of the program
are still records. -/
structure Conserves (l l' : Ledger) : Prop where
  lamports : l'.allLamports = l.allLamports
  supply : ∀ mint, l'.supply mint = l.supply mint
  records : ∀ x, (l x).data.ownedByProgram = true → (l' x).data.ownedByProgram = true

theorem AccountData.holding_of_owned {d : AccountData} (h : d.ownedByProgram = true)
    (mint : Pubkey) : d.holding mint = 0 := by
  cases d with
  | config | node | session => rfl
  | system | token | mint | core | burned | foreign => cases h

namespace Conserves

variable {l l' l'' : Ledger}

theorem refl (l : Ledger) : Conserves l l := ⟨rfl, fun _ => rfl, fun _ h => h⟩

theorem trans (h : Conserves l l') (h' : Conserves l' l'') : Conserves l l'' :=
  ⟨h'.lamports.trans h.lamports, fun m => (h'.supply m).trans (h.supply m),
    fun x hx => h'.records x (h.records x hx)⟩

/-- Data may be replaced by data that holds the same. -/
theorem setData {k : Pubkey} {d : AccountData}
    (same : ∀ m, d.holding m = (l k).data.holding m)
    (record : (l k).data.ownedByProgram = true → d.ownedByProgram = true) :
    Conserves l (l.setData k d) := by
  refine ⟨?_, fun m => ?_, fun x hx => ?_⟩
  · exact congrArg worth (funext fun x => by simp)
  · refine congrArg worth (funext fun x => ?_)
    by_cases hxk : x = k
    · subst hxk
      simpa using same m
    · simp [hxk]
  · by_cases hxk : x = k
    · subst hxk
      simpa using record hx
    · simpa [hxk] using hx

/-- A record is written over a record. -/
theorem write (h : Conserves l l') {k : Pubkey} {d : AccountData}
    (old : (l k).data.ownedByProgram = true) (new : d.ownedByProgram = true) :
    Conserves l (l'.setData k d) := by
  refine h.trans (setData (fun m => ?_) fun _ => new)
  rw [d.holding_of_owned new, AccountData.holding_of_owned (h.records k old)]

end Conserves

theorem Sends.conserves {l l' : Ledger} {src dst : Pubkey} {n : Nat} (h : Sends l l' src dst n) :
    Conserves l l' := by
  refine ⟨worth_of_move h.lamports, fun m => ?_, fun x hx => by rw [h.data]; exact hx⟩
  exact congrArg worth (funext fun x => by rw [h.data])

/-- The tokens of one mint move if it is theirs. -/
theorem TokenSends.holding {l l' : Ledger} {src dst : Pubkey} {n : Nat}
    (h : TokenSends l l' src dst n) {a b : TokenAccount} (ha : (l src).data = .token a)
    (hb : (l dst).data = .token b) (hab : a.mint = b.mint) (m x : Pubkey) :
    (l' x).data.holding m + (if x = src then if a.mint = m then n else 0 else 0) =
      (l x).data.holding m + (if x = dst then if a.mint = m then n else 0 else 0) := by
  by_cases hx : ∃ t, (l x).data = .token t
  · obtain ⟨t, ht⟩ := hx
    obtain ⟨t', ht', hmint, _, hamount⟩ := h.token x t ht
    rw [ht, ht', AccountData.holding, AccountData.holding, hmint]
    have hsrc : x = src → t.mint = a.mint := by
      intro he
      subst he
      obtain rfl : a = t := by simpa [ha] using ht
      rfl
    have hdst : x = dst → t.mint = a.mint := by
      intro he
      subst he
      obtain rfl : b = t := by simpa [hb] using ht
      exact hab.symm
    by_cases hm : t.mint = m
    · have h₁ : (if x = src then if a.mint = m then n else 0 else 0) =
          if x = src then n else 0 := by
        split
        · rename_i he
          rw [if_pos (by rw [← hsrc he, hm])]
        · rfl
      have h₂ : (if x = dst then if a.mint = m then n else 0 else 0) =
          if x = dst then n else 0 := by
        split
        · rename_i he
          rw [if_pos (by rw [← hdst he, hm])]
        · rfl
      rw [h₁, h₂, if_pos hm, if_pos hm]
      exact hamount
    · have hzero : ∀ y, (x = y → t.mint = a.mint) →
          (if x = y then if a.mint = m then n else 0 else 0) = 0 := by
        intro y hy
        split
        · rename_i he
          rw [if_neg (by rw [← hy he]; exact hm)]
        · rfl
      rw [hzero src hsrc, hzero dst hdst, if_neg hm, if_neg hm]
  · have habsent : ∀ t, (l x).data ≠ .token t := fun t ht => hx ⟨t, ht⟩
    have hs : x ≠ src := ne_of_absent (habsent a) ha
    have hd : x ≠ dst := ne_of_absent (habsent b) hb
    rw [if_neg hs, if_neg hd, h.data x habsent]

theorem TokenSends.records {l l' : Ledger} {src dst : Pubkey} {n : Nat}
    (h : TokenSends l l' src dst n) (x : Pubkey) (hx : (l x).data.ownedByProgram = true) :
    (l' x).data.ownedByProgram = true := by
  rw [h.data x fun t ht => ?_]
  · exact hx
  · simp [ht, AccountData.ownedByProgram] at hx

/-- Tokens stay within their mint. -/
theorem TokenSends.conserves {l l' : Ledger} {src dst authority : Pubkey} {n : Nat}
    (h : TokenSends l l' src dst n) (rights : TokenRights l src dst authority n) :
    Conserves l l' := by
  obtain ⟨a, b, ha, hb, hab, _⟩ := rights.accounts
  refine ⟨congrArg worth (funext fun x => by rw [h.lamports]), fun m => ?_, h.records⟩
  exact worth_of_move (h.holding ha hb hab m)

theorem transferFromVault_conserves {rt : Runtime} {l l' : Ledger}
    {vaultToken dest vaultAuthority sessionKey : Pubkey} {vaultBump : UInt8} {amount : UInt64}
    (h : transferFromVault rt l vaultToken dest vaultAuthority sessionKey vaultBump amount =
      .ok l') : Conserves l l' := by
  unfold transferFromVault at h
  split at h
  · exact pure_ok.mp h ▸ .refl l
  · simp only [bind_ok, require_ok] at h
    obtain ⟨_, _, h⟩ := h
    obtain ⟨rights, sends⟩ := tokenTransfer_ok h
    exact sends.conserves rights

theorem initAccount_conserves {rt : Runtime} {l l' : Ledger} {payer k : Pubkey} {space : Nat}
    {data : AccountData} (empty : ∀ m, data.holding m = 0)
    (h : initAccount rt l payer k space data = .ok l') : Conserves l l' := by
  have put : ∀ mid : Ledger, (mid k).data = .system → Conserves mid (mid.setData k data) := by
    intro mid hk
    refine .setData (fun m => ?_) fun ho => ?_
    · rw [empty, hk]
      rfl
    · rw [hk] at ho
      cases ho
  simp only [initAccount, bind_ok, require_ok] at h
  obtain ⟨_, fresh, h⟩ := h
  split at h
  · simp only [bind_ok, pure_ok] at h
    obtain ⟨mid, ht, rfl⟩ := h
    obtain ⟨_, sends⟩ := systemTransfer_ok ht
    exact sends.conserves.trans (put mid ((sends.data k).trans fresh))
  · simp only [bind_ok, require_ok] at h
    obtain ⟨_, _, h⟩ := h
    split at h
    · exact pure_ok.mp h ▸ put l fresh
    · simp only [bind_ok, pure_ok] at h
      obtain ⟨mid, ht, rfl⟩ := h
      obtain ⟨_, sends⟩ := systemTransfer_ok ht
      exact sends.conserves.trans (put mid ((sends.data k).trans fresh))

theorem LamportsPaid.conserves {l l' : Ledger} {ts : List Transfer} (h : LamportsPaid l ts l') :
    Conserves l l' := by
  induction h with
  | nil l => exact .refl l
  | cons first _ ih => exact (pdaTransferLamports_ok first).conserves.trans ih

theorem TokensPaid.conserves {rt : Runtime} {authority k : Pubkey} {bump : UInt8} {l l' : Ledger}
    {ts : List Transfer} (h : TokensPaid rt authority k bump l ts l') : Conserves l l' := by
  induction h with
  | nil l => exact .refl l
  | cons first _ ih => exact (transferFromVault_conserves first).trans ih

section
variable {rt : Runtime} {ctx : TxContext} {l l' mid : Ledger} {ts : List Transfer}

theorem PartiesLoaded.conserves
    {config node session provider consumer asset mplCoreProgram : Pubkey} {cfg : Config}
    {n n' : Node} {s s' : Session} (h : PartiesLoaded rt l config node session provider consumer
      asset mplCoreProgram cfg n s) (paid : Conserves l mid) :
    Conserves l (writeRecords mid node n' session s') := by
  have hn : (l node).data.ownedByProgram = true := by rw [h.nodeData]; rfl
  have hs : (l session).data.ownedByProgram = true := by rw [h.sessionData]; rfl
  exact (paid.write hn rfl).write hs rfl

theorem SessionLoaded.conserves {config session : Pubkey} {cfg : Config} {s s' : Session}
    (h : SessionLoaded rt l config session cfg s) (paid : Conserves l mid) :
    Conserves l (mid.setData session (.session s')) :=
  paid.write (by rw [h.sessionData]; rfl) rfl

theorem applyState_conserves {a : Settle rt} {u : StateUpdate} {isCheckpoint : Bool}
    (h : applyState rt ctx l a u isCheckpoint = .ok (l', ts)) : Conserves l l' := by
  obtain ⟨cfg, n, s, _, _, _, _, _, mid, hload, _, _, _, _, _, _, hpaid, rfl⟩ :=
    applyState_ok.mp h
  exact (Settle.load_ok.mp hload).1.conserves hpaid.conserves

theorem applyStateSpl_conserves {a : SettleSpl rt} {u : StateUpdate} {isCheckpoint : Bool}
    (h : applyStateSpl rt ctx l a u isCheckpoint = .ok (l', ts)) : Conserves l l' := by
  obtain ⟨cfg, n, s, _, _, _, _, _, mid, hload, _, _, _, _, _, _, hpaid, rfl⟩ :=
    applyStateSpl_ok.mp h
  exact (SettleSpl.load_ok.mp hload).1.conserves hpaid.conserves

theorem finalizeHandler_conserves {a : FinalizeClose rt}
    (h : finalizeHandler rt ctx l a = .ok (l', ts)) : Conserves l l' := by
  obtain ⟨cfg, n, s, _, _, _, _, _, mid, hload, _, _, _, _, hpaid, rfl⟩ := finalizeHandler_ok.mp h
  exact (FinalizeClose.load_ok.mp hload).1.conserves hpaid.conserves

theorem finalizeCloseSplHandler_conserves {a : FinalizeCloseSpl rt}
    (h : finalizeCloseSplHandler rt ctx l a = .ok (l', ts)) : Conserves l l' := by
  obtain ⟨cfg, n, s, _, _, _, _, _, mid, hload, _, _, _, _, _, hpaid, rfl⟩ :=
    finalizeCloseSplHandler_ok.mp h
  exact (PayoutSpl.load_ok.mp hload).1.conserves hpaid.conserves

theorem refundConsumer_conserves {config k consumer : Pubkey} {cfg : Config} {s : Session}
    {status : SessionStatus} (loaded : SessionLoaded rt l config k cfg s)
    (h : refundConsumer l s k consumer status = .ok (l', ts)) : Conserves l l' := by
  obtain ⟨_, mid, _, _, hpaid, rfl⟩ := refundConsumer_ok.mp h
  exact loaded.conserves hpaid.conserves

theorem refundConsumerSpl_conserves {a : LifecycleSpl rt} {s : Session} {status : SessionStatus}
    (hload : a.load rt l = .ok s) (h : refundConsumerSpl rt l a s status = .ok (l', ts)) :
    Conserves l l' := by
  obtain ⟨⟨cfg, loaded⟩, _⟩ := LifecycleSpl.load_ok.mp hload
  obtain ⟨_, mid, _, _, hpaid, rfl⟩ := refundConsumerSpl_ok.mp h
  exact loaded.conserves hpaid.conserves

theorem AdminConfig.conserves {a : AdminConfig rt} {c : Config} (c' : Config)
    (hload : a.load rt l = .ok c) : Conserves l (l.setData a.config (.config c')) :=
  (Conserves.refl l).write (by rw [(AdminConfig.load_ok.mp hload).1]; rfl) rfl

theorem initializeConfigHandler_conserves {a : InitializeConfig rt} {feeBps : UInt16}
    {window : Int64} {mplCore : Pubkey}
    (h : initializeConfigHandler rt l a feeBps window mplCore = .ok (l', ts)) :
    Conserves l l' := by
  simp only [initializeConfigHandler, bind_ok, pure_ok, Prod.mk.injEq, exitAccount_writable] at h
  obtain ⟨_, _, mid, hinit, _, _, _, _, _, _, rfl, rfl⟩ := h
  have hrecord : (mid a.config).data.ownedByProgram = true := by
    rw [(initAccount_ok hinit).data, if_pos rfl]
    rfl
  exact (initAccount_conserves (fun _ => rfl) hinit).trans ((Conserves.refl mid).write hrecord rfl)

theorem createNodeAsset_conserves {asset payer owner updateAuthority : Pubkey}
    {name uri geo : String} {capacity : UInt64} {initReputation : UInt32}
    (h : createNodeAsset rt l asset payer owner updateAuthority name uri capacity geo
      initReputation = .ok l') : Conserves l l' := by
  simp only [createNodeAsset, bind_ok, require_ok, pure_ok] at h
  obtain ⟨_, ⟨hsys, _⟩, mid, hpay, rfl⟩ := h
  obtain ⟨_, sends⟩ := systemTransfer_ok hpay
  have hmid : (mid asset).data = .system := (sends.data asset).trans hsys
  refine sends.conserves.trans (.setData (fun _ => by rw [hmid]; rfl) fun ho => ?_)
  rw [hmid] at ho
  cases ho

theorem registerNodeHandler_conserves {a : RegisterNode rt} {name uri geo : String}
    {capacity : UInt64} {initReputation : UInt32}
    (h : registerNodeHandler rt l a name uri capacity geo initReputation = .ok (l', ts)) :
    Conserves l l' := by
  simp only [registerNodeHandler, bind_ok, pure_ok, Prod.mk.injEq, exitAccount_writable] at h
  obtain ⟨_, _, _, _, _, _, mid, hinit, _, _, _, _, _, _, _, _, l₂, hasset, rfl, rfl⟩ := h
  have hrecord : (mid a.node).data.ownedByProgram = true := by
    rw [(initAccount_ok hinit).data, if_pos rfl]
    rfl
  exact (initAccount_conserves (fun _ => rfl) hinit).trans
    ((createNodeAsset_conserves hasset).write hrecord rfl)

theorem openSessionHandler_conserves {a : OpenSession rt} {sessionSeed amount : UInt64}
    {durationSecs : Int64} {ratePerUnit : UInt64}
    (h : openSessionHandler rt ctx l a sessionSeed amount durationSecs ratePerUnit =
      .ok (l', ts)) : Conserves l l' := by
  simp only [openSessionHandler, bind_ok, pure_ok, Prod.mk.injEq, exitAccount_readonly,
    exitAccount_writable] at h
  obtain ⟨_, _, _, _, _, _, _, _, _, _, _, _, mid, hinit, _, _, _, _, _, _, l₂, hpay, _, _, _, _,
    rfl, rfl⟩ := h
  obtain ⟨_, sends⟩ := systemTransfer_ok hpay
  have hrecord : (mid a.session).data.ownedByProgram = true := by
    rw [(initAccount_ok hinit).data, if_pos rfl]
    rfl
  exact (initAccount_conserves (fun _ => rfl) hinit).trans (sends.conserves.write hrecord rfl)

theorem openSessionSplHandler_conserves {a : OpenSessionSpl rt} {sessionSeed amount : UInt64}
    {durationSecs : Int64} {ratePerUnit : UInt64}
    (h : openSessionSplHandler rt ctx l a sessionSeed amount durationSecs ratePerUnit =
      .ok (l', ts)) : Conserves l l' := by
  simp only [openSessionSplHandler, initAssociatedToken_ok, bind_ok, pure_ok, Prod.mk.injEq,
    exitAccount_readonly, exitAccount_writable] at h
  obtain ⟨_, _, _, _, _, _, _, _, _, _, _, _, mid, hinit, _, _, _, _, _, _, _, _, _, _, l₂,
    ⟨_, hvault⟩, _, _, _, _, _, _, l₃, hpay, _, _, _, _, rfl, rfl⟩ := h
  obtain ⟨rights, sends⟩ := tokenTransfer_ok hpay
  have hrecord : (mid a.session).data.ownedByProgram = true := by
    rw [(initAccount_ok hinit).data, if_pos rfl]
    rfl
  have vault := initAccount_conserves (fun m => by simp [AccountData.holding]) hvault
  exact (initAccount_conserves (fun _ => rfl) hinit).trans
    ((vault.trans (sends.conserves rights)).write hrecord rfl)

theorem withdrawFeesHandler_conserves {a : WithdrawFees rt} {amount : UInt64}
    (h : withdrawFeesHandler rt l a amount = .ok (l', ts)) : Conserves l l' := by
  simp only [withdrawFeesHandler, bind_ok, pure_ok, Prod.mk.injEq] at h
  obtain ⟨_, _, _, _, _, _, _, _, _, _, l₁, hpay, rfl, rfl⟩ := h
  exact (systemTransfer_ok hpay).2.conserves

theorem updateNodeMetaHandler_conserves {a : UpdateNodeMeta rt} {capacity : Option UInt64}
    {geo : Option String} {active : Option Bool}
    (h : updateNodeMetaHandler rt l a capacity geo active = .ok (l', ts)) : Conserves l l' := by
  obtain ⟨n, n', c, attributes, hn, hc, _, _, rfl⟩ := updateNodeMetaHandler_ok h
  have hnode : (l a.node).data.ownedByProgram = true := by rw [hn]; rfl
  have asset : Conserves l (l.setData n.asset (.core { c with attributes := attributes })) := by
    refine .setData (fun _ => by rw [hc]; rfl) fun ho => ?_
    rw [hc] at ho
    cases ho
  exact asset.write hnode rfl

/-- Whatever accounts and arguments an instruction is given, it neither makes
nor loses lamports or tokens. -/
theorem Call.conserves {c : Call rt} (h : c.exec ctx l = .ok (l', ts)) : Conserves l l' := by
  cases c with
  | initializeConfig a f w m => exact initializeConfigHandler_conserves h
  | registerNode a n u cap g r => exact registerNodeHandler_conserves h
  | openSession a x n d r => exact openSessionHandler_conserves h
  | checkpointSettle a u => exact applyState_conserves h
  | settleSession a u => exact applyState_conserves h
  | initiateUnilateralClose a u =>
    obtain ⟨_, _, _, hload, _, _, _, _, _, _, rfl⟩ := initiateHandler_ok.mp h
    exact (UnilateralClose.load_ok.mp hload).1.conserves (.refl l)
  | challenge a u =>
    obtain ⟨_, _, hload, _, _, _, _, _, rfl⟩ := challengeHandler_ok.mp h
    exact (UnilateralClose.load_ok.mp hload).1.conserves (.refl l)
  | finalizeClose a => exact finalizeHandler_conserves h
  | cancelSession a =>
    obtain ⟨s, hload, _, _, hrefund⟩ := cancelHandler_ok.mp h
    obtain ⟨⟨cfg, loaded⟩, _⟩ := CancelSession.load_ok.mp hload
    exact refundConsumer_conserves loaded hrefund
  | expireSession a =>
    obtain ⟨s, hload, _, _, hrefund⟩ := expireHandler_ok.mp h
    obtain ⟨⟨cfg, loaded⟩, _⟩ := ExpireSession.load_ok.mp hload
    exact refundConsumer_conserves loaded hrefund
  | updateConfig a f w =>
    simp only [Call.exec, updateConfigHandler, bind_ok, pure_ok, Prod.mk.injEq,
      exitAccount_writable] at h
    obtain ⟨c, hload, _, _, c', _, rfl, rfl⟩ := h
    exact AdminConfig.conserves c' hload
  | setPaused a p =>
    simp only [Call.exec, setPausedHandler, bind_ok, pure_ok, Prod.mk.injEq,
      exitAccount_writable] at h
    obtain ⟨c, hload, rfl, rfl⟩ := h
    exact AdminConfig.conserves _ hload
  | withdrawFees a n => exact withdrawFeesHandler_conserves h
  | updateNodeMeta a cap g b => exact updateNodeMetaHandler_conserves h
  | openSessionSpl a x n d r => exact openSessionSplHandler_conserves h
  | checkpointSettleSpl a u => exact applyStateSpl_conserves h
  | settleSessionSpl a u => exact applyStateSpl_conserves h
  | finalizeCloseSpl a => exact finalizeCloseSplHandler_conserves h
  | cancelSessionSpl a =>
    obtain ⟨s, hload, _, _, _, _, hrefund⟩ := cancelSessionSplHandler_ok.mp h
    exact refundConsumerSpl_conserves hload hrefund
  | expireSessionSpl a =>
    obtain ⟨s, hload, _, _, _, hrefund⟩ := expireSessionSplHandler_ok.mp h
    exact refundConsumerSpl_conserves hload hrefund

end

end SolMesh
