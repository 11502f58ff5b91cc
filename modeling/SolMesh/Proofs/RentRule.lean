import SolMesh.Proofs.Escrow

namespace SolMesh
open Outcome

/-- Every account outside the list is as it was. -/
def Confined (l l' : Ledger) (ks : List Pubkey) : Prop :=
  ∀ x, x ∉ ks → l' x = l x

section
variable {rt : Runtime} {l l₁ l₂ : Ledger} {ks js : List Pubkey}

theorem Confined.trans (h : Confined l l₁ ks) (h' : Confined l₁ l₂ ks) : Confined l l₂ ks :=
  fun x hx => (h' x hx).trans (h x hx)

theorem Confined.mono (h : Confined l l₁ js) (le : js ⊆ ks) : Confined l l₁ ks :=
  fun x hx => h x fun hj => hx (le hj)

theorem confined_setData (l : Ledger) {k : Pubkey} (d : AccountData) (hk : k ∈ ks) :
    Confined l (l.setData k d) ks := by
  intro x hx
  have hne : x ≠ k := fun he => hx (he ▸ hk)
  exact if_neg hne

theorem Sends.confined {src dst : Pubkey} {n : Nat} (h : Sends l l₁ src dst n) (hs : src ∈ ks)
    (hd : dst ∈ ks) : Confined l l₁ ks := by
  intro x hx
  have hxs : x ≠ src := fun he => hx (he ▸ hs)
  have hxd : x ≠ dst := fun he => hx (he ▸ hd)
  have he := h.lamports x
  rw [if_neg hxs, if_neg hxd] at he
  exact account_ext he (h.data x)

theorem TokenSends.confined {src dst : Pubkey} {n : Nat} (h : TokenSends l l₁ src dst n)
    (hs : src ∈ ks) (hd : dst ∈ ks) : Confined l l₁ ks := by
  intro x hx
  have hxs : x ≠ src := fun he => hx (he ▸ hs)
  have hxd : x ≠ dst := fun he => hx (he ▸ hd)
  exact account_ext (by rw [h.lamports]) (h.others hxs hxd)

theorem Initialised.confined {payer k : Pubkey} {rent : Nat} {data : AccountData}
    (h : Initialised l l₁ payer k rent data) (hp : payer ∈ ks) (hk : k ∈ ks) :
    Confined l l₁ ks := by
  intro x hx
  have hxp : x ≠ payer := fun he => hx (he ▸ hp)
  have hxk : x ≠ k := fun he => hx (he ▸ hk)
  refine account_ext (by rw [h.bystander x hxk hxp]) ?_
  rw [h.data, if_neg hxk]

theorem LamportsPaid.confined {ts : List Transfer} (h : LamportsPaid l ts l₁)
    (ends : ∀ t ∈ ts, t.source ∈ ks ∧ t.dest ∈ ks) : Confined l l₁ ks := by
  induction h with
  | nil l => exact fun _ _ => rfl
  | cons first rest ih =>
    obtain ⟨hs, hd⟩ := ends _ List.mem_cons_self
    exact ((pdaTransferLamports_ok first).confined hs hd).trans
      (ih fun t ht => ends t (List.mem_cons_of_mem _ ht))

theorem TokensPaid.confined {authority k : Pubkey} {bump : UInt8} {ts : List Transfer}
    (h : TokensPaid rt authority k bump l ts l₁)
    (ends : ∀ t ∈ ts, t.source ∈ ks ∧ t.dest ∈ ks) : Confined l l₁ ks := by
  induction h with
  | nil l => exact fun _ _ => rfl
  | cons first rest ih =>
    obtain ⟨hs, hd⟩ := ends _ List.mem_cons_self
    exact ((transferFromVault_ok first).2.confined hs hd).trans
      (ih fun t ht => ends t (List.mem_cons_of_mem _ ht))

theorem confined_writeRecords (l : Ledger) {node k : Pubkey} (n : Node) (s : Session)
    (hn : node ∈ ks) (hk : k ∈ ks) : Confined l (writeRecords l node n k s) ks :=
  (confined_setData l _ hn).trans (confined_setData _ _ hk)

theorem settlementTransfers_ends {k src toProvider toFee toConsumer : Pubkey}
    {pa fee rem : UInt64} (hs : src ∈ ks) (hp : toProvider ∈ ks) (hf : toFee ∈ ks)
    (hc : toConsumer ∈ ks) :
    ∀ t ∈ settlementTransfers k src toProvider toFee toConsumer pa fee rem,
      t.source ∈ ks ∧ t.dest ∈ ks := by
  simp [settlementTransfers, hs, hp, hf, hc]

end

section
variable {rt : Runtime} {ctx : TxContext} {l l' : Ledger} {ts : List Transfer}

theorem initializeConfigHandler_confined {a : InitializeConfig rt} {feeBps : UInt16}
    {window : Int64} {mplCore : Pubkey}
    (h : initializeConfigHandler rt l a feeBps window mplCore = .ok (l', ts)) :
    Confined l l' [a.config, a.feeVault, a.authority.key] := by
  simp only [initializeConfigHandler, bind_ok, findSeeds_ok, require_ok, pure_ok, Prod.mk.injEq,
    exitAccount_writable] at h
  obtain ⟨_, _, l₁, h₁, _, _, _, _, _, _, rfl, rfl⟩ := h
  have created : Confined l l₁ [a.config, a.feeVault, a.authority.key] :=
    (initAccount_ok h₁).confined (by simp) (by simp)
  exact created.trans (confined_setData l₁ _ (by simp))

theorem registerNodeHandler_confined {a : RegisterNode rt} {name uri geo : String}
    {capacity : UInt64} {initReputation : UInt32}
    (h : registerNodeHandler rt l a name uri capacity geo initReputation = .ok (l', ts)) :
    Confined l l' [a.node, a.asset.key, a.provider.key] := by
  simp only [registerNodeHandler, createNodeAsset, bind_ok, loadConfig_ok, checkSeeds_ok,
    findSeeds_ok, require_ok, pure_ok, Prod.mk.injEq, exitAccount_writable] at h
  obtain ⟨_, _, _, _, _, _, l₁, h₁, _, _, _, _, _, _, _, _, _, ⟨_, _, l₂, h₂, rfl⟩, rfl, rfl⟩ := h
  have created : Confined l l₁ [a.node, a.asset.key, a.provider.key] :=
    (initAccount_ok h₁).confined (by simp) (by simp)
  have paid : Confined l₁ l₂ [a.node, a.asset.key, a.provider.key] :=
    (systemTransfer_ok h₂).2.confined (by simp) (by simp)
  exact ((created.trans paid).trans (confined_setData l₂ _ (by simp))).trans
    (confined_setData _ _ (by simp))

theorem openSessionHandler_confined {a : OpenSession rt} {sessionSeed amount ratePerUnit : UInt64}
    {durationSecs : Int64}
    (h : openSessionHandler rt ctx l a sessionSeed amount durationSecs ratePerUnit =
      .ok (l', ts)) : Confined l l' [a.session, a.consumer.key] := by
  simp only [openSessionHandler, bind_ok, findSeeds_ok, require_ok, okOr_ok, pure_ok,
    Prod.mk.injEq, exitAccount_readonly, exitAccount_writable] at h
  obtain ⟨_, _, _, _, _, _, _, _, _, _, _, _, l₁, h₁, _, _, _, _, _, _, l₂, h₂, _, _, _, _, rfl,
    rfl⟩ := h
  have created : Confined l l₁ [a.session, a.consumer.key] :=
    (initAccount_ok h₁).confined (by simp) (by simp)
  have paid : Confined l₁ l₂ [a.session, a.consumer.key] :=
    (systemTransfer_ok h₂).2.confined (by simp) (by simp)
  exact (created.trans paid).trans (confined_setData l₂ _ (by simp))

theorem openSessionSplHandler_confined {a : OpenSessionSpl rt}
    {sessionSeed amount ratePerUnit : UInt64} {durationSecs : Int64}
    (h : openSessionSplHandler rt ctx l a sessionSeed amount durationSecs ratePerUnit =
      .ok (l', ts)) :
    Confined l l' [a.session, a.consumerToken, a.vaultToken, a.consumer.key] := by
  simp only [openSessionSplHandler, initAssociatedToken_ok, bind_ok, findSeeds_ok, require_ok,
    okOr_ok, pure_ok, Prod.mk.injEq, exitAccount_readonly, exitAccount_writable] at h
  obtain ⟨_, _, _, _, _, _, _, _, _, _, _, _, l₁, h₁, _, _, _, _, _, _, _, _, _, _, l₂, ⟨_, h₂⟩,
    _, _, _, _, _, _, l₃, h₃, _, _, _, _, rfl, rfl⟩ := h
  have created : Confined l l₁ [a.session, a.consumerToken, a.vaultToken, a.consumer.key] :=
    (initAccount_ok h₁).confined (by simp) (by simp)
  have vault : Confined l₁ l₂ [a.session, a.consumerToken, a.vaultToken, a.consumer.key] :=
    (initAccount_ok h₂).confined (by simp) (by simp)
  have paid : Confined l₂ l₃ [a.session, a.consumerToken, a.vaultToken, a.consumer.key] :=
    (tokenTransfer_ok h₃).2.confined (by simp) (by simp)
  exact ((created.trans vault).trans paid).trans (confined_setData l₃ _ (by simp))

theorem applyState_confined {a : Settle rt} {u : StateUpdate} {isCheckpoint : Bool}
    (h : applyState rt ctx l a u isCheckpoint = .ok (l', ts)) :
    Confined l l'
      [a.node, a.session, a.provider, a.consumer, a.asset, a.feeVault, a.payer.key] := by
  obtain ⟨_, _, _, _, _, _, _, _, _, _, _, _, _, _, _, rfl, paid, rfl⟩ := applyState_ok.mp h
  exact (paid.confined (settlementTransfers_ends (by simp) (by simp) (by simp) (by simp))).trans
    (confined_writeRecords _ _ _ (by simp) (by simp))

theorem applyStateSpl_confined {a : SettleSpl rt} {u : StateUpdate} {isCheckpoint : Bool}
    (h : applyStateSpl rt ctx l a u isCheckpoint = .ok (l', ts)) :
    Confined l l' [a.node, a.session, a.asset, a.vaultToken, a.providerToken, a.consumerToken,
      a.feeToken, a.payer.key] := by
  obtain ⟨_, _, _, _, _, _, _, _, _, _, _, _, _, _, _, rfl, paid, rfl⟩ := applyStateSpl_ok.mp h
  exact (paid.confined (settlementTransfers_ends (by simp) (by simp) (by simp) (by simp))).trans
    (confined_writeRecords _ _ _ (by simp) (by simp))

theorem refundConsumer_confined {k consumer : Pubkey} {s : Session} {status : SessionStatus}
    (h : refundConsumer l s k consumer status = .ok (l', ts)) : Confined l l' [k, consumer] := by
  obtain ⟨_, _, _, rfl, paid, rfl⟩ := refundConsumer_ok.mp h
  exact (paid.confined (by simp)).trans (confined_setData _ _ (by simp))

theorem refundConsumerSpl_confined {a : LifecycleSpl rt} {s : Session} {status : SessionStatus}
    (h : refundConsumerSpl rt l a s status = .ok (l', ts)) :
    Confined l l' [a.session, a.vaultToken, a.consumerToken] := by
  obtain ⟨_, _, _, rfl, paid, rfl⟩ := refundConsumerSpl_ok.mp h
  exact (paid.confined (by simp)).trans (confined_setData _ _ (by simp))

/-- A call changes only accounts that it declares writable. -/
theorem Call.confined {c : Call rt} (ok : c.exec ctx l = .ok (l', ts)) :
    Confined l l' c.writable := by
  cases c with
  | initializeConfig a f w p => exact initializeConfigHandler_confined ok
  | registerNode a n u c g r => exact registerNodeHandler_confined ok
  | openSession a seed n d r => exact openSessionHandler_confined ok
  | checkpointSettle a u => exact applyState_confined ok
  | settleSession a u => exact applyState_confined ok
  | initiateUnilateralClose a u =>
    obtain ⟨_, _, _, _, _, _, _, _, _, rfl, rfl⟩ := initiateHandler_ok.mp ok
    exact confined_setData l _ List.mem_cons_self
  | challenge a u =>
    obtain ⟨_, _, _, _, _, _, _, rfl, rfl⟩ := challengeHandler_ok.mp ok
    exact confined_setData l _ List.mem_cons_self
  | finalizeClose a =>
    obtain ⟨_, _, _, _, _, _, _, _, _, _, _, _, _, rfl, paid, rfl⟩ := finalizeHandler_ok.mp ok
    exact (paid.confined (settlementTransfers_ends (by simp [writable]) (by simp [writable])
      (by simp [writable]) (by simp [writable]))).trans
        (confined_writeRecords _ _ _ (by simp [writable]) (by simp [writable]))
  | cancelSession a =>
    obtain ⟨_, _, _, _, refund⟩ := cancelHandler_ok.mp ok
    exact refundConsumer_confined refund
  | expireSession a =>
    obtain ⟨_, _, _, _, refund⟩ := expireHandler_ok.mp ok
    exact refundConsumer_confined refund
  | updateConfig a f w =>
    have written : updateConfigHandler rt l a f w = .ok (l', ts) := ok
    simp only [updateConfigHandler, bind_ok, pure_ok, Prod.mk.injEq, exitAccount_writable]
      at written
    obtain ⟨_, _, _, _, _, _, rfl, rfl⟩ := written
    exact confined_setData l _ List.mem_cons_self
  | setPaused a p =>
    have written : setPausedHandler rt l a p = .ok (l', ts) := ok
    simp only [setPausedHandler, bind_ok, pure_ok, Prod.mk.injEq, exitAccount_writable] at written
    obtain ⟨_, _, rfl, rfl⟩ := written
    exact confined_setData l _ List.mem_cons_self
  | withdrawFees a n =>
    have paid : withdrawFeesHandler rt l a n = .ok (l', ts) := ok
    simp only [withdrawFeesHandler, bind_ok, pure_ok, Prod.mk.injEq] at paid
    obtain ⟨_, _, _, _, _, _, _, _, _, _, _, sent, rfl, rfl⟩ := paid
    exact (systemTransfer_ok sent).2.confined (by simp [writable]) (by simp [writable])
  | updateNodeMeta a c g b =>
    have written : updateNodeMetaHandler rt l a c g b = .ok (l', ts) := ok
    simp only [updateNodeMetaHandler, bind_ok, pure_ok, Prod.mk.injEq, exitAccount_writable]
      at written
    obtain ⟨_, _, _, _, _, _, _, _, _, _, _, _, _, _, _, _, _, _, _, stored, rfl, rfl⟩ := written
    obtain ⟨_, _, _, rfl⟩ := setReputation_ok stored
    exact (confined_setData l _ (by simp [writable])).trans
      (confined_setData _ _ (by simp [writable]))
  | openSessionSpl a seed n d r => exact openSessionSplHandler_confined ok
  | checkpointSettleSpl a u => exact applyStateSpl_confined ok
  | settleSessionSpl a u => exact applyStateSpl_confined ok
  | finalizeCloseSpl a =>
    obtain ⟨_, _, _, _, _, _, _, _, _, _, _, _, _, _, rfl, paid, rfl⟩ :=
      finalizeCloseSplHandler_ok.mp ok
    exact (paid.confined (settlementTransfers_ends (by simp [writable]) (by simp [writable])
      (by simp [writable]) (by simp [writable]))).trans
        (confined_writeRecords _ _ _ (by simp [writable]) (by simp [writable]))
  | cancelSessionSpl a =>
    obtain ⟨_, _, _, _, _, _, refund⟩ := cancelSessionSplHandler_ok.mp ok
    exact refundConsumerSpl_confined refund
  | expireSessionSpl a =>
    obtain ⟨_, _, _, _, _, refund⟩ := expireSessionSplHandler_ok.mp ok
    exact refundConsumerSpl_confined refund

end

namespace Transaction

variable {rt : Runtime}

theorem Op.confined {ctx : TxContext} {l l' : Ledger} {op : Op rt} {label : Label rt}
    (h : Op.exec ctx l op = .ok (l', label)) : Confined l l' (Op.writable op) := by
  cases op with
  | call c =>
    simp only [Op.exec, bind_ok, pure_ok, Prod.mk.injEq] at h
    obtain ⟨⟨l₁, ts⟩, hc, rfl, _⟩ := h
    exact c.confined hc
  | external e =>
    simp only [Op.exec, bind_ok, pure_ok, Prod.mk.injEq] at h
    obtain ⟨l₁, he, rfl, _⟩ := h
    exact e.untouched he

/-- So does a transaction, until its commit removes what is empty. -/
theorem perform_confined {ixs : List InstructionData} {now : Int64} {ops : List (Nat × Op rt)}
    {l l' : Ledger} {tr : History rt} (h : perform ixs now l ops = .ok (l', tr)) :
    ∃ mid, l' = mid.purge ∧ Confined l mid (ops.flatMap fun (_, op) => Op.writable op) := by
  induction ops generalizing l tr with
  | nil =>
    simp only [perform, Except.ok.injEq, Prod.mk.injEq] at h
    obtain ⟨rfl, _⟩ := h
    exact ⟨l, rfl, fun _ _ => rfl⟩
  | cons op rest ih =>
    simp only [perform, bind_ok, pure_ok, Prod.mk.injEq] at h
    obtain ⟨⟨l₁, label⟩, hop, ⟨l₂, tr₂⟩, hrest, rfl, _⟩ := h
    obtain ⟨mid, hmid, later⟩ := ih hrest
    have first : Confined l l₁ ((op :: rest).flatMap fun (_, op) => Op.writable op) :=
      (Op.confined hop).mono (by simp)
    exact ⟨mid, hmid, first.trans (later.mono (by simp))⟩

end Transaction

section
variable {rt : Runtime}

/-- The rent rule, for every account. -/
def RentKept (rt : Runtime) (l l' : Ledger) : Prop :=
  ∀ x, (rentState rt (l x)).allows (rentState rt (l' x)) = true

theorem RentState.allows_refl (st : RentState) : st.allows st = true := by
  cases st <;> simp [allows]

@[simp] theorem rentState_purge (l : Ledger) (x : Pubkey) :
    rentState rt (l.purge x) = rentState rt (l x) := by
  by_cases h : (l x).lamports = 0
  · simp [Ledger.purge, rentState, h]
  · simp [Ledger.purge, h]

theorem rentKept_purge {l l' : Ledger} : RentKept rt l l'.purge ↔ RentKept rt l l' := by
  simp only [RentKept, rentState_purge]

/-- Only accounts that a transaction may write have to be looked at. -/
theorem rentKept_iff {l l' : Ledger} {ks : List Pubkey} (h : Confined l l' ks) :
    rentKept rt l l'.purge ks = true ↔ RentKept rt l l' := by
  simp only [rentKept, List.all_eq_true, rentState_purge]
  constructor
  · intro kept x
    by_cases hx : x ∈ ks
    · exact kept x hx
    · rw [h x hx]
      exact RentState.allows_refl _
  · intro kept x _
    exact kept x

/-- What the rule lets an account hold that keeps its size. -/
def MayHold (rt : Runtime) (a : Account) (lamports : Nat) : Prop :=
  lamports = 0 ∨ ∀ length, a.data.length? = some length →
    (rt.minimumBalance length).toNat ≤ lamports ∨
      (lamports ≤ a.lamports.toNat ∧ a.lamports.toNat < (rt.minimumBalance length).toNat)

theorem allows_iff_mayHold {a b : Account} (h : b.data.length? = a.data.length?) :
    (rentState rt a).allows (rentState rt b) = true ↔ MayHold rt a b.lamports.toNat := by
  have zero : ∀ n : UInt64, n = 0 ↔ n.toNat = 0 := fun n => by
    rw [← UInt64.toNat_inj]
    rfl
  by_cases hb : b.lamports = 0
  · have empty : rentState rt b = .uninitialized := if_pos hb
    rw [empty, (zero _).mp hb]
    exact ⟨fun _ => .inl rfl, fun _ => by cases rentState rt a <;> rfl⟩
  · have hpos : ¬ b.lamports.toNat = 0 := fun he => hb ((zero _).mpr he)
    rw [MayHold, or_iff_right hpos]
    cases hlen : a.data.length? with
    | none =>
      have exempt : rentState rt b = .rentExempt := by simp [rentState, hb, h, hlen]
      rw [exempt]
      exact ⟨fun _ _ he => (nomatch he), fun _ => by cases rentState rt a <;> rfl⟩
    | some n =>
      simp only [rentState, if_neg hb, h, hlen, Option.some.injEq, forall_eq',
        UInt64.le_iff_toNat_le]
      by_cases hexempt : (rt.minimumBalance n).toNat ≤ b.lamports.toNat
      · simp only [hexempt, if_true, true_or, iff_true]
        split
        · rfl
        · split <;> rfl
      · simp only [hexempt, if_false, false_or]
        split
        · rename_i ha
          rw [zero] at ha
          simp only [RentState.allows, Bool.false_eq_true, false_iff]
          omega
        · split
          · simp only [RentState.allows, Bool.false_eq_true, false_iff]
            omega
          · simp only [RentState.allows, decide_true, Bool.true_and, decide_eq_true_eq,
              UInt64.le_iff_toNat_le]
            omega

/-- A wallet may hold what makes it rent exempt. -/
theorem mayHold_wallet {a : Account} {lamports : Nat} (wallet : a.data = .system)
    (exempt : (rt.minimumBalance 0).toNat ≤ lamports) : MayHold rt a lamports := by
  refine .inr fun length hlength => .inl ?_
  rw [wallet] at hlength
  cases hlength
  exact exempt

/-- What is rent exempt is so whatever it was before. -/
theorem allows_exempt {a b : Account} {length : Nat} (size : b.data.length? = some length)
    (exempt : (rt.minimumBalance length).toNat ≤ b.lamports.toNat) :
    (rentState rt a).allows (rentState rt b) = true := by
  have hmin := rt.minimumBalance_pos length
  have funded : b.lamports ≠ 0 := by
    intro he
    rw [he, UInt64.toNat_zero] at exempt
    omega
  have state : rentState rt b = .rentExempt := by
    simp only [rentState, if_neg funded, size, UInt64.le_iff_toNat_le, exempt, if_true]
  rw [state]
  cases rentState rt a <;> rfl

theorem mayHold_self (rt : Runtime) (a : Account) : MayHold rt a a.lamports.toNat :=
  (allows_iff_mayHold rfl).mp (RentState.allows_refl _)

/-- A transaction that touches neither balances nor sizes keeps the rule. -/
theorem RentKept.of_lamports {l l' : Ledger} (lamports : ∀ x, (l' x).lamports = (l x).lamports)
    (size : ∀ x, (l' x).data.length? = (l x).data.length?) : RentKept rt l l' := by
  intro x
  rw [allows_iff_mayHold (size x), lamports x]
  exact mayHold_self rt (l x)

theorem rentKept_setData {l : Ledger} {k : Pubkey} {d : AccountData}
    (size : d.length? = (l k).data.length?) : RentKept rt l (l.setData k d) := by
  refine .of_lamports (fun x => by simp) fun x => ?_
  rw [Ledger.setData_data]
  split
  · rename_i he
    rw [he, size]
  · rfl

/-- Records of the program are rewritten in place. -/
theorem length_writeRecords {l : Ledger} {node k : Pubkey} {n : Node} {s : Session}
    (hn : (l node).data = .node n) (hs : (l k).data = .session s) (n' : Node) (s' : Session)
    (x : Pubkey) : ((writeRecords l node n' k s') x).data.length? = (l x).data.length? := by
  rw [writeRecords, Ledger.setData_data, Ledger.setData_data]
  split
  · rename_i he
    rw [he, hs]
    rfl
  · split
    · rename_i he
      rw [he, hn]
      rfl
    · rfl

/-- Payouts in tokens touch neither balances nor sizes. -/
theorem TokensPaid.rentKept {l paid : Ledger} {authority k node : Pubkey} {bump : UInt8}
    {ts : List Transfer} {n : Node} {s : Session} (h : TokensPaid rt authority k bump l ts paid)
    (hn : (l node).data = .node n) (hs : (l k).data = .session s) (n' : Node) (s' : Session) :
    RentKept rt l (writeRecords paid node n' k s') := by
  have moves := h.moves
  have hn' : (paid node).data = .node n := (moves.data node (by simp [hn])).trans hn
  have hs' : (paid k).data = .session s := (moves.data k (by simp [hs])).trans hs
  refine .of_lamports (fun x => ?_) fun x => ?_
  · rw [← moves.lamports x, writeRecords, Ledger.setData_lamports, Ledger.setData_lamports]
  · rw [length_writeRecords hn' hs']
    by_cases ht : ∃ t, (l x).data = .token t
    · obtain ⟨t, ht⟩ := ht
      obtain ⟨t', ht', _⟩ := moves.token x t ht
      rw [ht', ht]
      rfl
    · rw [moves.data x fun t hx => ht ⟨t, hx⟩]

namespace Transaction

/-- A transaction passes the precompile, performs its operations, and then keeps
the rent rule everywhere. -/
theorem exec_ok {tx : Transaction rt} {l l' : Ledger} {tr : History rt} :
    tx.exec l = .ok (l', tr) ↔
      (TxContext.mk tx.sysvar 0 tx.unixTimestamp).precompiled rt = true ∧
      perform tx.sysvar tx.unixTimestamp l tx.ops = .ok (l', tr) ∧ RentKept rt l l' := by
  simp only [exec, bind_ok, require_ok, pure_ok, Prod.mk.injEq]
  constructor
  · intro h
    obtain ⟨_, hp, ⟨l₁, tr₁⟩, performed, _, kept, rfl, rfl⟩ := h
    obtain ⟨mid, rfl, hmid⟩ := perform_confined performed
    exact ⟨hp, performed, rentKept_purge.mpr ((rentKept_iff hmid).mp kept)⟩
  · intro h
    obtain ⟨hp, performed, kept⟩ := h
    obtain ⟨mid, rfl, hmid⟩ := perform_confined performed
    exact ⟨(), hp, (mid.purge, tr), performed, (),
      (rentKept_iff hmid).mpr (rentKept_purge.mp kept), rfl, rfl⟩

end Transaction

end

/-- What a settlement up to `owed` pays a role. -/
def Session.settlementShare (s : Session) (cfg : Config) (owed : Nat) (isCheckpoint : Bool) :
    Role → Nat
  | .provider => netOf (owed - s.settledToProvider.toNat) cfg.feeBps
  | .fee => (owed - s.settledToProvider.toNat) * cfg.feeBps.toNat / 10000
  | .consumer => if isCheckpoint then 0 else s.deposited.toNat - owed

/-- And an account, in all the roles that it has. -/
def Session.income (s : Session) (cfg : Config) (owed : Nat) (isCheckpoint : Bool) (x : Pubkey) :
    Nat :=
  ([Role.provider, .fee, .consumer].map fun r =>
    if x = s.payee cfg.feeVault r then s.settlementShare cfg owed isCheckpoint r else 0).sum

/-- The rent rule lets the receivers of a settlement hold what it pays them. -/
def Receivable (rt : Runtime) (l : Ledger) (s : Session) (cfg : Config) (owed : Nat)
    (isCheckpoint : Bool) : Prop :=
  ∀ r, MayHold rt (l (s.payee cfg.feeVault r)) ((l (s.payee cfg.feeVault r)).lamports.toNat +
    s.income cfg owed isCheckpoint (s.payee cfg.feeVault r))

section
variable {rt : Runtime} {l paid : Ledger} {k x : Pubkey} {s : Session} {cfg : Config} {n : Node}
  {owed work pa fee rem units settled : UInt64} {isCheckpoint : Bool}

theorem income_eq_zero {y : Pubkey} (h : ∀ r, y ≠ s.payee cfg.feeVault r) (owed : Nat)
    (isCheckpoint : Bool) : s.income cfg owed isCheckpoint y = 0 := by
  simp [Session.income, h]

theorem credit_settlement
    (values : Amounts.Values cfg n s owed work isCheckpoint pa fee rem units settled)
    (y : Pubkey) :
    credit y (settlementTransfers k k s.provider cfg.feeVault s.consumer pa fee rem) =
      s.income cfg owed.toNat isCheckpoint y := by
  have hrem : rem.toNat = s.settlementShare cfg owed.toNat isCheckpoint .consumer := by
    cases hcheck : isCheckpoint with
    | true => exact values.kept hcheck
    | false =>
      have rest := values.rest hcheck
      simp only [Session.settlementShare, Bool.false_eq_true, if_false]
      omega
  simp only [settlementTransfers, credit_cons, credit_nil, Session.income, List.map_cons,
    List.map_nil, List.sum_cons, List.sum_nil, Session.payee, hrem, values.net, values.fee]
  rfl

/-- A settlement in lamports brings every other account its income. -/
theorem settlement_gains
    (values : Amounts.Values cfg n s owed work isCheckpoint pa fee rem units settled)
    (moved : LamportsPaid l
      (settlementTransfers k k s.provider cfg.feeVault s.consumer pa fee rem) paid)
    {y : Pubkey} (hy : y ≠ k) : (paid y).lamports.toNat =
      (l y).lamports.toNat + s.income cfg owed.toNat isCheckpoint y := by
  have sources : ∀ t ∈ settlementTransfers k k s.provider cfg.feeVault s.consumer pa fee rem,
      t.source = k := by
    simp [settlementTransfers]
  have balance := moved.moves.lamports y
  rw [debit_eq_zero fun t ht he => absurd (he.trans (sources t ht)) hy,
    credit_settlement values] at balance
  exact balance

/-- And leaves the session its own rent. -/
theorem settlement_keeps_rent (escrowed : Escrowed rt l k s) (hm : s.mint = none)
    (amounts : Amounts cfg n s owed work isCheckpoint pa fee rem units settled)
    (covered : owed.toNat ≤ s.deposited.toNat)
    (moved : LamportsPaid l
      (settlementTransfers k k s.provider cfg.feeVault s.consumer pa fee rem) paid) :
    (rt.minimumBalance Session.space).toNat ≤ (paid k).lamports.toNat := by
  have cover := escrowed.lamports hm
  have taken := amounts.covered covered
  have balance := moved.moves.lamports k
  have hdebit := debit_le_amount k
    (settlementTransfers k k s.provider cfg.feeVault s.consumer pa fee rem)
  have total : amountOf (settlementTransfers k k s.provider cfg.feeVault s.consumer pa fee rem) =
      pa.toNat + (fee.toNat + (rem.toNat + 0)) := by
    simp only [settlementTransfers, amountOf_cons, amountOf_nil]
  omega

/-- A settlement in lamports keeps the rent rule where its receivers can hold
their shares: the session keeps its own rent, and nothing changes its size. -/
theorem rentKept_settlement (hi : Inv rt l) (hs : (l k).data = .session s)
    (alive : s.status.terminal = false) (hm : s.mint = none) (hn : (l s.node).data = .node n)
    (hc : (l x).data = .config cfg)
    (amounts : Amounts cfg n s owed work isCheckpoint pa fee rem units settled)
    (covered : owed.toNat ≤ s.deposited.toNat)
    (moved : LamportsPaid l
      (settlementTransfers k k s.provider cfg.feeVault s.consumer pa fee rem) paid)
    (n' : Node) (s' : Session) :
    RentKept rt l (writeRecords paid s.node n' k s') ↔
      Receivable rt l s cfg owed.toNat isCheckpoint := by
  have hfee := (hi.config x cfg hc).1.fee
  have values := amounts.values (by omega)
  have data := moved.moves.data
  have size : ∀ y, ((writeRecords paid s.node n' k s') y).data.length? = (l y).data.length? := by
    intro y
    rw [length_writeRecords ((data _).trans hn) ((data _).trans hs), data]
  have lamports : ∀ y, ((writeRecords paid s.node n' k s') y).lamports = (paid y).lamports := by
    simp [writeRecords]
  constructor
  · intro kept r
    have holds := (allows_iff_mayHold (size (s.payee cfg.feeVault r))).mp (kept _)
    rwa [lamports, settlement_gains values moved (hi.payee_ne_session hs hc r)] at holds
  · intro receivable y
    rw [allows_iff_mayHold (size y), lamports]
    by_cases hy : y = k
    · subst hy
      refine .inr fun length hlength => .inl ?_
      rw [hs] at hlength
      cases hlength
      exact settlement_keeps_rent ((hi.session y s hs).escrow alive) hm amounts covered moved
    · rw [settlement_gains values moved hy]
      by_cases hr : ∃ r, y = s.payee cfg.feeVault r
      · obtain ⟨r, rfl⟩ := hr
        exact receivable r
      · rw [income_eq_zero fun r he => hr ⟨r, he⟩]
        exact mayHold_self rt (l y)

end

end SolMesh
