import SolMesh.Proofs.NodeTrackers

namespace SolMesh
open Outcome Runs

/-- The calls that write the config. -/
def Call.administers {rt : Runtime} : Call rt → Bool
  | .initializeConfig .. | .updateConfig .. | .setPaused .. => true
  | _ => false

/-- The node whose offer a call writes. -/
def Call.lists {rt : Runtime} : Call rt → Option Pubkey
  | .registerNode a .. => some a.node
  | .updateNodeMeta a .. => some a.node
  | _ => none

def Label.administers {rt : Runtime} : Label rt → Bool
  | .call _ c _ => c.administers
  | .external | .commit => false

def Label.lists {rt : Runtime} : Label rt → Option Pubkey
  | .call _ c _ => c.lists
  | .external | .commit => none

/-- Neither a config nor a node. -/
def AccountData.plain : AccountData → Bool
  | .config _ | .node _ => false
  | .system | .session _ | .token _ | .mint | .core _ | .burned | .foreign _ => true

theorem AccountData.plain_of_unowned {d : AccountData} (h : d.ownedByProgram = false) :
    d.plain = true := by
  cases d <;> first | rfl | cases h

/-- Who the node is and what it offers stay. Its trackers may move. -/
structure Node.SameListing (n n' : Node) : Prop extends n.SameIdentity n' where
  capacity : n'.capacity = n.capacity
  geo : n'.geo = n.geo
  active : n'.active = n.active

theorem Node.Earned.sameListing {n n' : Node} {work : Nat × UInt32} {earned : Nat}
    (h : n.Earned n' work earned) : n.SameListing n' := by
  rw [h.identity]
  exact ⟨⟨rfl, rfl, rfl⟩, rfl, rfl, rfl⟩

/-- A change of an account that concerns neither a config nor an offer. -/
inductive Unaltered (d d' : AccountData) : Prop
  | same (eq : d' = d)
  | plain (before : d.plain = true) (after : d'.plain = true)
  | tracked (n n' : Node) (before : d = .node n) (after : d' = .node n') (same : n.SameListing n')

section
variable {rt : Runtime} {l l' : Ledger} {ts : List Transfer}

theorem OpenedSol.unaltered {k : Pubkey} {s : Session} (h : OpenedSol rt l l' k s) (x : Pubkey) :
    Unaltered (l x).data (l' x).data := by
  by_cases hx : x = k
  · rw [hx, h.fresh, h.after]
    exact .plain rfl rfl
  · exact .same (h.data x hx)

theorem OpenedSpl.unaltered {k m : Pubkey} {s : Session} (h : OpenedSpl rt l l' k m s)
    (x : Pubkey) : Unaltered (l x).data (l' x).data := by
  by_cases hx : x = k
  · rw [hx, h.fresh, h.after]
    exact .plain rfl rfl
  by_cases hv : x = rt.vaultAta k m
  · rw [hv, h.vaultFresh, h.vault]
    exact .plain rfl rfl
  by_cases ht : ∃ t, (l x).data = .token t
  · obtain ⟨t, ht⟩ := ht
    obtain ⟨t', ht', _⟩ := h.token x t ht
    rw [ht, ht']
    exact .plain rfl rfl
  · exact .same (h.data x hx hv fun t he => ht ⟨t, he⟩)

/-- An instruction on a session writes the session's record, its node's
trackers, and token accounts. -/
theorem SessionCall.unaltered {ctx : TxContext} {c : Call rt} {k : Pubkey} {s s' : Session}
    {mv : SessionMove} (h : SessionCall rt ctx c l l' ts k s s' mv) (x : Pubkey) :
    Unaltered (l x).data (l' x).data := by
  have hr := h.recorded
  by_cases hx : x = k
  · rw [hx, hr.before, hr.after]
    exact .plain rfl rfl
  by_cases hn : ∃ n, (l x).data = .node n
  · obtain ⟨n, hn⟩ := hn
    by_cases hw : s.work mv = none ∨ x ≠ s.node
    · exact .same ((hr.idle x n hn hw).trans hn.symm)
    · simp only [not_or, not_not] at hw
      obtain ⟨w, hw'⟩ := Option.ne_none_iff_exists'.mp hw.1
      obtain ⟨m, m', hm, hm', he⟩ := hr.worked w hw'
      exact .tracked m m' (hw.2 ▸ hm) (hw.2 ▸ hm') he.sameListing
  by_cases ht : ∃ t, (l x).data = .token t
  · obtain ⟨t, ht⟩ := ht
    cases hv : c.vaultToken? with
    | none =>
      obtain ⟨_, hp⟩ := h.inLamports hv
      exact .same ((hp.tokens x t ht).trans ht.symm)
    | some v =>
      obtain ⟨_, hp⟩ := h.inTokens v hv
      obtain ⟨t', ht', _⟩ := hp.tokens x t ht
      rw [ht', ht]
      exact .plain rfl rfl
  · exact .same (hr.rest x hx (fun n he => hn ⟨n, he⟩) fun t he => ht ⟨t, he⟩)

theorem Registered.unaltered {k x : Pubkey} {n : Node} (h : Registered rt l l' k n)
    (hx : x ≠ k) : Unaltered (l x).data (l' x).data := by
  by_cases ha : x = n.asset
  · obtain ⟨c, hc, _⟩ := h.asset.2
    rw [ha, h.assetFresh, hc]
    exact .plain rfl rfl
  · exact .same (h.data x hx ha)

theorem withdrawFeesHandler_unaltered {a : WithdrawFees rt} {amount : UInt64}
    (h : withdrawFeesHandler rt l a amount = .ok (l', ts)) (x : Pubkey) :
    Unaltered (l x).data (l' x).data := by
  simp only [withdrawFeesHandler, bind_ok, pure_ok, Prod.mk.injEq] at h
  obtain ⟨_, _, _, _, _, _, _, _, _, _, l₁, h₁, rfl, rfl⟩ := h
  exact .same ((systemTransfer_ok h₁).2.data x)

theorem updateNodeMetaHandler_unaltered {a : UpdateNodeMeta rt} {capacity : Option UInt64}
    {geo : Option String} {active : Option Bool} {x : Pubkey}
    (h : updateNodeMetaHandler rt l a capacity geo active = .ok (l', ts)) (hx : x ≠ a.node) :
    Unaltered (l x).data (l' x).data := by
  obtain ⟨n, n', c, attributes, hn, hc, _, _, rfl⟩ := updateNodeMetaHandler_ok h
  rw [Ledger.setData_data, if_neg hx]
  by_cases ha : x = n.asset
  · rw [ha, hc, Ledger.setData_self]
    exact .plain rfl rfl
  · exact .same (by rw [Ledger.setData_data, if_neg ha])

theorem Respects.unaltered (h : Respects rt l l') (x : Pubkey) :
    Unaltered (l x).data (l' x).data := by
  cases ho : (l x).data.ownedByProgram with
  | true => exact .same (h.program x ho).1
  | false =>
    refine .plain (AccountData.plain_of_unowned ho) (AccountData.plain_of_unowned ?_)
    by_contra hne
    rw [h.fresh x (by simpa using hne)] at ho
    cases ho

/-- Neither a config nor a node ever runs out of lamports, so none is purged. -/
theorem Inv.purge_unaltered (hi : Inv rt l) (x : Pubkey) :
    Unaltered (l x).data (l.purge x).data := by
  by_cases hz : (l x).lamports = 0
  · have hgone : (l.purge x).data = .system := by simp [Ledger.purge, hz]
    rw [hgone]
    refine .plain ?_ rfl
    cases hd : (l x).data with
    | config c =>
      have hpos := (hi.config x c hd).2
      simp [hz] at hpos
    | node n =>
      have hpos := (hi.node x n hd).2
      simp [hz] at hpos
    | _ => rfl
  · exact .same (by simp [Ledger.purge, hz])

/-- Configs change by the calls that administer them, and a node's offer by the
calls that list it. -/
theorem Step.unaltered {label : Label rt} (hi : Inv rt l) (h : Step rt l label l')
    (admin : label.administers = false) {x : Pubkey} (listed : label.lists ≠ some x) :
    Unaltered (l x).data (l' x).data := by
  cases h.kind with
  | opening k s _ _ _ hopened =>
    rcases hopened with ho | ⟨m, ho⟩
    · exact ho.unaltered x
    · exact ho.unaltered x
  | call k ctx c ts s s' mv _ _ _ _ hc => exact hc.unaltered x
  | idle hb =>
    cases h with
    | external respects => exact respects.unaltered x
    | commit => exact hi.purge_unaltered x
    | @call ctx c _ _ ts hp ok =>
      have hk : c.session? = none := hb
      cases c with
      | registerNode a n u cap g r =>
        obtain ⟨_, hr⟩ := registerNodeHandler_effect ok
        exact hr.unaltered fun he => listed (congrArg some he.symm)
      | withdrawFees a n => exact withdrawFeesHandler_unaltered ok x
      | updateNodeMeta a cap g b =>
        exact updateNodeMetaHandler_unaltered ok fun he => listed (congrArg some he.symm)
      | initializeConfig | updateConfig | setPaused => cases admin
      | _ => simp [Call.session?] at hk

/-- The calls that list a node leave a node. -/
theorem Step.listed {label : Label rt} (h : Step rt l label l') {x : Pubkey}
    (listed : label.lists = some x) :
    (∀ c, (l x).data ≠ .config c) ∧ ∃ n, (l' x).data = .node n := by
  cases h with
  | external | commit => cases listed
  | @call ctx c _ _ ts hp ok =>
    cases c with
    | registerNode a n u cap g r =>
      cases listed
      obtain ⟨n, hr⟩ := registerNodeHandler_effect ok
      exact ⟨by simp [hr.nodeFresh], n, hr.node⟩
    | updateNodeMeta a cap g b =>
      cases listed
      obtain ⟨n, n', _, _, hn, _, _, _, rfl⟩ := updateNodeMetaHandler_ok ok
      exact ⟨by simp [hn], n', Ledger.setData_self _ _ _⟩
    | _ => cases listed

/-- Only the config changes, or appears where there was nothing. -/
def Administered (d d' : AccountData) : Prop :=
  d' = d ∨ (d = .system ∨ ∃ c, d = .config c) ∧ ∃ c, d' = .config c

theorem administered_of_config {k : Pubkey} {c c' : Config} (hc : (l k).data = .config c)
    (x : Pubkey) : Administered (l x).data ((l.setData k (.config c')) x).data := by
  rw [Ledger.setData_data]
  split
  · rename_i hx
    exact .inr ⟨.inr ⟨c, hx ▸ hc⟩, c', rfl⟩
  · exact .inl rfl

/-- The calls that administer the program write the config and nothing else. -/
theorem Step.administered {label : Label rt} (h : Step rt l label l')
    (admin : label.administers = true) (x : Pubkey) :
    Administered (l x).data (l' x).data := by
  cases h with
  | external | commit => cases admin
  | @call ctx c _ _ ts hp ok =>
    cases c with
    | initializeConfig a f w m =>
      simp only [Call.exec, initializeConfigHandler, bind_ok, pure_ok, Prod.mk.injEq,
        exitAccount_writable] at ok
      obtain ⟨_, _, l₁, h₁, _, _, _, _, _, _, rfl, rfl⟩ := ok
      have hi := initAccount_ok h₁
      rw [Ledger.setData_data]
      split
      · rename_i hx
        exact .inr ⟨.inl (hx ▸ hi.fresh), _, rfl⟩
      · rename_i hx
        exact .inl (by rw [hi.data, if_neg hx])
    | updateConfig a f w =>
      simp only [Call.exec, updateConfigHandler, bind_ok, pure_ok, Prod.mk.injEq,
        exitAccount_writable] at ok
      obtain ⟨c, hload, _, _, _, _, rfl, rfl⟩ := ok
      exact administered_of_config (AdminConfig.load_ok.mp hload).1 x
    | setPaused a p =>
      simp only [Call.exec, setPausedHandler, bind_ok, pure_ok, Prod.mk.injEq,
        exitAccount_writable] at ok
      obtain ⟨c, hload, rfl, rfl⟩ := ok
      exact administered_of_config (AdminConfig.load_ok.mp hload).1 x
    | _ => cases admin

end

end SolMesh
