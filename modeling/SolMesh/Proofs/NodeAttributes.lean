import SolMesh.Proofs.NodeLedger

namespace SolMesh
open Outcome Words Runs

/-- The node whose attributes an instruction writes. -/
def Call.describes? {rt : Runtime} : Call rt → Option Pubkey
  | .registerNode a .. => some a.node
  | .updateNodeMeta a .. => some a.node
  | _ => none

/-- The event wrote the attributes of the node. -/
def Event.describes {rt : Runtime} (k : Pubkey) (x : Event rt) : Bool :=
  match x.label with
  | .call _ c _ => c.describes? = some k
  | .external | .commit => false

/-- The node as the last event that wrote its attributes left it. -/
def described {rt : Runtime} (k : Pubkey) (tr : History rt) : Option Node :=
  (latest (Event.describes k) tr).bind fun x =>
    match (x.after k).data with
    | .node n => some n
    | _ => none

/-- A node, a Core asset, or what is left of one. -/
def AccountData.isNodeOrAsset : AccountData → Bool
  | .node _ | .core _ | .burned => true
  | _ => false

theorem AccountData.ne_of_isNodeOrAsset {d e : AccountData} (hd : d.isNodeOrAsset = true)
    (he : e.isNodeOrAsset = false) : d ≠ e := by
  intro h
  rw [h, he] at hd
  cases hd

theorem ne_of_isNodeOrAsset {l : Ledger} {x k : Pubkey} (hx : (l x).data.isNodeOrAsset = true)
    (hk : (l k).data.isNodeOrAsset = false) : x ≠ k := by
  intro he
  exact AccountData.ne_of_isNodeOrAsset hx hk (he ▸ rfl)

/-- An asset under the authority of `k` that shows these attributes, unless its
owner burned it. -/
structure Displays (a : Account) (k : Pubkey) (attributes : List Attribute) : Prop where
  funded : 0 < a.lamports.toNat
  asset : a.data = .burned ∨
    ∃ c, a.data = .core c ∧ c.updateAuthority = k ∧ c.attributes = attributes

theorem Displays.isNodeOrAsset {a : Account} {k : Pubkey} {attributes : List Attribute}
    (h : Displays a k attributes) : a.data.isNodeOrAsset = true := by
  rcases h.asset with hb | ⟨c, hc, _⟩
  · rw [hb]
    rfl
  · rw [hc]
    rfl

theorem Displays.of_same {a a' : Account} {k : Pubkey} {attributes : List Attribute}
    (h : Displays a k attributes) (hd : a'.data = a.data)
    (hl : a.lamports.toNat ≤ a'.lamports.toNat) : Displays a' k attributes :=
  ⟨Nat.lt_of_lt_of_le h.funded hl, by rw [hd]; exact h.asset⟩

/-- The node offers the same and has earned no less. -/
structure Node.SameOffer (n n' : Node) : Prop where
  asset : n'.asset = n.asset
  capacity : n'.capacity = n.capacity
  geo : n'.geo = n.geo
  reputation : n.reputation ≤ n'.reputation
  totalUnits : n.totalUnits ≤ n'.totalUnits

theorem Node.SameOffer.refl (n : Node) : n.SameOffer n :=
  ⟨rfl, rfl, rfl, UInt32.le_refl _, UInt64.le_refl _⟩

/-- A step that writes the attributes of no node `k`: the offer of the node
stays, and so does what its asset displays. -/
structure Undescribed (l l' : Ledger) (k : Pubkey) : Prop where
  node : ∀ n', (l' k).data = .node n' → ∃ n, (l k).data = .node n ∧ n.SameOffer n'
  asset : ∀ n attributes, (l k).data = .node n → Displays (l n.asset) k attributes →
    Displays (l' n.asset) k attributes

/-- Nodes and assets are as before, except for new nodes elsewhere. -/
theorem Undescribed.of_kept {l l' : Ledger} {k : Pubkey}
    (kept : ∀ x, (l x).data.isNodeOrAsset = true →
      (l' x).data = (l x).data ∧ (l x).lamports.toNat ≤ (l' x).lamports.toNat)
    (born : (l k).data.isNodeOrAsset = false → ∀ n', (l' k).data ≠ .node n') :
    Undescribed l l' k := by
  constructor
  · intro n' hn'
    cases hk : (l k).data.isNodeOrAsset with
    | true =>
      obtain ⟨hd, _⟩ := kept k hk
      exact ⟨n', hd.symm.trans hn', .refl n'⟩
    | false => exact absurd hn' (born hk n')
  · intro n attributes _ hshown
    obtain ⟨hd, hl⟩ := kept n.asset hshown.isNodeOrAsset
    exact hshown.of_same hd hl

section
variable {rt : Runtime} {l l' : Ledger} {ts : List Transfer}

theorem OpenedSol.undescribed {j : Pubkey} {s : Session} (h : OpenedSol rt l l' j s)
    (k : Pubkey) : Undescribed l l' k := by
  have fresh : (l j).data.isNodeOrAsset = false := by rw [h.fresh]; rfl
  refine .of_kept (fun x hx => ?_) fun hk n' hn' => ?_
  · have hxj := ne_of_isNodeOrAsset hx fresh
    have hsys : (l x).data ≠ .system := AccountData.ne_of_isNodeOrAsset hx rfl
    exact ⟨h.data x hxj, by rw [h.carrier x hxj hsys]⟩
  · by_cases hkj : k = j
    · subst hkj
      simp [h.after] at hn'
    · rw [h.data k hkj] at hn'
      simp [hn', AccountData.isNodeOrAsset] at hk

theorem OpenedSpl.undescribed {j m : Pubkey} {s : Session} (h : OpenedSpl rt l l' j m s)
    (k : Pubkey) : Undescribed l l' k := by
  have fresh : (l j).data.isNodeOrAsset = false := by rw [h.fresh]; rfl
  have vaultFresh : (l (rt.vaultAta j m)).data.isNodeOrAsset = false := by
    rw [h.vaultFresh]
    rfl
  refine .of_kept (fun x hx => ?_) fun hk n' hn' => ?_
  · have hxj := ne_of_isNodeOrAsset hx fresh
    have hsys : (l x).data ≠ .system := AccountData.ne_of_isNodeOrAsset hx rfl
    have htok : ∀ t, (l x).data ≠ .token t := fun t => AccountData.ne_of_isNodeOrAsset hx rfl
    exact ⟨h.data x hxj (ne_of_isNodeOrAsset hx vaultFresh) htok, by rw [h.carrier x hxj hsys]⟩
  · by_cases hkj : k = j
    · subst hkj
      simp [h.after] at hn'
    by_cases hkv : k = rt.vaultAta j m
    · subst hkv
      simp [h.vault] at hn'
    by_cases ht : ∃ t, (l k).data = .token t
    · obtain ⟨t, ht⟩ := ht
      obtain ⟨t', ht', _⟩ := h.token k t ht
      simp [ht'] at hn'
    · rw [h.data k hkj hkv fun t he => ht ⟨t, he⟩] at hn'
      simp [hn', AccountData.isNodeOrAsset] at hk

/-- A payout earns a node something and touches no asset. -/
theorem SessionCall.undescribed {ctx : TxContext} {c : Call rt} {j : Pubkey} {s s' : Session}
    {mv : SessionMove} (h : SessionCall rt ctx c l l' ts j s s' mv) (k : Pubkey) :
    Undescribed l l' k := by
  constructor
  · intro n' hn'
    by_cases hk : ∃ n, (l k).data = .node n
    · obtain ⟨n, hn⟩ := hk
      obtain ⟨m, hm, earned⟩ := h.earned_on hn
      obtain rfl : m = n' := by simpa [hm] using hn'
      have same := earned.identity
      refine ⟨n, hn, by rw [same]; rfl, by rw [same]; rfl, by rw [same]; rfl, ?_, ?_⟩
      · have := n.reputation.toNat_lt
        rw [earned.reputation, UInt32.le_iff_toNat_le, saturatingAdd_toNat]
        omega
      · rw [UInt64.le_iff_toNat_le, earned.units]
        omega
    · exact absurd hn' (h.no_node (fun n hn => hk ⟨n, hn⟩) n')
  · intro n attributes _ hshown
    have hx := hshown.isNodeOrAsset
    have hsession : (l j).data.isNodeOrAsset = false := by
      rw [h.recorded.before]
      rfl
    have hxj := ne_of_isNodeOrAsset hx hsession
    have hnode : ∀ m, (l n.asset).data ≠ .node m := by
      intro m hm
      rcases hshown.asset with hb | ⟨c, hc, _⟩
      · simp [hb] at hm
      · simp [hc] at hm
    refine hshown.of_same (h.recorded.rest _ hxj hnode fun t => ?_) ?_
    · exact AccountData.ne_of_isNodeOrAsset hx rfl
    · cases hv : c.vaultToken? with
      | none => exact (h.inLamports hv).2.others hxj
      | some v => rw [(h.inTokens v hv).2.lamports]

theorem initializeConfigHandler_undescribed {a : InitializeConfig rt} {feeBps : UInt16}
    {window : Int64} {mplCore : Pubkey}
    (h : initializeConfigHandler rt l a feeBps window mplCore = .ok (l', ts)) (k : Pubkey) :
    Undescribed l l' k := by
  simp only [initializeConfigHandler, bind_ok, pure_ok, Prod.mk.injEq, exitAccount_writable] at h
  obtain ⟨_, _, l₁, h₁, _, _, _, _, _, _, rfl, rfl⟩ := h
  have hi := initAccount_ok h₁
  have fresh : (l a.config).data.isNodeOrAsset = false := by rw [hi.fresh]; rfl
  refine .of_kept (fun x hx => ?_) fun hk n' hn' => ?_
  · have hxc := ne_of_isNodeOrAsset hx fresh
    rw [Ledger.setData_data, if_neg hxc, hi.data, if_neg hxc, Ledger.setData_lamports,
      hi.carrier x hxc (AccountData.ne_of_isNodeOrAsset hx rfl)]
    exact ⟨rfl, Nat.le_refl _⟩
  · by_cases hkc : k = a.config
    · subst hkc
      simp at hn'
    · rw [Ledger.setData_data, if_neg hkc, hi.data, if_neg hkc] at hn'
      simp [hn', AccountData.isNodeOrAsset] at hk

theorem undescribed_config {j : Pubkey} {c : Config} (c' : Config)
    (hc : (l j).data = .config c) (k : Pubkey) : Undescribed l (l.setData j (.config c')) k := by
  have hconfig : (l j).data.isNodeOrAsset = false := by rw [hc]; rfl
  refine .of_kept (fun x hx => ?_) fun hk n' hn' => ?_
  · rw [Ledger.setData_data, if_neg (ne_of_isNodeOrAsset hx hconfig), Ledger.setData_lamports]
    exact ⟨rfl, Nat.le_refl _⟩
  · by_cases hkj : k = j
    · subst hkj
      simp at hn'
    · rw [Ledger.setData_data, if_neg hkj] at hn'
      simp [hn', AccountData.isNodeOrAsset] at hk

theorem Registered.undescribed {j k : Pubkey} {n : Node} (h : Registered rt l l' j n)
    (hjk : j ≠ k) : Undescribed l l' k := by
  have nodeFresh : (l j).data.isNodeOrAsset = false := by rw [h.nodeFresh]; rfl
  have assetFresh : (l n.asset).data.isNodeOrAsset = false := by rw [h.assetFresh]; rfl
  refine .of_kept (fun x hx => ?_) fun hk n' hn' => ?_
  · refine ⟨h.data x (ne_of_isNodeOrAsset hx nodeFresh) (ne_of_isNodeOrAsset hx assetFresh), ?_⟩
    rw [h.carrier x (AccountData.ne_of_isNodeOrAsset hx rfl)]
  · by_cases hka : k = n.asset
    · obtain ⟨c, hc, _⟩ := h.asset.2
      simp [hka, hc] at hn'
    · rw [h.data k (Ne.symm hjk) hka] at hn'
      simp [hn', AccountData.isNodeOrAsset] at hk

theorem withdrawFeesHandler_undescribed {a : WithdrawFees rt} {amount : UInt64}
    (h : withdrawFeesHandler rt l a amount = .ok (l', ts)) (k : Pubkey) : Undescribed l l' k := by
  simp only [withdrawFeesHandler, bind_ok, require_ok, pure_ok, Prod.mk.injEq] at h
  obtain ⟨_, _, _, _, _, _, _, hsys, _, _, l₁, h₁, rfl, rfl⟩ := h
  obtain ⟨_, hsend⟩ := systemTransfer_ok h₁
  have hvault : (l a.feeVault).data.isNodeOrAsset = false := by rw [hsys]; rfl
  refine .of_kept (fun x hx => ⟨hsend.data x, ?_⟩) fun hk n' hn' => ?_
  · have he := hsend.lamports x
    rw [if_neg (ne_of_isNodeOrAsset hx hvault)] at he
    omega
  · rw [hsend.data] at hn'
    simp [hn', AccountData.isNodeOrAsset] at hk

/-- Whoever else owns the asset, the attributes follow the node. -/
theorem Respects.undescribed (hi : Inv rt l) (h : Respects rt l l') (k : Pubkey) :
    Undescribed l l' k := by
  constructor
  · intro n' hn'
    have hbefore := h.fresh k (by simp [hn', AccountData.ownedByProgram])
    obtain ⟨hd, _⟩ := h.program k hbefore
    exact ⟨n', hd.symm.trans hn', .refl n'⟩
  · intro n attributes hn hshown
    rcases hshown.asset with hb | ⟨c, hc, rfl, rfl⟩
    · obtain ⟨hl, hd⟩ := h.burned _ hb
      exact ⟨hl hshown.funded, .inl hd⟩
    · have hpda := Runtime.isPda_of_find (hi.node _ n hn).1.address
      obtain ⟨hl, hd⟩ := h.core _ c hc hpda
      exact ⟨hl hshown.funded, hd⟩

theorem Ledger.purge_undescribed (l : Ledger) (k : Pubkey) : Undescribed l l.purge k := by
  constructor
  · intro n' hn'
    by_cases hz : (l k).lamports = 0
    · simp [Ledger.purge, hz] at hn'
    · have hd : (l.purge k).data = (l k).data := by simp [Ledger.purge, hz]
      exact ⟨n', hd.symm.trans hn', .refl n'⟩
  · intro n attributes _ hshown
    rw [l.purge_of_pos _ hshown.funded]
    exact hshown

/-- Two nodes never share an asset. -/
theorem Inv.node_of_asset (hi : Inv rt l) {j k : Pubkey} {m n : Node}
    (hm : (l j).data = .node m) (hn : (l k).data = .node n) (he : m.asset = n.asset) : j = k := by
  have hj := (hi.node j m hm).1.address
  rw [he, (hi.node k n hn).1.address, Option.some.injEq, Prod.mk.injEq] at hj
  exact hj.1.symm

/-- An update of another node's offer. -/
theorem updateNodeMetaHandler_undescribed {a : UpdateNodeMeta rt} {capacity : Option UInt64}
    {geo : Option String} {active : Option Bool} (hi : Inv rt l)
    (h : updateNodeMetaHandler rt l a capacity geo active = .ok (l', ts)) {k : Pubkey}
    (hk : a.node ≠ k) : Undescribed l l' k := by
  obtain ⟨m, m', c, attributes, hm, hc, _, _, rfl⟩ := updateNodeMetaHandler_ok h
  constructor
  · intro n' hn'
    rw [Ledger.setData_data, if_neg (Ne.symm hk)] at hn'
    by_cases hka : k = m.asset
    · subst hka
      simp at hn'
    · rw [Ledger.setData_data, if_neg hka] at hn'
      exact ⟨n', hn', .refl n'⟩
  · intro n attributes hn hshown
    have hasset : n.asset ≠ m.asset := fun he => hk (hi.node_of_asset hm hn he.symm)
    have hnode : n.asset ≠ a.node := by
      intro he
      rcases hshown.asset with hb | ⟨d, hd, _⟩
      · simp [he, hm] at hb
      · simp [he, hm] at hd
    refine hshown.of_same ?_ (by simp)
    rw [Ledger.setData_data, if_neg hnode, Ledger.setData_data, if_neg hasset]

theorem Step.undescribed {label : Label rt} (hi : Inv rt l) (h : Step rt l label l') {k : Pubkey}
    (hk : Event.describes k ⟨l, label, l'⟩ = false) : Undescribed l l' k := by
  cases h.kind with
  | opening j s _ _ _ hopened =>
    rcases hopened with ho | ⟨m, ho⟩
    · exact ho.undescribed k
    · exact ho.undescribed k
  | call j ctx c ts s s' mv _ _ _ _ hc => exact hc.undescribed k
  | idle hb =>
    cases h with
    | external respects => exact respects.undescribed hi k
    | commit => exact l.purge_undescribed k
    | @call ctx c _ _ ts hp ok =>
      have hidle : c.session? = none := hb
      have hother : c.describes? ≠ some k := by simpa [Event.describes] using hk
      cases c with
      | initializeConfig a f w m => exact initializeConfigHandler_undescribed ok k
      | registerNode a n u cap g r =>
        obtain ⟨_, hr⟩ := registerNodeHandler_effect ok
        exact hr.undescribed fun he => hother (congrArg some he)
      | updateConfig a f w =>
        simp only [Call.exec, updateConfigHandler, bind_ok, pure_ok, Prod.mk.injEq,
          exitAccount_writable] at ok
        obtain ⟨c, hload, _, _, c', _, rfl, rfl⟩ := ok
        exact undescribed_config c' (AdminConfig.load_ok.mp hload).1 k
      | setPaused a p =>
        simp only [Call.exec, setPausedHandler, bind_ok, pure_ok, Prod.mk.injEq,
          exitAccount_writable] at ok
        obtain ⟨c, hload, rfl, rfl⟩ := ok
        exact undescribed_config _ (AdminConfig.load_ok.mp hload).1 k
      | withdrawFees a n => exact withdrawFeesHandler_undescribed ok k
      | updateNodeMeta a cap g b =>
        exact updateNodeMetaHandler_undescribed hi ok fun he => hother (congrArg some he)
      | _ => simp [Call.session?] at hidle

end

/-- What a node's asset shows: its offer of now, and what it had earned when its
attributes were last written. -/
structure Shown (l : Ledger) (k : Pubkey) (n n₀ : Node) : Prop where
  asset : Displays (l n.asset) k
    (nodeAttributes n.capacity n.geo n₀.reputation n₀.totalUnits)
  reputation : n₀.reputation ≤ n.reputation
  totalUnits : n₀.totalUnits ≤ n.totalUnits

theorem Shown.fresh {l : Ledger} {k : Pubkey} {n : Node}
    (h : Displays (l n.asset) k (nodeAttributes n.capacity n.geo n.reputation n.totalUnits)) :
    Shown l k n n :=
  ⟨h, UInt32.le_refl _, UInt64.le_refl _⟩

theorem Shown.later {l l' : Ledger} {k : Pubkey} {n n₀ n' : Node} (h : Shown l k n n₀)
    (hn : (l k).data = .node n) (step : Undescribed l l' k) (same : n.SameOffer n') :
    Shown l' k n' n₀ := by
  constructor
  · rw [same.asset, same.capacity, same.geo]
    exact step.asset n _ hn h.asset
  · exact UInt32.le_trans h.reputation same.reputation
  · exact UInt64.le_trans h.totalUnits same.totalUnits

/-- Registration and update write the attributes the node has then. -/
theorem Step.described {rt : Runtime} {l l' : Ledger} {label : Label rt} {k : Pubkey} {n' : Node}
    (h : Step rt l label l')
    (hk : Event.describes k (⟨l, label, l'⟩ : Event rt) = true) (hn' : (l' k).data = .node n')
    (before : ∀ n, (l k).data = .node n → ∃ n₀, Shown l k n n₀) : Shown l' k n' n' := by
  cases h with
  | external | commit => cases hk
  | @call ctx c _ _ ts hp ok =>
    have hc : c.describes? = some k := by simpa [Event.describes] using hk
    cases c with
    | registerNode a name u cap g r =>
      obtain ⟨n, hr⟩ := registerNodeHandler_effect ok
      obtain rfl : a.node = k := Option.some.inj hc
      obtain rfl : n = n' := by simpa [hr.node] using hn'
      obtain ⟨c, hasset, hauth, hattrs⟩ := hr.asset.2
      exact .fresh ⟨hr.assetFunded, .inr ⟨c, hasset, hauth, hattrs⟩⟩
    | updateNodeMeta a cap g b =>
      obtain ⟨n, m, c, attributes, hn, hasset, same, rfl, rfl⟩ := updateNodeMetaHandler_ok ok
      obtain rfl : a.node = k := Option.some.inj hc
      obtain rfl : m = n' := by simpa using hn'
      obtain ⟨n₀, shown⟩ := before n hn
      obtain ⟨d, hd, hauth, _⟩ : ∃ d, (l n.asset).data = .core d ∧ d.updateAuthority = a.node ∧
          d.attributes = _ := by simpa [hasset] using shown.asset.asset
      obtain rfl : c = d := by simpa [hasset] using hd
      have hne : n.asset ≠ a.node := ne_of_data hasset hn (by simp)
      refine .fresh ?_
      rw [same.asset]
      refine ⟨by simpa using shown.asset.funded, .inr ⟨
        { c with attributes := nodeAttributes m.capacity m.geo m.reputation m.totalUnits },
        ?_, hauth, rfl⟩⟩
      rw [Ledger.setData_data, if_neg hne, Ledger.setData_self]
    | _ => simp [Call.describes?] at hc

/-- In any run, every node's asset shows its offer of now. -/
theorem run_shown {rt : Runtime} {start l : Ledger} {tr : History rt} (genesis : Genesis start)
    (run : Run (Step rt) start tr l) (k : Pubkey) :
    ∀ n, (l k).data = .node n → ∃ n₀, described k tr = some n₀ ∧ Shown l k n n₀ := by
  refine run.history (fun tr l => ∀ n, (l k).data = .node n →
    ∃ n₀, described k tr = some n₀ ∧ Shown l k n n₀) (fun n hn => ?_) ?_
  · have hk := genesis k
    simp [hn, AccountData.ownedByProgram] at hk
  · intro tr l label l' run ih hstep n' hn'
    have hi := run_inv genesis run
    cases hk : Event.describes k (⟨l, label, l'⟩ : Event rt) with
    | true =>
      refine ⟨n', by simp [SolMesh.described, hk, hn'], hstep.described hk hn' fun n hn => ?_⟩
      obtain ⟨n₀, _, shown⟩ := ih n hn
      exact ⟨n₀, shown⟩
    | false =>
      have step := hstep.undescribed hi hk
      obtain ⟨n, hn, same⟩ := step.node n' hn'
      obtain ⟨n₀, hlast, shown⟩ := ih n hn
      exact ⟨n₀, by simpa [SolMesh.described, hk] using hlast, shown.later hn step same⟩

/-- A node's asset, unless its owner burned it, shows the offer of now and the
reputation and units that the node had when it was last registered or updated,
which its present ones are never below. An update leaves what the node has
earned, and its provider, as they are. -/
theorem node_attributes_consistent {rt : Runtime} {start l : Ledger} {tr : History rt}
    (genesis : Genesis start) (run : Run (Step rt) start tr l) (k : Pubkey) (n : Node)
    (hn : (l k).data = .node n) :
    (∃ n₀, described k tr = some n₀ ∧ n₀.reputation ≤ n.reputation ∧
      n₀.totalUnits ≤ n.totalUnits ∧
      ((l n.asset).data = .burned ∨ ∃ c, (l n.asset).data = .core c ∧ c.updateAuthority = k ∧
        c.attributes = [⟨"capacity", toString n.capacity.toNat⟩, ⟨"geo", n.geo⟩,
          ⟨"reputation", toString n₀.reputation.toNat⟩,
          ⟨"total_units", toString n₀.totalUnits.toNat⟩])) ∧
    ∀ ctx (a : UpdateNodeMeta rt) capacity geo active l' ts, a.node = k →
      (Call.updateNodeMeta a capacity geo active).exec ctx l = .ok (l', ts) →
      ∃ n', (l' k).data = .node n' ∧ n'.reputation = n.reputation ∧
        n'.totalUnits = n.totalUnits ∧ n'.totalSettled = n.totalSettled ∧
        n'.provider = n.provider := by
  constructor
  · obtain ⟨n₀, hlast, shown⟩ := run_shown genesis run k n hn
    exact ⟨n₀, hlast, shown.reputation, shown.totalUnits, shown.asset.asset⟩
  · intro ctx a capacity geo active l' ts hk ok
    subst hk
    obtain ⟨m, n', c, _, hm, _, same, _, rfl⟩ := updateNodeMetaHandler_ok ok
    obtain rfl : n = m := by simpa [hn] using hm
    exact ⟨n', Ledger.setData_self _ _ _, same.reputation, same.totalUnits, same.totalSettled,
      same.provider⟩

section
open Localnet Transaction

/-- An update that leaves `geo` out between two checkpoints. -/
def updatedNode : Ledger × History Localnet.rt :=
  submit Localnet.start (deploy ++ [openSol 7 1000000,
    cosigned 5 (update 7 1 300000 1000)
      (.checkpointSettle (settleAccounts 7) (update 7 1 300000 1000)),
    submitted 6 (.updateNodeMeta ⟨config, node, 16, stranger, provider, mplCore⟩ (some 700) none
      (some false)),
    cosigned 7 (update 7 2 400000 1500)
      (.checkpointSettle (settleAccounts 7) (update 7 2 400000 1500))])

/-- The node after both checkpoints. -/
def movedNode : Node :=
  { disputedNode with
    capacity := 700, active := false, totalUnits := 1500, totalSettled := 398000 }

theorem node_attributes_consistent_updated :
    ∃ n₀ : Node, n₀.reputation ≤ movedNode.reputation ∧ n₀.totalUnits ≤ movedNode.totalUnits ∧
      ∃ c, (updatedNode.1 16).data = .core c ∧
        c.attributes = [⟨"capacity", "700"⟩, ⟨"geo", "geo"⟩, ⟨"reputation", "2"⟩,
          ⟨"total_units", "1000"⟩] := by
  have run : Run (Step Localnet.rt) Localnet.start updatedNode.2 updatedNode.1 := submit_run _ _
  obtain ⟨⟨n₀, hlast, hrep, hunits, hasset⟩, _⟩ := node_attributes_consistent start_genesis run
    Localnet.node movedNode (by decide +kernel)
  have haddress : movedNode.asset = 16 := rfl
  have kept : (updatedNode.1 16).data ≠ .burned := by decide +kernel
  have written : (described Localnet.node updatedNode.2).map (fun n => (n.reputation,
      n.totalUnits)) = some (2, 1000) := by decide +kernel
  rw [hlast, Option.map_some, Option.some.injEq, Prod.mk.injEq] at written
  obtain ⟨hr, hu⟩ := written
  rw [haddress, hr, hu] at hasset
  rcases hasset with hb | ⟨c, hc, _, hattrs⟩
  · exact absurd hb kept
  · exact ⟨n₀, hrep, hunits, c, hc, hattrs⟩

end

end SolMesh
