import SolMesh.Proofs.Escrow

namespace SolMesh
open Outcome Words

/-- The same session with its escrow in tokens. -/
def Session.inTokens (s : Session) (mint : Pubkey) (vaultBump : UInt8) : Session :=
  { s with mint := some mint, vaultBump := vaultBump }

/-- Where an escrow in tokens lies, and the token accounts of the receivers. -/
structure TokenEnds where
  vaultAuthority : Pubkey
  vaultToken : Pubkey
  dest : Role → Pubkey

/-- The same for an escrow in tokens. -/
structure SplEscrow (rt : Runtime) (k : Pubkey) (s : Session) (mint : Pubkey) (bump : UInt8)
    (feeVault : Pubkey) (e : TokenEnds) (l : Ledger) : Prop where
  authority : rt.find (.vault k) = some (e.vaultAuthority, bump)
  vault : ∃ t, (l e.vaultToken).data = .token t ∧ t.mint = mint ∧ t.owner = e.vaultAuthority ∧
    s.unsettled ≤ t.amount.toNat
  apart : ∀ r, e.dest r ≠ e.vaultToken
  dest : ∀ r, ∃ t, (l (e.dest r)).data = .token t ∧ t.mint = mint ∧
    t.owner = s.payee feeVault r ∧ t.amount.toNat + s.unsettled < 2 ^ 64

section
variable {k feeVault : Pubkey} {s s' : Session} {l mid l' : Ledger} {xs : List (Role × UInt64)}

theorem SolEscrow.of_lamports (h : SolEscrow k s feeVault l)
    (hlam : ∀ x, (l' x).lamports = (l x).lamports) : SolEscrow k s feeVault l' :=
  ⟨hlam k ▸ h.cover, h.apart, fun r => hlam (s.payee feeVault r) ▸ h.room r⟩

/-- What is left after payouts still covers what is then unsettled. -/
theorem SolEscrow.after (h : SolEscrow k s feeVault l) (terms : s.SameTerms s')
    (hpaid : LamportsPaid l (transfersTo k k (s.payee feeVault) xs) mid)
    (hflow : (xs.map fun x => x.2.toNat).sum + s'.unsettled ≤ s.unsettled)
    (hlam : ∀ x, (l' x).lamports = (mid x).lamports) : SolEscrow k s' feeVault l' := by
  have total := amountOf_transfersTo k k (s.payee feeVault) xs
  have moves := hpaid.moves
  have cover := h.cover
  have away : ∀ r, s'.payee feeVault r ≠ k := fun r => terms.payee feeVault r ▸ h.apart r
  refine ⟨?_, away, fun r => ?_⟩
  · have hk := moves.lamports k
    have hdebit := debit_le_amount k (transfersTo k k (s.payee feeVault) xs)
    rw [hlam]
    omega
  · have hx := moves.lamports (s.payee feeVault r)
    have hcredit := credit_le (s.payee feeVault r) (transfersTo k k (s.payee feeVault) xs)
    have hroom := h.room r
    rw [hlam, terms.payee]
    omega

variable {rt : Runtime} {mint : Pubkey} {bump : UInt8} {e : TokenEnds}

/-- Such an escrow makes payouts up to what is unsettled. -/
theorem SplEscrow.pays (h : SplEscrow rt k s mint bump feeVault e l) (xs : List (Role × UInt64))
    (hle : (xs.map fun x => x.2.toNat).sum ≤ s.unsettled) :
    ∃ mid, TokensPaid rt e.vaultAuthority k bump l (transfersTo k e.vaultToken e.dest xs) mid := by
  have covers : VaultCovers rt l e.vaultToken mint e.vaultAuthority k bump s.unsettled :=
    ⟨create_of_find h.authority, h.vault⟩
  refine covers.pays (fun r => ?_) h.apart xs hle
  obtain ⟨t, ht, hmint, _, hroom⟩ := h.dest r
  exact ⟨t, ht, hmint, hroom⟩

theorem SplEscrow.of_tokens (h : SplEscrow rt k s mint bump feeVault e l)
    (htok : ∀ x t, (l x).data = .token t → (l' x).data = .token t) :
    SplEscrow rt k s mint bump feeVault e l' := by
  obtain ⟨v, hv, hvault⟩ := h.vault
  refine ⟨h.authority, ⟨v, htok _ v hv, hvault⟩, h.apart, fun r => ?_⟩
  obtain ⟨t, ht, hdest⟩ := h.dest r
  exact ⟨t, htok _ t ht, hdest⟩

theorem SplEscrow.after (h : SplEscrow rt k s mint bump feeVault e l) (terms : s.SameTerms s')
    (hpaid : TokensPaid rt e.vaultAuthority k bump l (transfersTo k e.vaultToken e.dest xs) mid)
    (hflow : (xs.map fun x => x.2.toNat).sum + s'.unsettled ≤ s.unsettled)
    (htok : ∀ x t, (l x).data = .token t → (l' x).data = (mid x).data) :
    SplEscrow rt k s' mint bump feeVault e l' := by
  have total := amountOf_transfersTo k e.vaultToken e.dest xs
  have moves := hpaid.moves
  refine ⟨h.authority, ?_, h.apart, fun r => ?_⟩
  · obtain ⟨v, hv, hmint, howner, hcover⟩ := h.vault
    obtain ⟨v', hv', hm', ho', he⟩ := moves.token _ v hv
    have hdebit := debit_le_amount e.vaultToken (transfersTo k e.vaultToken e.dest xs)
    exact ⟨v', (htok _ v hv).trans hv', hm'.trans hmint, ho'.trans howner, by omega⟩
  · obtain ⟨t, ht, hmint, howner, hroom⟩ := h.dest r
    obtain ⟨t', ht', hm', ho', he⟩ := moves.token _ t ht
    have hcredit := credit_le (e.dest r) (transfersTo k e.vaultToken e.dest xs)
    refine ⟨t', (htok _ t ht).trans ht', hm'.trans hmint, ?_, by omega⟩
    rw [ho', howner, terms.payee]

end

/-- The records of the program that a session instruction reads beside the
session's own. -/
def AccountData.registry : AccountData → Option (Config ⊕ Node)
  | .config c => some (.inl c)
  | .node n => some (.inr n)
  | .system | .session _ | .token _ | .mint | .core _ | .burned | .foreign _ => none

def SameRegistry (l m : Ledger) : Prop :=
  ∀ x, (l x).data.registry = (m x).data.registry

section
variable {l l₁ m m₁ : Ledger} {x k : Pubkey} {c : Config} {n : Node}

theorem registry_config {d : AccountData} : d.registry = some (.inl c) ↔ d = .config c := by
  cases d <;> simp [AccountData.registry]

theorem registry_node {d : AccountData} : d.registry = some (.inr n) ↔ d = .node n := by
  cases d <;> simp [AccountData.registry]

theorem SameRegistry.config (h : SameRegistry l m) :
    (l x).data = .config c ↔ (m x).data = .config c := by
  rw [← registry_config, ← registry_config, h x]

theorem SameRegistry.node (h : SameRegistry l m) :
    (l x).data = .node n ↔ (m x).data = .node n := by
  rw [← registry_node, ← registry_node, h x]

theorem LamportsPaid.registry {ts : List Transfer} (h : LamportsPaid l ts l₁) :
    SameRegistry l l₁ := fun x => by rw [h.moves.data x]

theorem TokensPaid.registry {rt : Runtime} {authority : Pubkey} {bump : UInt8}
    {ts : List Transfer} (h : TokensPaid rt authority k bump l ts l₁) : SameRegistry l l₁ := by
  intro x
  by_cases ht : ∃ t, (l x).data = .token t
  · obtain ⟨t, ht⟩ := ht
    obtain ⟨t', ht', _⟩ := h.moves.token x t ht
    rw [ht, ht']
    rfl
  · rw [h.moves.data x fun t he => ht ⟨t, he⟩]

theorem SameRegistry.trans {l₂ : Ledger} (h : SameRegistry l l₁) (h' : SameRegistry l₁ l₂) :
    SameRegistry l l₂ := fun x => (h x).trans (h' x)

theorem SameRegistry.symm (h : SameRegistry l m) : SameRegistry m l := fun x => (h x).symm

/-- Equal records stay equal when both are overwritten alike. -/
theorem SameRegistry.setData (h : SameRegistry l m) {d d' : AccountData}
    (hd : d.registry = d'.registry) (x : Pubkey) :
    SameRegistry (l.setData x d) (m.setData x d') := by
  intro y
  rw [Ledger.setData_data, Ledger.setData_data]
  split
  · exact hd
  · exact h y

end

/-- Two chains on which the same session lives, on the one with its escrow in
lamports and on the other with its escrow in tokens. -/
structure Twins (rt : Runtime) (k mint : Pubkey) (bump : UInt8) (feeVault : Pubkey)
    (e : TokenEnds) (l m : Ledger) (s : Session) : Prop where
  registry : SameRegistry l m
  fees : ∀ x c, (l x).data = .config c → c.feeVault = feeVault
  inLamports : s.mint = none
  sol : (l k).data = .session s
  spl : (m k).data = .session (s.inTokens mint bump)
  lamports : s.status.terminal = false → SolEscrow k s feeVault l
  tokens : s.status.terminal = false → SplEscrow rt k s mint bump feeVault e m

theorem Ledger.setData_comm (l : Ledger) {x y : Pubkey} (h : x ≠ y) (d d' : AccountData) :
    (l.setData x d).setData y d' = (l.setData y d').setData x d := by
  funext z
  unfold Ledger.setData
  by_cases hx : z = x
  · subst hx
    simp [h]
  · by_cases hy : z = y
    · subst hy
      simp [Ne.symm h]
    · simp [hx, hy]

section
variable {rt : Runtime} {k mint feeVault : Pubkey} {bump : UInt8} {e : TokenEnds}
  {l l' m m' : Ledger} {s s' : Session}

/-- Both chains after the session's payouts of the same amounts, with its new
record. -/
theorem Twins.paid (h : Twins rt k mint bump feeVault e l m s)
    (alive : s.status.terminal = false) (xs : List (Role × UInt64)) {midL midM : Ledger}
    (hl : LamportsPaid l (transfersTo k k (s.payee feeVault) xs) midL)
    (hm : TokensPaid rt e.vaultAuthority k bump m (transfersTo k e.vaultToken e.dest xs) midM)
    (terms : s.SameTerms s') (flow : s'.status.terminal = false →
      (xs.map fun x => x.2.toNat).sum + s'.unsettled ≤ s.unsettled) :
    Twins rt k mint bump feeVault e (midL.setData k (.session s'))
      (midM.setData k (.session (s'.inTokens mint bump))) s' := by
  have registry : SameRegistry midL midM :=
    hl.registry.symm.trans (h.registry.trans hm.registry)
  refine ⟨registry.setData (by rfl) k, fun x c hc => ?_, terms.mint.trans h.inLamports,
    Ledger.setData_self _ _ _, Ledger.setData_self _ _ _, fun ha => ?_, fun ha => ?_⟩
  · by_cases hx : x = k
    · subst hx
      simp at hc
    · rw [Ledger.setData_data, if_neg hx, hl.moves.data] at hc
      exact h.fees x c hc
  · exact (h.lamports alive).after terms hl (flow ha) (by simp)
  · exact (h.tokens alive).after terms hm (flow ha) fun x t ht => token_of_record h.spl ht

/-- Twins remain twins when both chains rewrite the record of a node alike. -/
theorem Twins.setNode (h : Twins rt k mint bump feeVault e l m s) {x : Pubkey} {n : Node}
    (hn : (l x).data = .node n) (n' : Node) :
    Twins rt k mint bump feeVault e (l.setData x (.node n')) (m.setData x (.node n')) s := by
  have hxl : x ≠ k := ne_of_data hn h.sol (by simp)
  have hn' : (m x).data = .node n := h.registry.node.mp hn
  refine ⟨h.registry.setData rfl x, fun y c hc => ?_, h.inLamports, ?_, ?_, fun ha => ?_,
    fun ha => ?_⟩
  · by_cases hy : y = x
    · subst hy
      simp at hc
    · rw [Ledger.setData_data, if_neg hy] at hc
      exact h.fees y c hc
  · rw [Ledger.setData_data, if_neg (Ne.symm hxl), h.sol]
  · rw [Ledger.setData_data, if_neg (Ne.symm hxl), h.spl]
  · exact (h.lamports ha).of_lamports (by simp)
  · refine (h.tokens ha).of_tokens fun y t ht => ?_
    rw [Ledger.setData_data, if_neg (ne_of_data ht hn' (by simp)), ht]

/-- The same for a config that keeps its fee vault. -/
theorem Twins.setConfig (h : Twins rt k mint bump feeVault e l m s) {x : Pubkey} {c c' : Config}
    (hc : (l x).data = .config c) (hv : c'.feeVault = c.feeVault) :
    Twins rt k mint bump feeVault e (l.setData x (.config c')) (m.setData x (.config c')) s := by
  have hxl : x ≠ k := ne_of_data hc h.sol (by simp)
  have hc' : (m x).data = .config c := h.registry.config.mp hc
  refine ⟨h.registry.setData rfl x, fun y d hd => ?_, h.inLamports, ?_, ?_, fun ha => ?_,
    fun ha => ?_⟩
  · by_cases hy : y = x
    · subst hy
      obtain rfl : c' = d := by simpa using hd
      exact hv.trans (h.fees y c hc)
    · rw [Ledger.setData_data, if_neg hy] at hd
      exact h.fees y d hd
  · rw [Ledger.setData_data, if_neg (Ne.symm hxl), h.sol]
  · rw [Ledger.setData_data, if_neg (Ne.symm hxl), h.spl]
  · exact (h.lamports ha).of_lamports (by simp)
  · refine (h.tokens ha).of_tokens fun y t ht => ?_
    rw [Ledger.setData_data, if_neg (ne_of_data ht hc' (by simp)), ht]

end

end SolMesh
