import SolMesh.Model.Localnet
import SolMesh.Proofs.Records
import SolMesh.Support.Stewardship

namespace SolMesh
open Outcome Runs

/-- What a provider offers with a node. -/
structure Offer where
  asset : Pubkey
  capacity : UInt64
  geo : String
  active : Bool
  deriving DecidableEq

structure Revision where
  capacity : Option UInt64
  geo : Option String
  active : Option Bool
  deriving DecidableEq

namespace Offer

/-- There is capacity, and the text fits the record. -/
def Sound (o : Offer) : Prop :=
  0 < o.capacity.toNat ∧ o.geo.utf8ByteSize ≤ maxString

def revised (o : Offer) (v : Revision) : Offer where
  asset := o.asset
  capacity := v.capacity.getD o.capacity
  geo := v.geo.getD o.geo
  active := v.active.getD o.active

/-- A revision replaces what it names, and is refused where that is not sound. -/
def revise (v : Revision) (o : Offer) : Option Offer :=
  if v.capacity ≠ some 0 ∧ ∀ g ∈ v.geo, g.utf8ByteSize ≤ maxString then
    some (o.revised v)
  else none

theorem revise_ok {v : Revision} {o o' : Offer} (h : revise v o = some o') :
    (v.capacity ≠ some 0 ∧ ∀ g ∈ v.geo, g.utf8ByteSize ≤ maxString) ∧ o.revised v = o' := by
  simpa [revise] using h

theorem Sound.revise {v : Revision} {o o' : Offer} (h : o.Sound) (he : revise v o = some o') :
    o'.Sound := by
  obtain ⟨⟨capacity, geo⟩, rfl⟩ := revise_ok he
  refine ⟨?_, ?_⟩
  · cases hc : v.capacity with
    | none => simpa [revised, hc] using h.1
    | some c =>
      have positive : c ≠ 0 := fun h => capacity (hc.trans (congrArg some h))
      simpa [revised, hc] using UInt64.lt_iff_toNat_lt.mp (UInt64.pos_iff_ne_zero.mpr positive)
  · cases hg : v.geo with
    | none => simpa [revised, hg] using h.2
    | some g => simpa [revised, hg] using geo g hg

end Offer

def Node.offer (n : Node) : Offer where
  asset := n.asset
  capacity := n.capacity
  geo := n.geo
  active := n.active

/-- What a node offers, and whose it is. -/
def AccountData.listing : AccountData → Stewardship.Register Pubkey Offer
  | .node n => some (n.provider, n.offer)
  | _ => none

theorem listing_some {d : AccountData} {p : Pubkey} {o : Offer} (h : d.listing = some (p, o)) :
    ∃ n, d = .node n ∧ n.provider = p ∧ n.offer = o := by
  cases d with
  | node n =>
    simp only [AccountData.listing, Option.some.injEq, Prod.mk.injEq] at h
    exact ⟨n, rfl, h⟩
  | _ => cases h

theorem listing_of_plain {d : AccountData} (h : d.plain = true) : d.listing = none := by
  cases d <;> first | rfl | cases h

theorem Unaltered.listing {d d' : AccountData} (h : Unaltered d d') : d'.listing = d.listing := by
  cases h with
  | same eq => rw [eq]
  | plain before after => rw [listing_of_plain before, listing_of_plain after]
  | tracked n n' before after same =>
    simp [before, after, AccountData.listing, Node.offer, same.provider, same.asset,
      same.capacity, same.geo, same.active]

theorem Administered.listing {d d' : AccountData} (h : Administered d d') :
    d'.listing = d.listing := by
  rcases h with he | ⟨rfl | ⟨c, rfl⟩, c', rfl⟩
  · rw [he]
  · rfl
  · rfl

abbrev Entry := Stewardship.Deed Pubkey Revision Offer

/-- What a call enters for a node, and who signed it. -/
def Call.entry? {rt : Runtime} (x : Pubkey) : Call rt → Option Entry
  | .registerNode a _ _ capacity geo _ =>
    if a.node = x then some (.found a.provider.key ⟨a.asset.key, capacity, geo, true⟩) else none
  | .updateNodeMeta a capacity geo active =>
    if a.node = x then some (.amend a.provider.key ⟨capacity, geo, active⟩) else none
  | _ => none

def Label.entry? {rt : Runtime} (x : Pubkey) : Label rt → Option Entry
  | .call _ c _ => c.entry? x
  | .external | .commit => none

/-- The entries of a history for a node, in order. -/
def entriesFor {rt : Runtime} (x : Pubkey) (tr : History rt) : List Entry :=
  tr.filterMap fun y => y.label.entry? x

section
variable {rt : Runtime} {l l' : Ledger} {label : Label rt} {x : Pubkey} {ts : List Transfer}

theorem Step.no_entry (hi : Inv rt l) (h : Step rt l label l') (he : label.entry? x = none) :
    (l' x).data.listing = (l x).data.listing := by
  cases admin : label.administers with
  | true => exact (h.administered admin x).listing
  | false =>
    refine (h.unaltered hi admin fun listed => ?_).listing
    cases label with
    | external | commit => cases listed
    | call ctx c ts =>
      cases c with
      | registerNode a | updateNodeMeta a =>
        cases listed
        simp [Label.entry?, Call.entry?] at he
      | _ => cases listed

theorem Node.withCapacity_ok {n n' : Node} {capacity : Option UInt64}
    (h : n.withCapacity capacity = .ok n') :
    capacity ≠ some 0 ∧ n' = { n with capacity := capacity.getD n.capacity } := by
  cases capacity with
  | none => exact ⟨by simp, (pure_ok.mp h).symm⟩
  | some c =>
    simp only [Node.withCapacity, bind_ok, require_ok, pure_ok] at h
    obtain ⟨_, hc, rfl⟩ := h
    refine ⟨fun hzero => ?_, rfl⟩
    obtain rfl := Option.some.inj hzero
    exact absurd hc (by decide)

theorem Node.withGeo_ok {n n' : Node} {geo : Option String} (h : n.withGeo geo = .ok n') :
    (∀ g ∈ geo, g.utf8ByteSize ≤ maxString) ∧ n' = { n with geo := geo.getD n.geo } := by
  cases geo with
  | none => exact ⟨by simp, (pure_ok.mp h).symm⟩
  | some g =>
    simp only [Node.withGeo, bind_ok, require_ok, pure_ok] at h
    obtain ⟨_, hg, rfl⟩ := h
    refine ⟨fun g' hg' => ?_, rfl⟩
    obtain rfl := Option.some.inj hg'
    exact hg

theorem Node.withActive_eq (n : Node) (active : Option Bool) :
    n.withActive active = { n with active := active.getD n.active } := by
  cases active <;> rfl

theorem registerNodeHandler_founds {a : RegisterNode rt} {name uri geo : String}
    {capacity : UInt64} {initReputation : UInt32}
    (h : registerNodeHandler rt l a name uri capacity geo initReputation = .ok (l', ts)) :
    Stewardship.Step Offer.Sound Offer.revise (l a.node).data.listing
      (.found a.provider.key ⟨a.asset.key, capacity, geo, true⟩) (l' a.node).data.listing := by
  simp only [registerNodeHandler, bind_ok, require_ok, pure_ok, Prod.mk.injEq,
    exitAccount_writable] at h
  obtain ⟨_, _, _, _, _, _, l₁, h₁, _, _, _, _, _, ⟨_, hgeo, _⟩, _, hcap, l₂, _, rfl, rfl⟩ := h
  rw [(initAccount_ok h₁).fresh, Ledger.setData_self]
  exact .found _ ⟨UInt64.lt_iff_toNat_lt.mp hcap, hgeo⟩

theorem updateNodeMetaHandler_amends {a : UpdateNodeMeta rt} {capacity : Option UInt64}
    {geo : Option String} {active : Option Bool}
    (h : updateNodeMetaHandler rt l a capacity geo active = .ok (l', ts)) :
    Stewardship.Step Offer.Sound Offer.revise (l a.node).data.listing
      (.amend a.provider.key ⟨capacity, geo, active⟩) (l' a.node).data.listing := by
  simp only [updateNodeMetaHandler, bind_ok, loadNode_ok, require_ok, pure_ok, Prod.mk.injEq,
    exitAccount_writable] at h
  obtain ⟨_, _, _, _, n, hn, _, signed, _, _, _, _, _, _, n₁, h₁, n₂, h₂, l₁, _, rfl, rfl⟩ := h
  obtain ⟨hcapacity, rfl⟩ := Node.withCapacity_ok h₁
  obtain ⟨hgeo, rfl⟩ := Node.withGeo_ok h₂
  rw [hn, Ledger.setData_self, Node.withActive_eq]
  simp only [AccountData.listing, signed]
  exact .amend (if_pos ⟨hcapacity, hgeo⟩)

theorem Step.enters (h : Step rt l label l') {d : Entry} (hd : label.entry? x = some d) :
    Stewardship.Step Offer.Sound Offer.revise (l x).data.listing d (l' x).data.listing := by
  cases h with
  | external | commit => cases hd
  | @call ctx c _ _ ts hp ok =>
    cases c with
    | registerNode a n u cap g r =>
      simp only [Label.entry?, Call.entry?, Option.ite_none_right_eq_some] at hd
      obtain ⟨rfl, hd⟩ := hd
      cases hd
      exact registerNodeHandler_founds ok
    | updateNodeMeta a cap g b =>
      simp only [Label.entry?, Call.entry?, Option.ite_none_right_eq_some] at hd
      obtain ⟨rfl, hd⟩ := hd
      cases hd
      exact updateNodeMetaHandler_amends ok
    | _ => cases hd

end

section
variable {rt : Runtime} {start l : Ledger} {tr : History rt} {x : Pubkey}

theorem run_listed (genesis : Genesis start) (run : Run (Step rt) start tr l) (x : Pubkey) :
    (entriesFor x tr = [] ∧ (l x).data.listing = none) ∨ ∃ provider founding revisions offer,
      entriesFor x tr = .found provider founding :: revisions.map (.amend provider) ∧
        founding.Sound ∧ Stewardship.replay Offer.revise revisions founding = some offer ∧
        (l x).data.listing = some (provider, offer) := by
  have empty : (start x).data.listing = none :=
    listing_of_plain (AccountData.plain_of_unowned (genesis x))
  have listed := (run.within (genesis_inv genesis) Step.inv).project
    (fun l => (l x).data.listing) (Label.entry? x) (fun h hd => h.2.enters hd)
    fun h hd => h.2.no_entry h.1 hd
  rw [empty] at listed
  have shown := project_labels (fun l : Ledger => (l x).data.listing)
    (fun d : Label rt => d.entry? x) tr
  rcases Stewardship.run_replayed listed with ⟨hnil, hn⟩ | ⟨p, o, vs, o', hl, hf, hr, hs⟩
  · refine .inl ⟨?_, hn⟩
    rw [entriesFor, ← shown, hnil]
    rfl
  · exact .inr ⟨p, o, vs, o', shown.symm.trans hl, hf, hr, hs⟩

/-- Both keys of the founding entry signed it. -/
theorem mem_entries {p : Pubkey} {o : Offer}
    (h : Stewardship.Deed.found p o ∈ entriesFor x tr) : ¬ rt.IsPda p ∧ ¬ rt.IsPda o.asset := by
  obtain ⟨⟨_, label, _⟩, _, hd⟩ := List.mem_filterMap.mp h
  cases label with
  | external | commit => cases hd
  | call ctx c ts =>
    cases c with
    | registerNode a n u cap g r =>
      simp only [Label.entry?, Call.entry?, Option.ite_none_right_eq_some] at hd
      obtain ⟨_, hd⟩ := hd
      cases hd
      exact ⟨a.provider.property, a.asset.property⟩
    | updateNodeMeta a cap g b => simp [Label.entry?, Call.entry?] at hd
    | _ => cases hd

/-- An address shows no node before `register_node`, and from then on always one:
the one its provider and its asset signed for, with what that provider's own
later calls have made of its offer, call after call. Sessions and payouts move
its trackers and nothing else, and the offer stays sound. -/
theorem node_replayed (genesis : Genesis start) (run : Run (Step rt) start tr l) (x : Pubkey) :
    (entriesFor x tr = [] ∧ ∀ n, (l x).data ≠ .node n) ∨
      ∃ provider founding revisions n,
        entriesFor x tr = .found provider founding :: revisions.map (.amend provider) ∧
        ¬ rt.IsPda provider ∧ ¬ rt.IsPda founding.asset ∧
        Stewardship.replay Offer.revise revisions founding = some n.offer ∧
        (l x).data = .node n ∧ rt.find (.node founding.asset) = some (x, n.bump) ∧
        n.provider = provider ∧ n.asset = founding.asset ∧
        n.capacity = (revisions.filterMap Revision.capacity).getLast?.getD founding.capacity ∧
        n.geo = (revisions.filterMap Revision.geo).getLast?.getD founding.geo ∧
        n.active = (revisions.filterMap Revision.active).getLast?.getD founding.active ∧
        n.offer.Sound := by
  have hi := run_inv genesis run
  rcases run_listed genesis run x with ⟨hnil, hnone⟩ |
    ⟨provider, founding, vs, o, hd, sound, hr, hs⟩
  · refine .inl ⟨hnil, fun n hn => ?_⟩
    rw [hn] at hnone
    cases hnone
  · obtain ⟨n, hn, howner, rfl⟩ := listing_some hs
    obtain ⟨hprovider, hasset⟩ := mem_entries (hd ▸ List.mem_cons_self)
    have same : n.asset = founding.asset := by
      refine Stewardship.replay_keeps (P := fun o : Offer => o.asset = founding.asset) ?_ rfl hr
      intro v o o' kept he
      obtain ⟨_, rfl⟩ := Offer.revise_ok he
      exact kept
    refine .inr ⟨provider, founding, vs, n, hd, hprovider, hasset, hr, hn,
      same ▸ (hi.node x n hn).1.address, howner, same, ?_, ?_, ?_,
      Stewardship.replay_keeps Offer.Sound.revise sound hr⟩
    · refine Stewardship.replay_last (f := Offer.capacity) ?_ hr
      intro v o o' he
      obtain ⟨_, rfl⟩ := Offer.revise_ok he
      rfl
    · refine Stewardship.replay_last (f := Offer.geo) ?_ hr
      intro v o o' he
      obtain ⟨_, rfl⟩ := Offer.revise_ok he
      rfl
    · refine Stewardship.replay_last (f := Offer.active) ?_ hr
      intro v o o' he
      obtain ⟨_, rfl⟩ := Offer.revise_ok he
      rfl

end

section
open Localnet Transaction

def metaAccounts (signer : Signer Localnet.rt) : UpdateNodeMeta Localnet.rt :=
  ⟨config, node, 16, stranger, signer, mplCore⟩

/-- The provider doubles the capacity and closes the node; a stranger's attempt
to reopen it fails. -/
def revisedRun : Ledger × History Localnet.rt :=
  submit Localnet.start (deploy ++
    [submitted 1 (.updateNodeMeta (metaAccounts provider) (some 2000) none none),
     submitted 2 (.updateNodeMeta (metaAccounts provider) none none (some false)),
     submitted 3 (.updateNodeMeta (metaAccounts stranger) none none (some true))])

theorem node_replayed_revised : ∃ n, (revisedRun.1 node).data = .node n ∧ n.provider = 2 ∧
    n.asset = 16 ∧ n.capacity = 2000 ∧ n.geo = "geo" ∧ n.active = false := by
  have run : Run (Step Localnet.rt) Localnet.start revisedRun.2 revisedRun.1 := submit_run _ _
  have made : entriesFor node revisedRun.2 = [.found 2 ⟨16, 1000, "geo", true⟩,
      .amend 2 ⟨some 2000, none, none⟩, .amend 2 ⟨none, none, some false⟩] := by decide +kernel
  rcases node_replayed start_genesis run node with ⟨hnil, _⟩ |
    ⟨provider, founding, vs, n, hd, _, _, _, hn, _, howner, hasset, hcapacity, hgeo, hactive, _⟩
  · rw [made] at hnil
    cases hnil
  · rw [made] at hd
    obtain ⟨hfound, hrest⟩ := List.cons.inj hd
    cases hfound
    have revised : [⟨some 2000, none, none⟩, ⟨none, none, some false⟩] = vs :=
      List.map_injective_iff.mpr (fun a b h => by cases h; rfl) hrest
    subst revised
    exact ⟨n, hn, howner, hasset, hcapacity, hgeo, hactive⟩

end

end SolMesh
