import SolMesh.Model.Localnet
import SolMesh.Proofs.NodeAttributes
import SolMesh.Proofs.StorageFormat

namespace SolMesh
open Outcome Readers Runs

namespace AccountData

def config? : AccountData → Option Config
  | .config c => some c
  | _ => none

def node? : AccountData → Option Node
  | .node n => some n
  | _ => none

def session? : AccountData → Option Session
  | .session s => some s
  | _ => none

/-- What each type's reader makes of the data of an account of the program:
the value where the type is right, and a mismatch where it is not. -/
structure ReadFrom (d : AccountData) (data : List UInt8) : Prop where
  config : configLayout.tryDeserialize data = okOr d.config? .accountDiscriminatorMismatch
  node : nodeLayout.tryDeserialize data = okOr d.node? .accountDiscriminatorMismatch
  session : sessionLayout.tryDeserialize data = okOr d.session? .accountDiscriminatorMismatch

/-- The data starts with the encoding of the record. -/
def Holds (data : List UInt8) : AccountData → Prop
  | .config c => configLayout.Holds c data
  | .node n => nodeLayout.Holds n data
  | .session s => sessionLayout.Holds s data
  | .system | .token _ | .mint | .core _ | .burned | .foreign _ => False

/-- A record fits what was allocated for it. -/
def Fits : AccountData → Prop
  | .node n => n.geo.utf8ByteSize ≤ maxString
  | _ => True

theorem readFrom_iff {d : AccountData} (owned : d.ownedByProgram = true) (data : List UInt8) :
    d.ReadFrom data ↔ d.Holds data := by
  constructor
  · intro h
    cases d with
    | config c => exact configLayout_sound.tryDeserialize_iff.mp h.config
    | node n => exact nodeLayout_sound.tryDeserialize_iff.mp h.node
    | session s => exact sessionLayout_sound.tryDeserialize_iff.mp h.session
    | system | token | mint | core | burned | foreign => cases owned
  · intro h
    cases d with
    | config c =>
      exact ⟨configLayout_sound.tryDeserialize_iff.mpr h, h.mismatch rfl rfl (by decide),
        h.mismatch rfl rfl (by decide)⟩
    | node n =>
      exact ⟨h.mismatch rfl rfl (by decide), nodeLayout_sound.tryDeserialize_iff.mpr h,
        h.mismatch rfl rfl (by decide)⟩
    | session s =>
      exact ⟨h.mismatch rfl rfl (by decide), h.mismatch rfl rfl (by decide),
        sessionLayout_sound.tryDeserialize_iff.mpr h⟩
    | system | token | mint | core | burned | foreign => cases owned

theorem trySerialize_holds {d : AccountData} {data data' : List UInt8}
    (owned : d.ownedByProgram = true) (h : d.trySerialize data = .ok data') :
    data'.length = data.length ∧ d.Holds data' := by
  cases d with
  | config c => exact Layout.trySerialize_holds h
  | node n => exact Layout.trySerialize_holds h
  | session s => exact Layout.trySerialize_holds h
  | system | token | mint | core | burned | foreign => cases owned

/-- Of what the program allocates, only the text of a node can be too small. -/
theorem trySerialize_exists_iff {d : AccountData} (owned : d.ownedByProgram = true)
    {data : List UInt8} (size : data.length = d.space) :
    (∃ data', d.trySerialize data = .ok data') ↔ d.Fits := by
  cases d with
  | config c =>
    have hlen := configLayout_image_length c
    refine iff_of_true (Layout.trySerialize_exists rfl ?_) trivial
    exact Nat.le_of_eq (hlen.trans size.symm)
  | node n =>
    have hlen := nodeLayout_image_length n
    have hsize : data.length = Node.space := size
    constructor
    · intro h
      obtain ⟨data', h⟩ := h
      obtain ⟨-, hle, -⟩ := Layout.trySerialize_ok.mp h
      change n.geo.utf8ByteSize ≤ maxString
      omega
    · intro h
      have hgeo : n.geo.utf8ByteSize ≤ 64 := h
      refine Layout.trySerialize_exists ?_ ?_
      · exact decide_eq_true (show n.geo.utf8ByteSize < 2 ^ 32 by omega)
      · change _ + 64 = _ at hlen
        omega
  | session s =>
    have hlen := sessionLayout_image_length s
    have hsize : data.length = Session.space := size
    refine iff_of_true (Layout.trySerialize_exists rfl ?_) trivial
    omega
  | system | token | mint | core | burned | foreign => cases owned

end AccountData

/-- The account format. The data of a record is read as that record, and as no
other type, exactly when it starts with its encoding; a record written over any
data is read back, and it can be written where it was allocated exactly when the
node's text keeps to its limit. -/
theorem account_format {d : AccountData} (owned : d.ownedByProgram = true) (data : List UInt8) :
    (d.ReadFrom data ↔ d.Holds data) ∧
      (∀ data', d.trySerialize data = .ok data' →
        data'.length = data.length ∧ d.ReadFrom data') ∧
      (data.length = d.space → ((∃ data', d.trySerialize data = .ok data') ↔ d.Fits)) := by
  refine ⟨d.readFrom_iff owned data, fun data' h => ?_, d.trySerialize_exists_iff owned⟩
  obtain ⟨hlen, holds⟩ := d.trySerialize_holds owned h
  exact ⟨hlen, (d.readFrom_iff owned data').mpr holds⟩

/-- The record of a node with a text of two-byte letters. -/
theorem account_format_node :
    let d : AccountData := .node ⟨16, 2, 1000, "Zürich", 3, 40, 0, 50, true, 255⟩
    ∃ data, d.trySerialize (List.replicate d.space 0) = .ok data ∧ d.ReadFrom data := by
  intro d
  obtain ⟨-, hread, hfits⟩ := account_format (d := d) rfl (List.replicate d.space 0)
  obtain ⟨data, h⟩ := (hfits (by simp)).mpr (show "Zürich".utf8ByteSize ≤ maxString by decide)
  exact ⟨data, h, (hread data h).2⟩

/-- What `init` allocates reads as the empty record. -/
example : configLayout.tryDeserializeUnchecked (List.replicate Config.space 0) = .ok default ∧
    nodeLayout.tryDeserializeUnchecked (List.replicate Node.space 0) = .ok default ∧
    sessionLayout.tryDeserializeUnchecked (List.replicate Session.space 0) = .ok default := by
  decide +kernel

/-- The data of an account and what the ledger shows of it. -/
structure Stored (data : List UInt8) (d : AccountData) : Prop where
  size : data.length = d.space
  holds : d.ownedByProgram = true → d.Holds data

theorem AccountData.space_unowned {d : AccountData} (h : d.ownedByProgram = false) :
    d.space = 0 := by
  cases d <;> simp_all [ownedByProgram, space]

/-- Every writing succeeds, over the old data or on newly allocated room. -/
theorem Stored.writeBack {data : List UInt8} {old new : AccountData} (h : Stored data old)
    (same : old.ownedByProgram = true → new.ownedByProgram = true → new.space = old.space)
    (fits : new.Fits) : ∃ data', writeBack data old new = .ok data' ∧ Stored data' new := by
  unfold SolMesh.writeBack
  by_cases hn : new.ownedByProgram = true
  · rw [if_pos hn]
    have size : (if old.ownedByProgram = true then data
        else List.replicate new.space 0).length = new.space := by
      by_cases ho : old.ownedByProgram = true
      · rw [if_pos ho, same ho hn, h.size]
      · rw [if_neg ho, List.length_replicate]
    obtain ⟨data', hdata⟩ := (new.trySerialize_exists_iff hn size).mpr fits
    obtain ⟨hlen, holds⟩ := new.trySerialize_holds hn hdata
    exact ⟨data', hdata, hlen.trans size, fun _ => holds⟩
  · rw [if_neg hn]
    have hunowned : new.ownedByProgram = false := by simpa using hn
    exact ⟨[], rfl, (new.space_unowned hunowned).symm, fun he => absurd he hn⟩

/-- A record may go, but it does not turn into one of another type. -/
theorem Step.space {rt : Runtime} {l l' : Ledger} {label : Label rt} (h : Step rt l label l')
    (k : Pubkey) (old : (l k).data.ownedByProgram = true)
    (new : (l' k).data.ownedByProgram = true) : (l' k).data.space = (l k).data.space := by
  have frame := h.frame
  have gone : ¬Gone l l' k := by
    intro hg
    rw [hg.2] at new
    cases new
  cases hd : (l k).data with
  | config c =>
    obtain ⟨c', hc', _⟩ := (frame.config k c hd).resolve_left gone
    rw [hc']
    rfl
  | node n =>
    obtain ⟨n', hn', _⟩ := (frame.node k n hd).resolve_left gone
    rw [hn']
    rfl
  | session s =>
    obtain ⟨s', hs', _⟩ := (frame.session k s hd).resolve_left gone
    rw [hs']
    rfl
  | system | token | mint | core | burned | foreign => simp [hd, AccountData.ownedByProgram] at old

/-- What `register_node` and `update_node_meta` check. -/
structure Node.Limits (n : Node) : Prop where
  capacity : 0 < n.capacity
  geo : n.geo.utf8ByteSize ≤ maxString

theorem Node.Limits.withCapacity {n n' : Node} {capacity : Option UInt64} (h : n.Limits)
    (he : n.withCapacity capacity = .ok n') : n'.Limits := by
  cases capacity with
  | none => exact pure_ok.mp he ▸ h
  | some c =>
    simp only [Node.withCapacity, bind_ok, require_ok, pure_ok] at he
    obtain ⟨_, hc, rfl⟩ := he
    exact ⟨hc, h.geo⟩

theorem Node.Limits.withGeo {n n' : Node} {geo : Option String} (h : n.Limits)
    (he : n.withGeo geo = .ok n') : n'.Limits := by
  cases geo with
  | none => exact pure_ok.mp he ▸ h
  | some g =>
    simp only [Node.withGeo, bind_ok, require_ok, pure_ok] at he
    obtain ⟨_, hg, rfl⟩ := he
    exact ⟨h.capacity, hg⟩

theorem Node.Limits.withActive {n : Node} (h : n.Limits) (active : Option Bool) :
    (n.withActive active).Limits := by
  cases active <;> exact ⟨h.capacity, h.geo⟩

section
variable {rt : Runtime} {l l' : Ledger} {ts : List Transfer}

theorem registerNodeHandler_limits {a : RegisterNode rt} {name uri geo : String}
    {capacity : UInt64} {initReputation : UInt32} {n : Node}
    (h : registerNodeHandler rt l a name uri capacity geo initReputation = .ok (l', ts))
    (hn : (l' a.node).data = .node n) : n.Limits := by
  simp only [registerNodeHandler, bind_ok, require_ok, pure_ok, Prod.mk.injEq,
    exitAccount_writable] at h
  obtain ⟨_, _, _, _, _, _, _, _, _, _, _, _, _, ⟨_, hgeo, _⟩, _, hcap, _, _, rfl, rfl⟩ := h
  rw [Ledger.setData_self] at hn
  cases hn
  exact ⟨hcap, hgeo⟩

theorem updateNodeMetaHandler_limits {a : UpdateNodeMeta rt} {capacity : Option UInt64}
    {geo : Option String} {active : Option Bool} {n' : Node}
    (h : updateNodeMetaHandler rt l a capacity geo active = .ok (l', ts))
    (hn' : (l' a.node).data = .node n') (before : ∀ n, (l a.node).data = .node n → n.Limits) :
    n'.Limits := by
  simp only [updateNodeMetaHandler, bind_ok, loadNode_ok, pure_ok, Prod.mk.injEq,
    exitAccount_writable] at h
  obtain ⟨_, _, _, _, n, hn, _, _, _, _, _, _, _, _, n₁, h₁, n₂, h₂, _, _, rfl, rfl⟩ := h
  rw [Ledger.setData_self] at hn'
  cases hn'
  exact (((before n hn).withCapacity h₁).withGeo h₂).withActive active

end

/-- Every node keeps to the limits. -/
def InLimits (l : Ledger) : Prop :=
  ∀ k n, (l k).data = .node n → n.Limits

theorem InLimits.fits {l : Ledger} (h : InLimits l) (k : Pubkey) : (l k).data.Fits := by
  cases hd : (l k).data with
  | node n => exact (h k n hd).geo
  | config | session | system | token | mint | core | burned | foreign => trivial

theorem Step.inLimits {rt : Runtime} {l l' : Ledger} {label : Label rt} (hi : Inv rt l)
    (h : Step rt l label l') (limits : InLimits l) : InLimits l' := by
  intro k n' hn'
  cases hk : Event.describes k (⟨l, label, l'⟩ : Event rt) with
  | false =>
    obtain ⟨n, hn, same⟩ := (h.undescribed hi hk).node n' hn'
    obtain ⟨hcap, hgeo⟩ := limits k n hn
    exact ⟨by rw [same.capacity]; exact hcap, by rw [same.geo]; exact hgeo⟩
  | true =>
    cases h with
    | external | commit => cases hk
    | @call ctx c _ _ ts hp ok =>
      have hc : c.describes? = some k := by simpa [Event.describes] using hk
      cases c with
      | registerNode a name u cap g r =>
        obtain rfl : a.node = k := Option.some.inj hc
        exact registerNodeHandler_limits ok hn'
      | updateNodeMeta a cap g b =>
        obtain rfl : a.node = k := Option.some.inj hc
        exact updateNodeMetaHandler_limits ok hn' (limits a.node)
      | _ => simp [Call.describes?] at hc

theorem run_inLimits {rt : Runtime} {start l : Ledger} {tr : History rt} (genesis : Genesis start)
    (run : Run (Step rt) start tr l) : InLimits l := by
  refine run.history (fun _ l => InLimits l) (fun k n hn => ?_) ?_
  · have hk := genesis k
    simp [hn, AccountData.ownedByProgram] at hk
  · intro tr l label l' run ih hstep
    exact hstep.inLimits (run_inv genesis run) ih

theorem run_stored {rt : Runtime} {start l : Ledger} {tr : History rt} (genesis : Genesis start)
    (run : Run (Step rt) start tr l) (k : Pubkey) :
    ∃ data, storage k tr = .ok data ∧ Stored data (l k).data := by
  refine run.history (fun tr l => ∃ data, storage k tr = .ok data ∧ Stored data (l k).data)
    ⟨[], rfl, ?_, ?_⟩ ?_
  · exact ((start k).data.space_unowned (genesis k)).symm
  · intro ho
    rw [genesis k] at ho
    cases ho
  · intro tr l label l' run ih hstep
    obtain ⟨data, hdata, stored⟩ := ih
    have limits := hstep.inLimits (run_inv genesis run) (run_inLimits genesis run)
    obtain ⟨data', hwrite, stored'⟩ := stored.writeBack (hstep.space k) (limits.fits k)
    refine ⟨data', ?_, stored'⟩
    simp only [storage, List.foldlM_append, List.foldlM_cons, List.foldlM_nil, bind_ok, pure_ok]
    exact ⟨data, hdata, data', hwrite, rfl⟩

/-- In any run, no record outgrows its account, and the bytes that were written
to an account read as what the ledger shows there and as nothing else. -/
theorem storage_readFrom {rt : Runtime} {start l : Ledger} {tr : History rt}
    (genesis : Genesis start) (run : Run (Step rt) start tr l) (k : Pubkey) :
    ∃ data, storage k tr = .ok data ∧ data.length = (l k).data.space ∧
      ((l k).data.ownedByProgram = true → (l k).data.ReadFrom data) := by
  obtain ⟨data, hdata, stored⟩ := run_stored genesis run k
  refine ⟨data, hdata, stored.size, fun owned => ?_⟩
  exact ((l k).data.readFrom_iff owned data).mpr (stored.holds owned)

namespace Localnet
open Transaction

/-- A node whose text becomes shorter. -/
def shortened : Ledger × History rt :=
  submit start (deploy ++ [submitted 0
    (.updateNodeMeta ⟨config, node, 16, provider, provider, mplCore⟩ none (some "g") none)])

/-- What is left of the longer text is not read. -/
theorem storage_shortened : ∃ data, storage node shortened.2 = .ok data ∧ data.length = 178 ∧
    nodeLayout.tryDeserialize data = .ok ⟨16, 2, 1000, "g", 0, 0, 0, 0, true, 255⟩ := by
  have hn : (shortened.1 node).data = .node ⟨16, 2, 1000, "g", 0, 0, 0, 0, true, 255⟩ := by
    decide +kernel
  have run : Run (Step rt) start shortened.2 shortened.1 := submit_run start _
  obtain ⟨data, hdata, size, read⟩ := storage_readFrom start_genesis run node
  rw [hn] at size read
  exact ⟨data, hdata, size, (read rfl).node⟩

end Localnet

end SolMesh
