import SolMesh.Model.Sdk
import SolMesh.Proofs.MessageParity
import SolMesh.Proofs.RentRule

namespace SolMesh
open Bytes Outcome Client

/-- The precompile accepts the client's layout exactly where the signature is
valid. -/
theorem Laid.precompileVerified_iff {rt : Runtime} {ixs : List InstructionData}
    {data : List UInt8} {pk : Pubkey} {sig : FixedBytes 64} {msg : List UInt8}
    (h : Laid data pk sig msg) :
    SolMesh.precompileVerified rt ixs data = true ↔
      rt.ed25519Verify pk.toList msg sig.toList = true := by
  refine ⟨fun hv => ?_, h.precompileVerified⟩
  have hlen := h.length
  have fits : ∀ a n, a + n ≤ 112 + msg.length →
      dataSlice ixs data 0xFFFF a n = some (slice data a (a + n)) := by
    intro a n hle
    simp [dataSlice, hlen, hle]
  simp only [SolMesh.precompileVerified, h.count, Bool.and_eq_true] at hv
  have hentry := List.all_eq_true.mp hv.2 0 (by decide)
  simp only [Bool.and_eq_true, entryVerified, h.offsets] at hentry
  rw [fits 48 64 (by omega), fits 16 32 (by omega), fits 112 msg.length (by omega), h.sig, h.pk,
    h.msg] at hentry
  exact hentry.2

namespace Sdk

section
variable {rt : Runtime} {l l' : Ledger} {now : Int64} {tr : History rt}

/-- The only vault authority that the program takes. -/
theorem vaultAuthority_some {k v : Pubkey} : vaultAuthority rt k = some v ↔
    v = rt.vaultAuthority k ∧ ∃ b, rt.find (.vault k) = some (rt.vaultAuthority k, b) := by
  rw [vaultAuthority, pda, Option.map_eq_some_iff]
  constructor
  · intro h
    obtain ⟨⟨w, b⟩, found, rfl⟩ := h
    have he := Runtime.vaultAuthority_of_find found
    exact ⟨he.symm, b, he.symm ▸ found⟩
  · intro h
    obtain ⟨rfl, b, found⟩ := h
    exact ⟨_, found, rfl⟩

/-- The context in which the last of the instructions runs. -/
def lastContext (before : List (Instruction rt)) (last : Instruction rt) (now : Int64) :
    TxContext :=
  ⟨(Transaction.mk (before ++ [last]) now).sysvar, before.length, now⟩

theorem ops_last {before : List (Instruction rt)} (idle : ∀ ix ∈ before, ix.ops = [])
    (last : Instruction rt) : (Transaction.mk (before ++ [last]) now).ops =
      last.ops.map fun op => (before.length, op) := by
  have hnil : before.zipIdx.flatMap (fun p => p.1.ops.map fun op => (p.2, op)) = [] := by
    rw [List.flatMap_eq_nil_iff]
    intro p hp
    rw [idle _ (List.fst_mem_of_mem_zipIdx hp), List.map_nil]
  simp [Transaction.ops, List.zipIdx_append, hnil]

/-- A transaction that only its last instruction does anything in. -/
theorem exec_last {before : List (Instruction rt)} (idle : ∀ ix ∈ before, ix.ops = [])
    {pid : Pubkey} {data : List UInt8} (c : Call rt) :
    (Transaction.mk (before ++ [⟨pid, data, [.call c]⟩]) now).exec l = .ok (l', tr) ↔
      (lastContext before ⟨pid, data, [.call c]⟩ now).precompiled rt = true ∧
      ∃ mid ts, c.exec (lastContext before ⟨pid, data, [.call c]⟩ now) l = .ok (mid, ts) ∧
        RentKept rt l mid ∧ l' = mid.purge ∧
        tr = [⟨l, .call (lastContext before ⟨pid, data, [.call c]⟩ now) c ts, mid⟩,
          ⟨mid, .commit, mid.purge⟩] := by
  rw [Transaction.exec_ok, ops_last idle]
  simp only [bind_ok, List.map_cons, List.map_nil, Transaction.perform, Transaction.Op.exec,
    pure_ok, Prod.mk.injEq]
  constructor
  · intro h
    obtain ⟨hp, ⟨_, ⟨r, hc, rfl⟩, _, hcommit, rfl, rfl⟩, kept⟩ := h
    cases hcommit
    exact ⟨hp, r.1, r.2, hc, rentKept_purge.mp kept, rfl, rfl⟩
  · intro h
    obtain ⟨hp, mid, ts, hc, kept, rfl, rfl⟩ := h
    exact ⟨hp, ⟨_, ⟨(mid, ts), hc, rfl⟩, _, rfl, rfl, rfl⟩, rentKept_purge.mpr kept⟩

/-- The signature is valid for the key. -/
def Valid (rt : Runtime) (c : Cosigner) (msg : List UInt8) : Prop :=
  rt.ed25519Verify c.publicKey.toList msg c.sig.toList = true

/-- Instructions of other programs that touch no account. -/
def Idle (before : List (Instruction rt)) : Prop :=
  ∀ ix ∈ before, ix.ops = [] ∧ ix.programId ≠ ed25519ProgramId

/-- Both signatures as the transaction has them, with the update they are for. -/
structure Bundle (s : Client.StateUpdate) (provider consumer : Cosigner) (u : SolMesh.StateUpdate)
    (ixs : List InstructionData) : Prop where
  same : s.Same u
  serialized : serializeState s = some u.toMessageBytes
  received : (toAnchorArg s).receive = some u
  cosigned : cosignIxs s provider consumer = some ixs
  laid : ∃ pix cix, ixs = [pix, cix] ∧
    (pix.programId = ed25519ProgramId ∧
      Laid pix.data provider.publicKey provider.sig u.toMessageBytes) ∧
    cix.programId = ed25519ProgramId ∧
      Laid cix.data consumer.publicKey consumer.sig u.toMessageBytes

/-- The client makes the signatures' instructions for every state that fits. -/
theorem bundle_of_fits {s : Client.StateUpdate} (fits : s.Fits) (provider consumer : Cosigner) :
    ∃ u ixs, Bundle s provider consumer u ixs := by
  obtain ⟨u, hreceive, same⟩ := receive_exists fits
  have hbytes : serializeState s = some u.toMessageBytes := by
    rw [serializeState_eq, hreceive]
    rfl
  have hlen : u.toMessageBytes.length ≤ 65535 := by
    rw [SolMesh.StateUpdate.toMessageBytes_length]
    omega
  obtain ⟨pix, hpix, pcarried⟩ := ed25519VerifyIx_exists provider.publicKey provider.sig hlen
  obtain ⟨cix, hcix, ccarried⟩ := ed25519VerifyIx_exists consumer.publicKey consumer.sig hlen
  refine ⟨u, [pix, cix], same, hbytes, hreceive, ?_, pix, cix, rfl, pcarried, ccarried⟩
  simp only [cosignIxs, hbytes, hpix, hcix, Option.bind_eq_bind, Option.bind_some]
  rfl

/-- And for no other. -/
theorem bundle_of_cosigned {s : Client.StateUpdate} {provider consumer : Cosigner}
    {ixs : List InstructionData} (h : cosignIxs s provider consumer = some ixs) :
    ∃ u, Bundle s provider consumer u ixs := by
  have made := h
  simp only [cosignIxs, Option.bind_eq_bind, Option.bind_eq_some_iff] at made
  obtain ⟨msg, hmsg, _⟩ := made
  obtain ⟨u, ixs', hb⟩ := bundle_of_fits (fits_of_serializeState hmsg) provider consumer
  obtain rfl : ixs' = ixs := by simpa [h] using hb.cosigned.symm
  exact ⟨u, hb⟩

/-- How the client's methods start: with the bundle and what the program is to
receive. -/
theorem bundle_bind {s : Client.StateUpdate} {provider consumer : Cosigner} {α : Type}
    {f : List InstructionData → List UInt8 → SolMesh.StateUpdate → Option α} {made : α} :
    ((cosignIxs s provider consumer).bind fun ixs => (toAnchorArg s).encode.bind fun args =>
        (toAnchorArg s).receive.bind fun u => f ixs args u) = some made ↔
      ∃ u ixs, Bundle s provider consumer u ixs ∧ f ixs u.toMessageBytes u = some made := by
  simp only [encode_eq, Option.bind_eq_some_iff]
  constructor
  · intro h
    obtain ⟨ixs, hixs, msg, hmsg, v, hv, hf⟩ := h
    obtain ⟨u, hb⟩ := bundle_of_cosigned hixs
    obtain rfl : u = v := by simpa [hb.received] using hv
    obtain rfl : u.toMessageBytes = msg := by simpa [hb.serialized] using hmsg
    exact ⟨u, ixs, hb, hf⟩
  · intro h
    obtain ⟨u, ixs, hb, hf⟩ := h
    exact ⟨ixs, hb.cosigned, _, hb.serialized, u, hb.received, hf⟩

section
variable {before : List (Instruction rt)} {s : Client.StateUpdate} {provider consumer : Cosigner}
  {u : SolMesh.StateUpdate} {ixs : List InstructionData}

/-- The precompile lets the transaction pass exactly where both signatures are valid. -/
theorem Bundle.precompiled (h : Bundle s provider consumer u ixs) (idle : Idle before)
    (last : Instruction rt) (hl : last.programId ≠ ed25519ProgramId) :
    (lastContext (before ++ ixs.map (carry rt)) last now).precompiled rt = true ↔
      Valid rt provider u.toMessageBytes ∧ Valid rt consumer u.toMessageBytes := by
  obtain ⟨pix, cix, rfl, ⟨pprog, plaid⟩, cprog, claid⟩ := h.laid
  have hcarried : (lastContext (before ++ [pix, cix].map (carry rt)) last now).instructions =
      before.map (fun ix => ⟨ix.programId, ix.data⟩) ++
        [pix, cix, ⟨last.programId, last.data⟩] := by
    simp [lastContext, Transaction.sysvar, carry]
  have quiet : ∀ ixs : List InstructionData, (before.map fun ix =>
      (⟨ix.programId, ix.data⟩ : InstructionData)).all (fun ix =>
        if ix.programId = ed25519ProgramId then precompileVerified rt ixs ix.data else true) =
          true := by
    intro ixs
    rw [List.all_eq_true]
    intro ix hix
    obtain ⟨i, hi, rfl⟩ := List.mem_map.mp hix
    exact if_neg (idle i hi).2
  rw [TxContext.precompiled, hcarried, List.all_append, quiet, Bool.true_and]
  simp [pprog, cprog, hl, plaid.precompileVerified_iff, claid.precompileVerified_iff, Valid]

/-- And the program finds them. -/
theorem Bundle.carries (h : Bundle s provider consumer u ixs) (last : Instruction rt) :
    CarriesSignature (lastContext (before ++ ixs.map (carry rt)) last now) provider.publicKey
        u.toMessageBytes ∧
      CarriesSignature (lastContext (before ++ ixs.map (carry rt)) last now) consumer.publicKey
        u.toMessageBytes := by
  obtain ⟨pix, cix, rfl, ⟨pprog, plaid⟩, cprog, claid⟩ := h.laid
  have pearlier : (lastContext (before ++ [pix, cix].map (carry rt)) last now).Earlier pix := by
    refine ⟨before.length, ?_, ?_⟩
    · simp [lastContext]
    · simp [lastContext, Transaction.sysvar, carry]
  have cearlier : (lastContext (before ++ [pix, cix].map (carry rt)) last now).Earlier cix := by
    refine ⟨before.length + 1, ?_, ?_⟩
    · simp [lastContext]
    · simp [lastContext, Transaction.sysvar, carry]
  exact ⟨pearlier.carries pprog plaid, cearlier.carries cprog claid⟩

/-- Behind the signatures of its parties a session only looks at the numbers. -/
theorem Bundle.verified {ctx : TxContext} {k : Pubkey} {session : Session}
    (h : Bundle s provider consumer u ixs) (hp : provider.publicKey = session.provider)
    (hc : consumer.publicKey = session.consumer)
    (carries : CarriesSignature ctx provider.publicKey u.toMessageBytes ∧
      CarriesSignature ctx consumer.publicKey u.toMessageBytes) :
    verifyCosignedState ctx session k u = .ok () ↔ s.session = k ∧
      s.owedToProvider ≤ session.deposited.toNat ∧
      (session.settledToProvider.toNat : Int) ≤ s.owedToProvider := by
  have howed := h.same.owedToProvider
  rw [verifyCosignedState_ok, ← hp, ← hc, verifyEd25519Signature_iff, verifyEd25519Signature_iff,
    h.same.session]
  constructor
  · intro hv
    obtain ⟨_, hk, hle, hge, _⟩ := hv
    exact ⟨hk, by omega, by omega⟩
  · intro hv
    obtain ⟨hk, hle, hge⟩ := hv
    exact ⟨h.same.domain, hk, by omega, by omega, carries⟩

theorem programId_ne : programId ≠ ed25519ProgramId := by
  decide

/-- A call behind a bundle happens if and only if the signatures are valid, the
program accepts it there and the rent rule is kept. -/
theorem Bundle.exec_iff (h : Bundle s provider consumer u ixs) (idle : Idle before)
    (discriminator : String → List UInt8) (name : String) (args : List UInt8) (c : Call rt) :
    (Transaction.mk (before ++ ixs.map (carry rt) ++ [method discriminator name args c])
        now).exec l = .ok (l', tr) ↔
      (Valid rt provider u.toMessageBytes ∧ Valid rt consumer u.toMessageBytes) ∧
      ∃ mid ts, c.exec (lastContext (before ++ ixs.map (carry rt))
          (method discriminator name args c) now) l = .ok (mid, ts) ∧
        RentKept rt l mid ∧ l' = mid.purge ∧
        tr = [⟨l, .call (lastContext (before ++ ixs.map (carry rt))
            (method discriminator name args c) now) c ts, mid⟩, ⟨mid, .commit, mid.purge⟩] := by
  have still : ∀ ix ∈ before ++ ixs.map (carry rt), ix.ops = [] := by
    intro ix hix
    rcases List.mem_append.mp hix with hb | hc
    · exact (idle ix hb).1
    · obtain ⟨_, _, rfl⟩ := List.mem_map.mp hc
      rfl
  exact (exec_last still c).trans (and_congr_left fun _ => h.precompiled idle _ programId_ne)

end

/-- Both parties have signed the client's state. -/
def Countersigned (rt : Runtime) (state : Client.StateUpdate) (provider consumer : Cosigner) :
    Prop :=
  ∃ msg, serializeState state = some msg ∧ Valid rt provider msg ∧ Valid rt consumer msg

/-- A method of the client with a countersigned state: once it is `ready` it
makes a call of the program behind the bundle and idle instructions. -/
structure CosignedMethod (made : Option (List (Instruction rt))) (state : Client.StateUpdate)
    (provider consumer : Cosigner) (ready : Prop) (before : List (Instruction rt))
    (discriminator : String → List UInt8) (name : String)
    (call : SolMesh.StateUpdate → Call rt) : Prop where
  idle : Idle before
  made_iff : ∀ ixs, made = some ixs ↔ ready ∧ ∃ u cosigns,
    Bundle state provider consumer u cosigns ∧ ixs = before ++ cosigns.map (carry rt) ++
      [method discriminator name u.toMessageBytes (call u)]

/-- The call as the program gets it from the client. -/
structure Received (rt : Runtime) (state : Client.StateUpdate) (provider consumer : Cosigner)
    (now : Int64) (u : SolMesh.StateUpdate) (ctx : TxContext) : Prop where
  bundle : ∃ cosigns, Bundle state provider consumer u cosigns
  precompiled : ctx.precompiled rt = true
  time : ctx.unixTimestamp = now
  carries : CarriesSignature ctx provider.publicKey u.toMessageBytes ∧
    CarriesSignature ctx consumer.publicKey u.toMessageBytes

section
variable {made : Option (List (Instruction rt))} {state : Client.StateUpdate}
  {provider consumer : Cosigner} {ready accepted : Prop} {before : List (Instruction rt)}
  {discriminator : String → List UInt8} {name : String} {call : SolMesh.StateUpdate → Call rt}
  {ixs : List (Instruction rt)}

/-- A transaction of the client's that happened is its call, with both signatures valid. -/
theorem CosignedMethod.executed (h : CosignedMethod made state provider consumer ready before
    discriminator name call) (hmade : made = some ixs)
    (exec : (Transaction.mk ixs now).exec l = .ok (l', tr)) :
    ready ∧ Countersigned rt state provider consumer ∧ ∃ u ctx mid ts,
      Received rt state provider consumer now u ctx ∧ (call u).exec ctx l = .ok (mid, ts) ∧
      RentKept rt l mid ∧ l' = mid.purge ∧
      tr = [⟨l, .call ctx (call u) ts, mid⟩, ⟨mid, .commit, mid.purge⟩] := by
  obtain ⟨hready, u, cosigns, hb, rfl⟩ := (h.made_iff _).mp hmade
  obtain ⟨valid, mid, ts, ok, kept, hl, htr⟩ := (hb.exec_iff h.idle _ _ _ _).mp exec
  have precompiled : (lastContext (before ++ cosigns.map (carry rt))
      (method discriminator name u.toMessageBytes (call u)) now).precompiled rt = true :=
    (hb.precompiled h.idle _ programId_ne).mpr valid
  exact ⟨hready, ⟨_, hb.serialized, valid⟩, u, _, mid, ts,
    ⟨⟨cosigns, hb⟩, precompiled, rfl, hb.carries _⟩, ok, kept, hl, htr⟩

/-- It happens if and only if both have signed, the program accepts the call and
the rent rule is kept. -/
theorem CosignedMethod.executes_iff (h : CosignedMethod made state provider consumer ready before
    discriminator name call)
    (accepts : ∀ u ctx, Received rt state provider consumer now u ctx → ready →
      ((∃ mid ts, (call u).exec ctx l = .ok (mid, ts) ∧ RentKept rt l mid) ↔ accepted))
    (needs : accepted → ready) :
    (∃ ixs l' tr, made = some ixs ∧ (Transaction.mk ixs now).exec l = .ok (l', tr)) ↔
      Countersigned rt state provider consumer ∧ accepted := by
  constructor
  · intro executes
    obtain ⟨ixs, l', tr, hmade, exec⟩ := executes
    obtain ⟨hready, signed, u, ctx, mid, ts, received, ok, kept, _⟩ := h.executed hmade exec
    exact ⟨signed, (accepts u ctx received hready).mp ⟨mid, ts, ok, kept⟩⟩
  · intro both
    obtain ⟨⟨msg, hmsg, valid⟩, haccepted⟩ := both
    obtain ⟨u, cosigns, hb⟩ := bundle_of_fits (fits_of_serializeState hmsg) provider consumer
    obtain rfl : msg = u.toMessageBytes := by simpa [hmsg] using hb.serialized
    have precompiled : (lastContext (before ++ cosigns.map (carry rt))
        (method discriminator name u.toMessageBytes (call u)) now).precompiled rt = true :=
      (hb.precompiled h.idle _ programId_ne).mpr valid
    obtain ⟨mid, ts, ok, kept⟩ := (accepts u _ ⟨⟨cosigns, hb⟩, precompiled, rfl, hb.carries _⟩
      (needs haccepted)).mpr haccepted
    exact ⟨_, _, _, (h.made_iff _).mpr ⟨needs haccepted, u, cosigns, hb, rfl⟩,
      (hb.exec_iff h.idle _ _ _ _).mpr ⟨valid, mid, ts, ok, kept, rfl, rfl⟩⟩

end

end

end Sdk

end SolMesh
