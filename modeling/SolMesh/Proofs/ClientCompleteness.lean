import SolMesh.Model.Client
import SolMesh.Proofs.SessionMoves
import SolMesh.Proofs.SignatureCompleteness

namespace SolMesh
open Bytes Outcome Client

theorem stateDomain_toList : stateDomain.toList = Client.stateDomain := by
  decide

theorem parseBn_repr (n : Nat) : parseBn n.repr.toList = n := by
  unfold parseBn
  split
  · rename_i digits hd
    have hm : '-' ∈ Nat.toDigits 10 n := by rw [← Nat.toList_repr, hd]; simp
    have := Nat.isDigit_of_mem_toDigits (by decide) (by decide) hm
    exact absurd this (by decide)
  · rw [Nat.toList_repr, Nat.ofDigitChars_ten_toDigits]

theorem parseBn_neg_repr (n : Nat) : parseBn ("-" ++ n.repr).toList = -n := by
  simp [parseBn, Nat.toList_repr, Nat.ofDigitChars_ten_toDigits]

/-- A number survives the way through its decimal digits. -/
@[simp] theorem bn_eq (v : Int) : bn v = v := by
  rw [bn, Int.toString_eq_repr, Int.repr_eq_if]
  split
  · rw [parseBn_repr]
    omega
  · rw [parseBn_neg_repr]
    omega

/-- A byte array survives the way to the program. -/
theorem bytesArg_toList {n : Nat} (x : FixedBytes n) : bytesArg n x.toList = some x := by
  rw [bytesArg, if_pos x.length_toList, x.ofLe_toList]

/-- What the client signs for a `u64` is what the program spells for it. -/
theorem u64le_eq (v : Int) : u64le v = (u64Arg v).map fun w => leBytes 8 w.toNat := by
  unfold u64le u64Arg
  split
  · rename_i h
    have hv : v.toNat % 2 ^ 64 = v.toNat := Nat.mod_eq_of_lt (by omega)
    simp only [Option.map_some, UInt64.toNat_ofNat', hv]
  · rfl

theorem i64le_eq (v : Int) : i64le v = (i64Arg v).map fun w => leBytes 8 w.toUInt64.toNat := by
  unfold i64le i64Arg
  split
  · have hv : (Int64.ofInt v).toUInt64.toNat = (v % 2 ^ 64).toNat := BitVec.toNat_ofInt v
    simp only [Option.map_some, hv]
  · rfl

theorem u64Arg_exists {v : Int} (h : 0 ≤ v ∧ v < 2 ^ 64) :
    ∃ w : UInt64, u64Arg v = some w ∧ (w.toNat : Int) = v := by
  refine ⟨UInt64.ofNat v.toNat, if_pos h, ?_⟩
  rw [UInt64.toNat_ofNat', Nat.mod_eq_of_lt] <;> omega

theorem i64Arg_exists {v : Int} (h : -2 ^ 63 ≤ v ∧ v < 2 ^ 63) :
    ∃ w : Int64, i64Arg v = some w ∧ w.toInt = v := by
  refine ⟨Int64.ofInt v, if_pos h, ?_⟩
  exact Int64.toInt_ofInt_of_le h.1 h.2

/-- Client and program spell the same bytes, and where one of them throws so
does the other. -/
theorem serializeState_eq (s : Client.StateUpdate) :
    serializeState s = (toAnchorArg s).receive.map SolMesh.StateUpdate.toMessageBytes := by
  simp only [serializeState, AnchorArg.receive, toAnchorArg, u64le_eq, i64le_eq,
    ← stateDomain_toList, bytesArg_toList, bn_eq]
  cases u64Arg s.nonce <;> cases u64Arg s.owedToProvider <;> cases u64Arg s.unitsConsumed <;>
    cases i64Arg s.timestamp <;> rfl

theorem ed25519Header_length (n : Nat) : (ed25519Header n).length = 16 := by
  simp [ed25519Header]

/-- The words of the header, whatever follows it. -/
theorem signatureOffsets_header (n : Nat) (rest : List UInt8) :
    signatureOffsets (ed25519Header n ++ rest) 0 =
      { signatureOffset := 48
        signatureInstructionIndex := 0xFFFF
        publicKeyOffset := 16
        publicKeyInstructionIndex := 0xFFFF
        messageDataOffset := 112
        messageDataSize := n % 2 ^ 16
        messageInstructionIndex := 0xFFFF } := by
  simp [signatureOffsets, wordAt, ed25519Header, leBytes, slice, ofLe]
  omega

/-- Where the parts lie in the client's layout. -/
structure Laid (data : List UInt8) (pk : Pubkey) (sig : FixedBytes 64) (msg : List UInt8) :
    Prop where
  length : data.length = 112 + msg.length
  count : data.head? = some 1
  offsets : signatureOffsets data 0 =
    { signatureOffset := 48
      signatureInstructionIndex := 0xFFFF
      publicKeyOffset := 16
      publicKeyInstructionIndex := 0xFFFF
      messageDataOffset := 112
      messageDataSize := msg.length
      messageInstructionIndex := 0xFFFF }
  pk : slice data 16 48 = pk.toList
  sig : slice data 48 112 = sig.toList
  msg : slice data 112 (112 + msg.length) = msg

theorem buildEd25519Data_laid {pk : Pubkey} {sig : FixedBytes 64} {msg data : List UInt8}
    (h : buildEd25519Data pk sig msg = some data) : Laid data pk sig msg := by
  unfold buildEd25519Data at h
  split at h
  · rename_i hlen
    obtain rfl := Option.some.inj h
    have hmod : msg.length % 2 ^ 16 = msg.length := Nat.mod_eq_of_lt (by omega)
    have hhead := ed25519Header_length msg.length
    have hpk := pk.length_toList
    have hsig := sig.length_toList
    have cutPk := slice_middle (ed25519Header msg.length) pk.toList (sig.toList ++ msg)
    have cutSig := slice_middle (ed25519Header msg.length ++ pk.toList) sig.toList msg
    have cutMsg := slice_middle (ed25519Header msg.length ++ (pk.toList ++ sig.toList)) msg []
    simp only [List.length_append, List.append_assoc, List.append_nil, hhead, hpk, hsig]
      at cutPk cutSig cutMsg
    refine ⟨?_, rfl, ?_, cutPk, cutSig, cutMsg⟩
    · simp only [List.length_append, hhead, hpk, hsig]
      omega
    · rw [signatureOffsets_header, hmod]
  · contradiction

/-- The program reads exactly one key and one message out of the layout. -/
theorem Laid.binds {data : List UInt8} {pk pk' : Pubkey} {sig : FixedBytes 64}
    {msg msg' : List UInt8} (h : Laid data pk sig msg) :
    Binds data pk' msg' ↔ pk' = pk ∧ msg' = msg := by
  have hlen := h.length
  constructor
  · intro hb
    have hpk := hb.pkBytes
    have hmsg := hb.msgBytes
    rw [h.offsets] at hpk hmsg
    exact ⟨FixedBytes.toList_inj (hpk.symm.trans h.pk), hmsg.symm.trans h.msg⟩
  · intro he
    obtain ⟨rfl, rfl⟩ := he
    constructor
    case long => omega
    case count => exact ⟨1, h.count, by decide⟩
    case pkBytes =>
      rw [h.offsets]
      exact h.pk
    case msgBytes =>
      rw [h.offsets]
      exact h.msg
    all_goals rw [h.offsets]
    all_goals simp only
    all_goals omega

/-- The precompile accepts the layout where the signature is valid. -/
theorem Laid.precompileVerified {rt : Runtime} {ixs : List InstructionData} {data : List UInt8}
    {pk : Pubkey} {sig : FixedBytes 64} {msg : List UInt8} (h : Laid data pk sig msg)
    (hv : rt.ed25519Verify pk.toList msg sig.toList = true) :
    precompileVerified rt ixs data = true := by
  have hlen := h.length
  have fits : ∀ a n, a + n ≤ 112 + msg.length →
      dataSlice ixs data 0xFFFF a n = some (slice data a (a + n)) := by
    intro a n hle
    simp [dataSlice, hlen, hle]
  have hentry : entryVerified rt ixs data 0 = true := by
    simp only [entryVerified, h.offsets]
    rw [fits 48 64 (by omega), fits 16 32 (by omega), fits 112 msg.length (by omega), h.sig, h.pk,
      h.msg]
    exact hv
  simp only [SolMesh.precompileVerified, h.count]
  simp [hentry, hlen]
  omega

/-- The entry that the client lays out for a key and a message passes the
program's check for that key and that message and for nothing else. -/
theorem buildEd25519Data_checked (pk : Pubkey) (sig : FixedBytes 64) (msg : List UInt8)
    (hlen : msg.length ≤ 65535) : ∃ data, buildEd25519Data pk sig msg = some data ∧
      ∀ pk' msg', checkEd25519Data data pk' msg' = .ok () ↔ pk' = pk ∧ msg' = msg := by
  refine ⟨_, if_pos hlen, fun pk' msg' => ?_⟩
  exact checkEd25519Data_iff.trans (buildEd25519Data_laid (if_pos hlen)).binds

/-- The numbers fit the widths of the program's fields. -/
structure Client.StateUpdate.Fits (s : Client.StateUpdate) : Prop where
  nonce : 0 ≤ s.nonce ∧ s.nonce < 2 ^ 64
  owedToProvider : 0 ≤ s.owedToProvider ∧ s.owedToProvider < 2 ^ 64
  unitsConsumed : 0 ≤ s.unitsConsumed ∧ s.unitsConsumed < 2 ^ 64
  timestamp : -2 ^ 63 ≤ s.timestamp ∧ s.timestamp < 2 ^ 63

/-- The program's update says what the client's state says. -/
structure Client.StateUpdate.Same (s : Client.StateUpdate) (u : SolMesh.StateUpdate) : Prop where
  domain : u.domain = SolMesh.stateDomain
  session : u.session = s.session
  nonce : (u.nonce.toNat : Int) = s.nonce
  owedToProvider : (u.owedToProvider.toNat : Int) = s.owedToProvider
  unitsConsumed : (u.unitsConsumed.toNat : Int) = s.unitsConsumed
  timestamp : u.timestamp.toInt = s.timestamp

/-- What the program gets of a state that fits. -/
theorem receive_exists {s : Client.StateUpdate} (fits : s.Fits) :
    ∃ u, (toAnchorArg s).receive = some u ∧ s.Same u := by
  obtain ⟨nonce, hnonce, hn⟩ := u64Arg_exists fits.nonce
  obtain ⟨owed, howed, ho⟩ := u64Arg_exists fits.owedToProvider
  obtain ⟨units, hunits, hu⟩ := u64Arg_exists fits.unitsConsumed
  obtain ⟨time, htime, ht⟩ := i64Arg_exists fits.timestamp
  refine ⟨⟨stateDomain, s.session, nonce, owed, units, time⟩, ?_, rfl, rfl, hn, ho, hu, ht⟩
  simp only [AnchorArg.receive, toAnchorArg, ← stateDomain_toList, bytesArg_toList, bn_eq, hnonce,
    howed, hunits, htime]
  rfl

/-- Both instructions are made for a message that is short enough. -/
theorem ed25519VerifyIx_exists (pk : Pubkey) (sig : FixedBytes 64) {msg : List UInt8}
    (hlen : msg.length ≤ 65535) : ∃ ix, ed25519VerifyIx pk msg sig = some ix ∧
      ix.programId = ed25519ProgramId ∧ Laid ix.data pk sig msg := by
  have hdata : buildEd25519Data pk sig msg = some _ := if_pos hlen
  refine ⟨⟨ed25519ProgramId, _⟩, ?_, rfl, buildEd25519Data_laid hdata⟩
  simp only [ed25519VerifyIx, hdata]
  rfl

/-- An instruction that runs before the current one. -/
def TxContext.Earlier (ctx : TxContext) (ix : InstructionData) : Prop :=
  ∃ i < ctx.currentIndex, ctx.instructions[i]? = some ix

theorem TxContext.Earlier.carries {ctx : TxContext} {ix : InstructionData} {pk : Pubkey}
    {sig : FixedBytes 64} {msg : List UInt8} (h : ctx.Earlier ix)
    (hprog : ix.programId = ed25519ProgramId) (laid : Laid ix.data pk sig msg) :
    CarriesSignature ctx pk msg := by
  obtain ⟨i, hi, hix⟩ := h
  exact ⟨i, hi, ix, hix, hprog, laid.binds.mpr ⟨rfl, rfl⟩⟩

/-- A state that fits is spelled alike by client and program, its instructions
pass the precompile, and behind them the program accepts it for a session of
these parties exactly when it names the session and owes a covered amount that
is not below what was paid. -/
theorem client_state_accepted (s : Client.StateUpdate) (provider consumer : Cosigner)
    (fits : s.Fits) :
    (∃ bytes u ixs, serializeState s = some bytes ∧ (toAnchorArg s).receive = some u ∧
      u.toMessageBytes = bytes ∧ cosignIxs s provider consumer = some ixs ∧
      (∀ rt txIxs,
        rt.ed25519Verify provider.publicKey.toList bytes provider.sig.toList = true →
        rt.ed25519Verify consumer.publicKey.toList bytes consumer.sig.toList = true →
        ∀ ix ∈ ixs, precompileVerified rt txIxs ix.data = true) ∧
      (∀ ctx session sessionKey, (∀ ix ∈ ixs, ctx.Earlier ix) →
        session.provider = provider.publicKey → session.consumer = consumer.publicKey →
        (verifyCosignedState ctx session sessionKey u = .ok () ↔
          s.session = sessionKey ∧
          (session.settledToProvider.toNat : Int) ≤ s.owedToProvider ∧
          s.owedToProvider ≤ session.deposited.toNat))) ∧
    (∀ pk sig msg, msg.length ≤ 65535 → ∃ data, buildEd25519Data pk sig msg = some data ∧
      ∀ pk' msg', checkEd25519Data data pk' msg' = .ok () ↔ pk' = pk ∧ msg' = msg) := by
  obtain ⟨u, hreceive, same⟩ := receive_exists fits
  have howed := same.owedToProvider
  have hbytes : serializeState s = some u.toMessageBytes := by
    rw [serializeState_eq, hreceive]
    rfl
  have hlen : u.toMessageBytes.length ≤ 65535 := by
    rw [SolMesh.StateUpdate.toMessageBytes_length]
    omega
  obtain ⟨pix, hpix, pprog, plaid⟩ := ed25519VerifyIx_exists provider.publicKey provider.sig hlen
  obtain ⟨cix, hcix, cprog, claid⟩ := ed25519VerifyIx_exists consumer.publicKey consumer.sig hlen
  have hixs : cosignIxs s provider consumer = some [pix, cix] := by
    simp only [cosignIxs, hbytes, hpix, hcix, Option.bind_eq_bind, Option.bind_some]
    rfl
  refine ⟨⟨_, u, _, hbytes, hreceive, rfl, hixs, ?_, ?_⟩, buildEd25519Data_checked⟩
  · intro rt txIxs hp hc ix hix
    rcases List.mem_pair.mp hix with rfl | rfl
    · exact plaid.precompileVerified hp
    · exact claid.precompileVerified hc
  · intro ctx session sessionKey earlier hprovider hconsumer
    have pcarries := (earlier pix (by simp)).carries pprog plaid
    have ccarries := (earlier cix (by simp)).carries cprog claid
    rw [verifyCosignedState_ok, hprovider, hconsumer, verifyEd25519Signature_iff,
      verifyEd25519Signature_iff, same.session]
    constructor
    · intro h
      obtain ⟨_, hk, hle, hge, _, _⟩ := h
      exact ⟨hk, by omega, by omega⟩
    · intro h
      obtain ⟨hk, hge, hle⟩ := h
      exact ⟨same.domain, hk, by omega, by omega, pcarries, ccarries⟩

section
open Localnet

/-- A state for session 7 as the client holds it. -/
def clientState : Client.StateUpdate where
  session := session 7
  nonce := 1
  owedToProvider := 300000
  unitsConsumed := 1000
  timestamp := -1

/-- The small chain's valid signatures of provider and consumer. -/
theorem cosigners_signed (msg : List UInt8) :
    Localnet.rt.ed25519Verify (FixedBytes.toList (n := 32) 2) msg
        (FixedBytes.toList (n := 64) 2) = true ∧
      Localnet.rt.ed25519Verify (FixedBytes.toList (n := 32) 3) msg
        (FixedBytes.toList (n := 64) 3) = true := by
  simp only [Localnet.rt, decide_eq_true_eq]
  decide +kernel

theorem client_state_accepted_negative_timestamp :
    ∃ u ixs, cosignIxs clientState ⟨2, 2⟩ ⟨3, 3⟩ = some ixs ∧
      (∀ ix ∈ ixs, precompileVerified Localnet.rt ixs ix.data = true) ∧
      verifyCosignedState ⟨ixs, 2, 0⟩ (opened 7 1000000 none 0) (session 7) u = .ok () := by
  obtain ⟨⟨bytes, u, ixs, hbytes, _, _, hixs, verified, accepted⟩, _⟩ :=
    client_state_accepted clientState ⟨2, 2⟩ ⟨3, 3⟩ (by constructor <;> decide)
  have hlen : (cosignIxs clientState ⟨2, 2⟩ ⟨3, 3⟩).map List.length = some 2 := by decide +kernel
  refine ⟨u, ixs, hixs, verified Localnet.rt ixs (cosigners_signed bytes).1
    (cosigners_signed bytes).2, ?_⟩
  refine (accepted ⟨ixs, 2, 0⟩ _ (session 7) ?_ rfl rfl).mpr (by decide +kernel)
  intro ix hix
  obtain ⟨i, hi⟩ := List.mem_iff_getElem?.mp hix
  rw [hixs, Option.map_some, Option.some.injEq] at hlen
  exact ⟨i, hlen ▸ (List.getElem?_eq_some_iff.mp hi).1, hi⟩

end

end SolMesh
