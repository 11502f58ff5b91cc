import SolMesh.Model.Localnet

namespace SolMesh
open Bytes Outcome

theorem index_ok {data : List UInt8} {i : Nat} {b : UInt8} :
    index data i = .ok b ↔ data[i]? = some b := by
  unfold index
  split <;> simp_all

theorem index_of_lt (data : List UInt8) (i : Nat) (h : i < data.length) :
    ∃ b, index data i = .ok b :=
  ⟨data[i], index_ok.mpr (List.getElem?_eq_getElem h)⟩

theorem subslice_ok {data bs : List UInt8} {a b : Nat} :
    subslice data a b = .ok bs ↔ (a ≤ b ∧ b ≤ data.length) ∧ slice data a b = bs := by
  unfold subslice
  by_cases h : a ≤ b ∧ b ≤ data.length <;> simp [h]

theorem usizeAdd_ok {a b c : Nat} : usizeAdd a b = .ok c ↔ a + b < 2 ^ 64 ∧ a + b = c := by
  unfold usizeAdd
  split <;> simp_all

theorem slice_two {data : List UInt8} {i : Nat} {lo hi : UInt8} (hlo : data[i]? = some lo)
    (hhi : data[i + 1]? = some hi) : slice data i (i + 2) = [lo, hi] := by
  apply List.ext_getElem?
  intro j
  simp only [slice, List.getElem?_drop, List.getElem?_take]
  rcases j with _ | _ | j
  · simpa using hlo
  · simpa using hhi
  · simp

/-- The checker's two-byte read and the precompile's agree. -/
theorem readU16_ok {data : List UInt8} {pos : Nat} {w : UInt16} (h : readU16 data pos = .ok w) :
    pos + 2 ≤ data.length ∧ w.toNat = wordAt data pos := by
  simp only [readU16, bind_ok, usizeAdd_ok, require_ok, index_ok, pure_ok] at h
  obtain ⟨last, ⟨_, rfl⟩, _, hle, lo, hlo, hi, hhi, rfl⟩ := h
  refine ⟨hle, ?_⟩
  have hl := lo.toNat_lt
  have hh := hi.toNat_lt
  rw [wordAt, slice_two hlo hhi, UInt16.toNat_ofNat', Nat.mod_eq_of_lt]
  simp only [ofLe]
  omega

theorem readU16_no_panic {data : List UInt8} {pos : Nat} (h : pos + 2 < 2 ^ 64) :
    readU16 data pos ≠ .error .panic := by
  apply bind_ne_error
  · rw [usizeAdd, if_pos h]
    simp
  intro last hlast
  obtain ⟨_, rfl⟩ := usizeAdd_ok.mp hlast
  apply bind_ne_error (require_ne_error (by simp))
  intro _ hle
  rw [require_ok] at hle
  obtain ⟨lo, hlo⟩ := index_of_lt data pos (by omega)
  obtain ⟨hi, hhi⟩ := index_of_lt data (pos + 1) (by omega)
  simp [hlo, hhi, bind, Except.bind, pure, Except.pure]

/-- A size read from two bytes never overflows a `usize` sum. -/
theorem usizeAdd_word_no_panic (w : UInt16) {n : Nat} (h : n ≤ 2 ^ 16) :
    usizeAdd w.toNat n ≠ .error .panic := by
  have hw := w.toNat_lt
  have hs : w.toNat + n < 2 ^ 64 := by omega
  rw [usizeAdd, if_pos hs]
  simp

theorem subslice_no_panic {data : List UInt8} {a b : Nat} (hab : a ≤ b) (hb : b ≤ data.length) :
    subslice data a b ≠ .error .panic := by
  simp [subslice, hab, hb]

/-- What an accepted instruction looks like to the precompile: its first entry
is there, is self-contained, and designates this key and this message. -/
structure Binds (data : List UInt8) (pk : FixedBytes 32) (msg : List UInt8) : Prop where
  long : 16 ≤ data.length
  count : ∃ n, data.head? = some n ∧ 1 ≤ n.toNat
  sigIndex : (signatureOffsets data 0).signatureInstructionIndex = 0xFFFF
  pkIndex : (signatureOffsets data 0).publicKeyInstructionIndex = 0xFFFF
  msgIndex : (signatureOffsets data 0).messageInstructionIndex = 0xFFFF
  sigFits : (signatureOffsets data 0).signatureOffset + 64 ≤ data.length
  pkFits : (signatureOffsets data 0).publicKeyOffset + 32 ≤ data.length
  msgFits : (signatureOffsets data 0).messageDataOffset +
    (signatureOffsets data 0).messageDataSize ≤ data.length
  pkBytes : slice data (signatureOffsets data 0).publicKeyOffset
    ((signatureOffsets data 0).publicKeyOffset + 32) = pk.toList
  msgBytes : slice data (signatureOffsets data 0).messageDataOffset
    ((signatureOffsets data 0).messageDataOffset +
      (signatureOffsets data 0).messageDataSize) = msg

theorem sentinel_word {data : List UInt8} {pos : Nat} {w : UInt16}
    (h : readU16 data pos = .ok w) (hw : w = sentinel) : wordAt data pos = 0xFFFF := by
  rw [← (readU16_ok h).2, hw]
  rfl

theorem checkEd25519Data_binds {data : List UInt8} {pk : FixedBytes 32} {msg : List UInt8}
    (h : checkEd25519Data data pk msg = .ok ()) : Binds data pk msg := by
  simp only [checkEd25519Data, bind_ok, require_ok, index_ok, usizeAdd_ok, subslice_ok] at h
  obtain ⟨_, hlong, n, hn, _, hcount, sigO, hsigO, sigI, hsigI, pkO, hpkO, pkI, hpkI,
    msgO, hmsgO, msgS, hmsgS, msgI, hmsgI, _, ⟨hs, hp, hm⟩, pkEnd, ⟨_, rfl⟩, _, hpkEnd,
    sigEnd, ⟨_, rfl⟩, _, hsigEnd, msgEnd, ⟨_, rfl⟩, _, hmsgEnd, pkB, ⟨_, hpkB⟩, _, hpk,
    _, _, msgB, ⟨_, hmsgB⟩, hmsg⟩ := h
  have eSig : sigO.toNat = (signatureOffsets data 0).signatureOffset := (readU16_ok hsigO).2
  have ePk : pkO.toNat = (signatureOffsets data 0).publicKeyOffset := (readU16_ok hpkO).2
  have eMsg : msgO.toNat = (signatureOffsets data 0).messageDataOffset := (readU16_ok hmsgO).2
  have eSize : msgS.toNat = (signatureOffsets data 0).messageDataSize := (readU16_ok hmsgS).2
  rw [ePk] at hpkEnd hpkB
  rw [eSig] at hsigEnd
  rw [eMsg, eSize] at hmsgEnd hmsgB
  refine ⟨hlong, ⟨n, ?_, hcount⟩, sentinel_word hsigI hs, sentinel_word hpkI hp,
    sentinel_word hmsgI hm, ?_, ?_, ?_, ?_, ?_⟩
  · rwa [List.head?_eq_getElem?]
  · exact hsigEnd
  · exact hpkEnd
  · exact hmsgEnd
  · exact hpkB.trans hpk
  · exact hmsgB.trans hmsg

/-- For arbitrary bytes the check neither reads out of bounds nor overflows. -/
theorem checkEd25519Data_no_panic (data : List UInt8) (pk : FixedBytes 32) (msg : List UInt8) :
    checkEd25519Data data pk msg ≠ .error .panic := by
  have hreq : ∀ {p : Prop} [Decidable p] (e : SolMeshError),
      require p (.custom e) ≠ .error Failure.panic := fun e => require_ne_error (by simp)
  have hread : ∀ n, n ≤ 14 → readU16 data (header + n) ≠ .error .panic :=
    fun n hn => readU16_no_panic (by simp only [header]; omega)
  unfold checkEd25519Data
  refine bind_ne_error (hreq _) fun _ hlong => ?_
  rw [require_ok] at hlong
  refine bind_ne_error ?_ fun _ _ => bind_ne_error (hreq _) fun _ _ => ?_
  · obtain ⟨b, hb⟩ := index_of_lt data 0 (by simp only [header] at hlong; omega)
    simp [hb]
  refine bind_ne_error (hread 0 (by omega)) fun sigO _ => ?_
  refine bind_ne_error (hread 2 (by omega)) fun sigI _ => ?_
  refine bind_ne_error (hread 4 (by omega)) fun pkO _ => ?_
  refine bind_ne_error (hread 6 (by omega)) fun pkI _ => ?_
  refine bind_ne_error (hread 8 (by omega)) fun msgO _ => ?_
  refine bind_ne_error (hread 10 (by omega)) fun msgS _ => ?_
  refine bind_ne_error (hread 12 (by omega)) fun msgI _ => ?_
  refine bind_ne_error (hreq _) fun _ _ => ?_
  -- every slice below was compared with the length before it is taken
  refine bind_ne_error (usizeAdd_word_no_panic _ (by decide)) fun pkEnd hpkEnd => ?_
  refine bind_ne_error (hreq _) fun _ hpkLe => ?_
  refine bind_ne_error (usizeAdd_word_no_panic _ (by decide)) fun sigEnd _ => ?_
  refine bind_ne_error (hreq _) fun _ _ => ?_
  refine bind_ne_error (usizeAdd_word_no_panic _ (Nat.le_of_lt msgS.toNat_lt))
    fun msgEnd hmsgEnd => ?_
  refine bind_ne_error (hreq _) fun _ hmsgLe => ?_
  rw [require_ok] at hpkLe hmsgLe
  obtain ⟨_, rfl⟩ := usizeAdd_ok.mp hpkEnd
  obtain ⟨_, rfl⟩ := usizeAdd_ok.mp hmsgEnd
  refine bind_ne_error (subslice_no_panic (by omega) hpkLe) fun _ _ => ?_
  refine bind_ne_error (hreq _) fun _ _ => bind_ne_error (hreq _) fun _ _ => ?_
  refine bind_ne_error (subslice_no_panic (by omega) hmsgLe) fun _ _ => hreq _

theorem scanEd25519_ok {ixs : List InstructionData} {pk : FixedBytes 32} {msg : List UInt8}
    {is : List Nat} (h : scanEd25519 ixs pk msg is = .ok ()) :
    ∃ i ∈ is, ∃ ix, ixs[i]? = some ix ∧ ix.programId = ed25519ProgramId ∧
      checkEd25519Data ix.data pk msg = .ok () := by
  induction is with
  | nil => simp [scanEd25519] at h
  | cons i rest ih =>
    have later : scanEd25519 ixs pk msg rest = .ok () → ∃ j ∈ i :: rest, ∃ ix,
        ixs[j]? = some ix ∧ ix.programId = ed25519ProgramId ∧
          checkEd25519Data ix.data pk msg = .ok () := by
      intro hrest
      obtain ⟨j, hj, hix⟩ := ih hrest
      exact ⟨j, List.mem_cons_of_mem _ hj, hix⟩
    unfold scanEd25519 at h
    split at h
    · exact later h
    · rename_i ix hix
      split at h
      · exact later h
      · rename_i hprog
        split at h
        · rename_i hcheck
          exact ⟨i, List.mem_cons_self, ix, hix, Decidable.not_not.mp hprog, hcheck⟩
        · contradiction
        · exact later h

theorem scanEd25519_no_panic (ixs : List InstructionData) (pk : FixedBytes 32)
    (msg : List UInt8) (is : List Nat) : scanEd25519 ixs pk msg is ≠ .error .panic := by
  induction is with
  | nil => simp [scanEd25519]
  | cons i rest ih =>
    unfold scanEd25519
    split
    · exact ih
    · rename_i ix _
      split
      · exact ih
      · have hc := checkEd25519Data_no_panic ix.data pk msg
        split
        · simp
        · contradiction
        · exact ih

/-- Where the checker accepts, the precompile has verified exactly this key's
signature over exactly this message, inside the same instruction. -/
theorem Binds.verified {rt : Runtime} {ixs : List InstructionData} {data msg : List UInt8}
    {pk : FixedBytes 32} (h : Binds data pk msg) (hv : precompileVerified rt ixs data = true) :
    ∃ a, a + 64 ≤ data.length ∧
      rt.ed25519Verify pk.toList msg (slice data a (a + 64)) = true := by
  obtain ⟨n, hn, hpos⟩ := h.count
  simp only [precompileVerified, List.all_eq_true, Bool.and_eq_true] at hv
  have hentry := (hv.2 0 (by simp [hn]; omega)).2
  have hsig : dataSlice ixs data (signatureOffsets data 0).signatureInstructionIndex
      (signatureOffsets data 0).signatureOffset 64 = some (slice data
        (signatureOffsets data 0).signatureOffset
        ((signatureOffsets data 0).signatureOffset + 64)) := by
    simp [dataSlice, h.sigIndex, h.sigFits]
  have hpk : dataSlice ixs data (signatureOffsets data 0).publicKeyInstructionIndex
      (signatureOffsets data 0).publicKeyOffset 32 = some pk.toList := by
    simp [dataSlice, h.pkIndex, h.pkFits, h.pkBytes]
  have hmsg : dataSlice ixs data (signatureOffsets data 0).messageInstructionIndex
      (signatureOffsets data 0).messageDataOffset
      (signatureOffsets data 0).messageDataSize = some msg := by
    simp [dataSlice, h.msgIndex, h.msgFits, h.msgBytes]
  simp only [entryVerified, hsig, hpk, hmsg] at hentry
  exact ⟨_, h.sigFits, hentry⟩

theorem precompiled_at {rt : Runtime} {ctx : TxContext} (h : ctx.precompiled rt = true)
    {i : Nat} {ix : InstructionData} (hix : ctx.instructions[i]? = some ix)
    (hp : ix.programId = ed25519ProgramId) :
    precompileVerified rt ctx.instructions ix.data = true := by
  simp only [TxContext.precompiled, List.all_eq_true] at h
  have := h ix (List.mem_of_getElem? hix)
  simpa [hp] using this

/-- In a transaction that passed the precompile, an accepted check means that
an earlier instruction carries a valid signature by this key over this very
message. -/
theorem verifyEd25519Signature_sound {rt : Runtime} {ctx : TxContext} {pk : FixedBytes 32}
    {msg : List UInt8} (hp : ctx.precompiled rt = true)
    (h : verifyEd25519Signature ctx pk msg = .ok ()) :
    ∃ i < ctx.currentIndex, ∃ ix, ctx.instructions[i]? = some ix ∧
      ix.programId = ed25519ProgramId ∧ Binds ix.data pk msg ∧
      ∃ a, a + 64 ≤ ix.data.length ∧
        rt.ed25519Verify pk.toList msg (slice ix.data a (a + 64)) = true := by
  obtain ⟨i, hi, ix, hix, hprog, hcheck⟩ := scanEd25519_ok h
  have hb := checkEd25519Data_binds hcheck
  exact ⟨i, List.mem_range.mp hi, ix, hix, hprog, hb, hb.verified (precompiled_at hp hix hprog)⟩

theorem verifyEd25519Signature_presented {rt : Runtime} {ctx : TxContext} {pk : Pubkey}
    {msg : List UInt8} (hp : ctx.precompiled rt = true)
    (h : verifyEd25519Signature ctx pk msg = .ok ()) : Presented rt ctx pk msg := by
  obtain ⟨i, hi, ix, hix, hprog, hb, sigAt, hsig, hv⟩ := verifyEd25519Signature_sound hp h
  have hsize : (signatureOffsets ix.data 0).messageDataSize = msg.length := by
    have hlen := congrArg List.length hb.msgBytes
    rw [slice_length hb.msgFits] at hlen
    omega
  refine ⟨i, hi, ix, hix, hprog, sigAt, (signatureOffsets ix.data 0).publicKeyOffset,
    (signatureOffsets ix.data 0).messageDataOffset, hsig, hb.pkFits, ?_, hb.pkBytes, ?_, hv⟩
  · exact hsize ▸ hb.msgFits
  · have hm := hb.msgBytes
    rwa [hsize] at hm

/-- The check never aborts, and in a transaction that passed the precompile it
accepts only what an earlier instruction carries: a valid signature by exactly
this key over exactly this message. -/
theorem ed25519_binding (rt : Runtime) (ctx : TxContext) (pk : FixedBytes 32) (msg : List UInt8) :
    verifyEd25519Signature ctx pk msg ≠ .error .panic ∧
      (ctx.precompiled rt = true → verifyEd25519Signature ctx pk msg = .ok () →
        ∃ i < ctx.currentIndex, ∃ ix, ctx.instructions[i]? = some ix ∧
          ix.programId = ed25519ProgramId ∧ ∃ sigAt pkAt msgAt,
            sigAt + 64 ≤ ix.data.length ∧ pkAt + 32 ≤ ix.data.length ∧
            msgAt + msg.length ≤ ix.data.length ∧
            slice ix.data pkAt (pkAt + 32) = pk.toList ∧
            slice ix.data msgAt (msgAt + msg.length) = msg ∧
            rt.ed25519Verify pk.toList msg (slice ix.data sigAt (sigAt + 64)) = true) := by
  exact ⟨scanEd25519_no_panic _ _ _ _, verifyEd25519Signature_presented⟩

section
open Localnet

/-- The co-signed transaction of a checkpoint, as its third instruction sees it. -/
def checkpointContext : TxContext :=
  ⟨(cosigned 0 (update 7 1 300000 1000) (.checkpointSettle (settleAccounts 7)
    (update 7 1 300000 1000))).sysvar, 2, 0⟩

theorem ed25519_binding_checkpoint :
    ∃ i < 2, ∃ ix, checkpointContext.instructions[i]? = some ix ∧
      ix.programId = ed25519ProgramId := by
  obtain ⟨i, hi, ix, hix, hprog, _⟩ := (ed25519_binding Localnet.rt checkpointContext
    provider.key (update 7 1 300000 1000).toMessageBytes).2 (by decide +kernel)
    (by decide +kernel)
  exact ⟨i, hi, ix, hix, hprog⟩

end

end SolMesh
