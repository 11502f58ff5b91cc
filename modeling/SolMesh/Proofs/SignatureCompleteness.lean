import SolMesh.Proofs.SignatureBinding

namespace SolMesh
open Bytes Outcome

/-- Two bytes that are there can be read. -/
theorem readU16_exists {data : List UInt8} {pos : Nat} (hle : pos + 2 ≤ data.length)
    (hpos : pos + 2 < 2 ^ 64) :
    ∃ w, readU16 data pos = .ok w ∧ w.toNat = wordAt data pos := by
  obtain ⟨lo, hlo⟩ := index_of_lt data pos (by omega)
  obtain ⟨hi, hhi⟩ := index_of_lt data (pos + 1) (by omega)
  obtain ⟨w, hw⟩ : ∃ w, readU16 data pos = .ok w := by
    refine bind_exists (usizeAdd_ok.mpr ⟨hpos, rfl⟩) (require_exists hle ?_)
    exact bind_exists hlo (bind_exists hhi ⟨_, rfl⟩)
  exact ⟨w, hw, (readU16_ok hw).2⟩

/-- A word read as 0xFFFF is the sentinel. -/
theorem sentinel_of_word {w : UInt16} (h : w.toNat = 0xFFFF) : w = sentinel :=
  UInt16.toNat_inj.mp h

/-- An entry that binds key and message passes the check. -/
theorem checkEd25519Data_of_binds {data : List UInt8} {pk : FixedBytes 32} {msg : List UInt8}
    (h : Binds data pk msg) : checkEd25519Data data pk msg = .ok () := by
  have hlong := h.long
  obtain ⟨n, hn, hcount⟩ := h.count
  have read : ∀ i, i ≤ 12 → ∃ w, readU16 data (header + i) = .ok w ∧
      w.toNat = wordAt data (header + i) :=
    fun i hi => readU16_exists (by simp only [header]; omega) (by simp only [header]; omega)
  obtain ⟨sigO, hsigO, eSig⟩ := read 0 (by omega)
  obtain ⟨sigI, hsigI, eSigI⟩ := read 2 (by omega)
  obtain ⟨pkO, hpkO, ePk⟩ := read 4 (by omega)
  obtain ⟨pkI, hpkI, ePkI⟩ := read 6 (by omega)
  obtain ⟨msgO, hmsgO, eMsg⟩ := read 8 (by omega)
  obtain ⟨msgS, hmsgS, eSize⟩ := read 10 (by omega)
  obtain ⟨msgI, hmsgI, eMsgI⟩ := read 12 (by omega)
  have eSig : sigO.toNat = (signatureOffsets data 0).signatureOffset := eSig
  have ePk : pkO.toNat = (signatureOffsets data 0).publicKeyOffset := ePk
  have eMsg : msgO.toNat = (signatureOffsets data 0).messageDataOffset := eMsg
  have eSize : msgS.toNat = (signatureOffsets data 0).messageDataSize := eSize
  have hsigLt := sigO.toNat_lt
  have hpkLt := pkO.toNat_lt
  have hmsgLt := msgO.toNat_lt
  have hsizeLt := msgS.toNat_lt
  have hpkFits := h.pkFits
  have hsigFits := h.sigFits
  have hmsgFits := h.msgFits
  have hpkBytes := h.pkBytes
  have hmsgBytes := h.msgBytes
  rw [← ePk] at hpkFits hpkBytes
  rw [← eSig] at hsigFits
  rw [← eMsg, ← eSize] at hmsgFits hmsgBytes
  have hsize : msgS.toNat = msg.length := by
    rw [← hmsgBytes, slice_length hmsgFits]
    omega
  simp only [checkEd25519Data, bind_ok, require_ok, index_ok, usizeAdd_ok, subslice_ok]
  refine ⟨(), hlong, n, ?_, (), hcount, sigO, hsigO, sigI, hsigI, pkO, hpkO, pkI, hpkI, msgO,
    hmsgO, msgS, hmsgS, msgI, hmsgI, (), ⟨sentinel_of_word (eSigI.trans h.sigIndex),
      sentinel_of_word (ePkI.trans h.pkIndex), sentinel_of_word (eMsgI.trans h.msgIndex)⟩,
    _, ⟨?_, rfl⟩, (), hpkFits, _, ⟨?_, rfl⟩, (), hsigFits, _, ⟨?_, rfl⟩, (), hmsgFits, _,
    ⟨⟨Nat.le_add_right _ _, hpkFits⟩, rfl⟩, (), hpkBytes, (), hsize, _,
    ⟨⟨Nat.le_add_right _ _, hmsgFits⟩, rfl⟩, hmsgBytes⟩
  · rwa [← List.head?_eq_getElem?]
  · simp only [pubkeySize]
    omega
  · simp only [sigSize]
    omega
  · omega

theorem checkEd25519Data_iff {data : List UInt8} {pk : FixedBytes 32} {msg : List UInt8} :
    checkEd25519Data data pk msg = .ok () ↔ Binds data pk msg :=
  ⟨checkEd25519Data_binds, checkEd25519Data_of_binds⟩

/-- An earlier instruction of the ed25519 program has a self-contained first
entry that names this key and these bytes. -/
def CarriesSignature (ctx : TxContext) (pk : FixedBytes 32) (msg : List UInt8) : Prop :=
  ∃ i < ctx.currentIndex, ∃ ix, ctx.instructions[i]? = some ix ∧
    ix.programId = ed25519ProgramId ∧ Binds ix.data pk msg

/-- The scan ends at the first entry that binds, whatever it has passed over. -/
theorem scanEd25519_of_mem {ixs : List InstructionData} {pk : FixedBytes 32} {msg : List UInt8}
    {is : List Nat} {i : Nat} {ix : InstructionData} (hi : i ∈ is) (hix : ixs[i]? = some ix)
    (hprog : ix.programId = ed25519ProgramId) (hb : Binds ix.data pk msg) :
    scanEd25519 ixs pk msg is = .ok () := by
  induction is with
  | nil => simp at hi
  | cons j rest ih =>
    have hcheck := checkEd25519Data_of_binds hb
    rcases List.mem_cons.mp hi with he | hi
    · subst he
      simp [scanEd25519, hix, hprog, hcheck]
    · have hrest := ih hi
      unfold scanEd25519
      split
      · exact hrest
      · rename_i other _
        split
        · exact hrest
        · split
          · rfl
          · rename_i hpanic
            exact absurd hpanic (checkEd25519Data_no_panic other.data pk msg)
          · exact hrest

/-- A scan that finds nothing says so. -/
theorem scanEd25519_total (ixs : List InstructionData) (pk : FixedBytes 32) (msg : List UInt8)
    (is : List Nat) : scanEd25519 ixs pk msg is = .ok () ∨
      scanEd25519 ixs pk msg is = .error (.custom .ed25519IxMissing) := by
  induction is with
  | nil => exact .inr rfl
  | cons i rest ih =>
    unfold scanEd25519
    split
    · exact ih
    · rename_i ix _
      split
      · exact ih
      · split
        · exact .inl rfl
        · rename_i hpanic
          exact absurd hpanic (checkEd25519Data_no_panic ix.data pk msg)
        · exact ih

theorem verifyEd25519Signature_iff {ctx : TxContext} {pk : FixedBytes 32} {msg : List UInt8} :
    verifyEd25519Signature ctx pk msg = .ok () ↔ CarriesSignature ctx pk msg := by
  constructor
  · intro h
    obtain ⟨i, hi, ix, hix, hprog, hcheck⟩ := scanEd25519_ok h
    exact ⟨i, List.mem_range.mp hi, ix, hix, hprog, checkEd25519Data_binds hcheck⟩
  · intro h
    obtain ⟨i, hi, ix, hix, hprog, hb⟩ := h
    exact scanEd25519_of_mem (List.mem_range.mpr hi) hix hprog hb

theorem verifyEd25519Signature_error {ctx : TxContext} {pk : FixedBytes 32} {msg : List UInt8}
    {e : Failure} (h : verifyEd25519Signature ctx pk msg = .error e) :
    e = .custom .ed25519IxMissing ∧ ¬ CarriesSignature ctx pk msg := by
  constructor
  · rcases scanEd25519_total ctx.instructions pk msg (List.range ctx.currentIndex) with hs | hs
    · cases h.symm.trans hs
    · cases h.symm.trans hs
      rfl
  · intro hc
    cases h.symm.trans (verifyEd25519Signature_iff.mpr hc)

end SolMesh
