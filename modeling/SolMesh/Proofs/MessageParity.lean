import SolMesh.Proofs.ClientCompleteness

namespace SolMesh
open Bytes Readers Client

theorem readArray_reads (n : Nat) :
    Reads (fun _ => True) (readArray n) (FixedBytes.toList (n := n)) := by
  have hp : (2 : Nat) ^ (8 * n) = 256 ^ n := by rw [Nat.pow_mul]
  refine reads_field _ FixedBytes.length_toList FixedBytes.ofLe_toList ?_
  intro bs hbs
  rw [FixedBytes.toList, BitVec.toNat_ofNat, hp, leBytes_mod, ← hbs, leBytes_ofLe]

/-- A word of 8 bytes is read back. -/
theorem ofLe_word (w : UInt64) : UInt64.ofNat (ofLe (leBytes 8 w.toNat)) = w := by
  have hw := w.toNat_lt
  apply UInt64.toNat_inj.mp
  rw [ofLe_leBytes, UInt64.toNat_ofNat']
  omega

theorem word_ofLe {bs : List UInt8} (h : bs.length = 8) :
    leBytes 8 (UInt64.ofNat (ofLe bs)).toNat = bs := by
  have hbs := leBytes_mod 8 (ofLe bs)
  rw [UInt64.toNat_ofNat']
  rw [← h, leBytes_ofLe, h] at hbs
  exact hbs

theorem readU64_reads : Reads (fun _ => True) readU64 fun w => leBytes 8 w.toNat :=
  reads_field _ (fun w => leBytes_length 8 w.toNat) ofLe_word fun _ => word_ofLe

theorem readI64_reads : Reads (fun _ => True) readI64 fun w => leBytes 8 w.toUInt64.toNat := by
  refine reads_field _ (fun w => leBytes_length 8 w.toUInt64.toNat) ?_ ?_
  · intro w
    rw [ofLe_word, Int64.toInt64_toUInt64]
  · intro bs hbs
    exact word_ofLe hbs

namespace StateUpdate

/-- The decoder reads what the encoder writes, field by field, and nothing
else. -/
theorem deserialize_reads : Reads (fun _ => True) deserialize toMessageBytes := by
  have fields : Reads (fun _ => True) deserialize fun u => u.domain.toList ++ (u.session.toList ++
      (leBytes 8 u.nonce.toNat ++ (leBytes 8 u.owedToProvider.toNat ++
        (leBytes 8 u.unitsConsumed.toNat ++ (leBytes 8 u.timestamp.toUInt64.toNat ++ []))))) := by
    refine (readArray_reads 8).bind StateUpdate.domain (fun _ _ => trivial) fun domain => ?_
    refine (readArray_reads 32).bind StateUpdate.session (fun _ _ => trivial) fun session => ?_
    refine readU64_reads.bind StateUpdate.nonce (fun _ _ => trivial) fun nonce => ?_
    refine readU64_reads.bind StateUpdate.owedToProvider (fun _ _ => trivial) fun owed => ?_
    refine readU64_reads.bind StateUpdate.unitsConsumed (fun _ _ => trivial) fun units => ?_
    refine readI64_reads.bind StateUpdate.timestamp (fun _ _ => trivial) fun timestamp => ?_
    refine (Reads.pure _).congr (fun u => ?_) fun _ => rfl
    cases u
    simp [and_assoc]
  exact fields.congr (fun _ => Iff.rfl) fun u => by rw [List.append_nil, toMessageBytes]

/-- The encoding has one width. -/
theorem deserialize_fixed : Fixed 72 deserialize := by
  refine (fixed_field _ _ 8).bind (m := 64) fun domain => ?_
  refine (fixed_field _ _ 32).bind (m := 32) fun session => ?_
  refine (fixed_field _ _ 8).bind (m := 24) fun nonce => ?_
  refine (fixed_field _ _ 8).bind (m := 16) fun owed => ?_
  refine (fixed_field _ _ 8).bind (m := 8) fun units => ?_
  exact (fixed_field _ _ 8).bind (m := 0) fun timestamp => Fixed.pure _

/-- What is accepted starts with the encoding of what is decoded. -/
theorem fromMessageBytes_ok {data : List UInt8} {u : StateUpdate} :
    fromMessageBytes data = .ok u ↔ ∃ rest, deserialize.run data = .ok (u, rest) := by
  unfold fromMessageBytes
  cases h : deserialize.run data with
  | error e => simp [bind, Except.bind]
  | ok r =>
    obtain ⟨v, rest⟩ := r
    simp [bind, Except.bind, pure, Except.pure]

/-- Every string that is long enough is accepted, for what its first 72 bytes
say. -/
theorem fromMessageBytes_accepts (data : List UInt8) :
    (∃ u, fromMessageBytes data = .ok u) ↔ 72 ≤ data.length := by
  rw [← deserialize_reads.accepts_iff deserialize_fixed toMessageBytes_length]
  exact exists_congr fun u => fromMessageBytes_ok

theorem deserialize_toMessageBytes (u : StateUpdate) :
    deserialize.run u.toMessageBytes = .ok (u, []) := by
  have hrun := deserialize_reads.complete u trivial []
  rwa [List.append_nil] at hrun

/-- A message is read back. -/
theorem fromMessageBytes_toMessageBytes (u : StateUpdate) :
    fromMessageBytes u.toMessageBytes = .ok u :=
  fromMessageBytes_ok.mpr ⟨[], u.deserialize_toMessageBytes⟩

/-- Decoding is canonical on the strings that do not go on after the last
field, and on no others. -/
theorem fromMessageBytes_canonical_iff (data : List UInt8) :
    ((∀ u, fromMessageBytes data = .ok u → u.toMessageBytes = data) ↔ data.length ≤ 72) ∧
      ((∃ u, fromMessageBytes data = .ok u) ↔ 72 ≤ data.length) := by
  refine ⟨?_, fromMessageBytes_accepts data⟩
  rw [← deserialize_reads.canonical_iff deserialize_fixed toMessageBytes_length]
  constructor
  · intro h u rest hrun
    exact h u (fromMessageBytes_ok.mpr ⟨rest, hrun⟩)
  · intro h u hu
    obtain ⟨rest, hrun⟩ := fromMessageBytes_ok.mp hu
    exact h u rest hrun

/-- A byte behind a message is not noticed. -/
theorem fromMessageBytes_trailing_byte :
    ¬∀ u, fromMessageBytes (List.replicate 73 0) = .ok u →
      u.toMessageBytes = List.replicate 73 0 := by
  intro h
  have hu := h ⟨0, 0, 0, 0, 0, 0⟩ (by decide)
  exact absurd hu (by decide)

end StateUpdate

/-- Anchor's coder puts the signed bytes into the instruction. -/
theorem encode_eq (s : Client.StateUpdate) : (toAnchorArg s).encode = serializeState s := by
  have word (v : Int) : encodeU64 v = u64le v := by
    unfold encodeU64 u64le
    split
    · rw [encodeBn, Int.emod_eq_of_lt] <;> omega
    · rfl
  have array {n : Nat} (x : FixedBytes n) : encodeArray n x.toList = some x.toList :=
    if_pos x.length_toList
  simp only [AnchorArg.encode, serializeState, toAnchorArg, bn_eq, word, ← stateDomain_toList,
    array]
  rfl

/-- The program holds what the client's state says. -/
theorem Client.StateUpdate.Same.inj {s t : Client.StateUpdate} {u : SolMesh.StateUpdate}
    (hs : s.Same u) (ht : t.Same u) : s = t := by
  have hsession := hs.session.symm.trans ht.session
  have hnonce := hs.nonce.symm.trans ht.nonce
  have howed := hs.owedToProvider.symm.trans ht.owedToProvider
  have hunits := hs.unitsConsumed.symm.trans ht.unitsConsumed
  have htime := hs.timestamp.symm.trans ht.timestamp
  cases s
  cases t
  simp only at hsession hnonce howed hunits htime
  subst hsession hnonce howed hunits htime
  rfl

/-- The signed bytes of a state that fits are those of the update it holds. -/
theorem serializeState_exists {s : Client.StateUpdate} (fits : s.Fits) :
    ∃ u, s.Same u ∧ serializeState s = some u.toMessageBytes := by
  obtain ⟨u, hreceive, same⟩ := receive_exists fits
  exact ⟨u, same, by rw [serializeState_eq, hreceive, Option.map_some]⟩

/-- What has a written form fits the widths of the fields. -/
theorem fits_of_serializeState {s : Client.StateUpdate} {msg : List UInt8}
    (h : serializeState s = some msg) : s.Fits := by
  simp only [serializeState, u64le, i64le, Option.bind_eq_bind, Option.bind_eq_some_iff,
    Option.ite_none_right_eq_some] at h
  obtain ⟨_, ⟨hn, _⟩, _, ⟨ho, _⟩, _, ⟨hu, _⟩, _, ⟨ht, _⟩, _⟩ := h
  exact ⟨hn, ho, hu, ht⟩

/-- The bytes that are signed determine the state. -/
theorem serializeState_inj {s t : Client.StateUpdate} {msg : List UInt8}
    (hs : serializeState s = some msg) (ht : serializeState t = some msg) : s = t := by
  obtain ⟨u, hu, hsu⟩ := serializeState_exists (fits_of_serializeState hs)
  obtain ⟨v, hv, htv⟩ := serializeState_exists (fits_of_serializeState ht)
  rw [hs, Option.some.injEq] at hsu
  rw [ht, Option.some.injEq] at htv
  obtain rfl := SolMesh.StateUpdate.toMessageBytes_inj (hsu.symm.trans htv)
  exact hu.inj hv

/-- Of a state that fits, client and program spell the same 72 bytes: those
that the client signs are those of the update that the program decodes from the
argument, the decoder reads them back to it, and on both sides the bytes
determine the state. -/
theorem serializeState_parity (s : Client.StateUpdate) (fits : s.Fits) :
    (∃ bytes u, serializeState s = some bytes ∧ bytes.length = 72 ∧
      (∃ data, (toAnchorArg s).encode = some data ∧
        SolMesh.StateUpdate.deserialize.run data = .ok (u, [])) ∧
      s.Same u ∧ u.toMessageBytes = bytes ∧
      SolMesh.StateUpdate.fromMessageBytes bytes = .ok u) ∧
    (∀ t : Client.StateUpdate, t.Fits → serializeState t = serializeState s → t = s) ∧
    (∀ u v : SolMesh.StateUpdate, u.toMessageBytes = v.toMessageBytes → u = v) := by
  obtain ⟨u, same, hbytes⟩ := serializeState_exists fits
  refine ⟨⟨u.toMessageBytes, u, hbytes, u.toMessageBytes_length, ⟨u.toMessageBytes, ?_, ?_⟩, same,
    rfl, u.fromMessageBytes_toMessageBytes⟩, ?_, fun _ _ => SolMesh.StateUpdate.toMessageBytes_inj⟩
  · rw [encode_eq, hbytes]
  · exact u.deserialize_toMessageBytes
  · intro t htfits ht
    obtain ⟨v, hv, htbytes⟩ := serializeState_exists htfits
    rw [htbytes, hbytes, Option.some.injEq] at ht
    obtain rfl := SolMesh.StateUpdate.toMessageBytes_inj ht
    exact hv.inj same

/-- Negative time, an amount above the numbers JavaScript counts exactly, and
the largest nonce. -/
theorem serializeState_parity_limits :
    ∃ u, SolMesh.StateUpdate.fromMessageBytes u.toMessageBytes = .ok u ∧
      serializeState ⟨Localnet.session 7, 2 ^ 64 - 1, 2 ^ 53 + 1, 0, -2 ^ 63⟩ =
        some u.toMessageBytes ∧ u.timestamp.toInt = -2 ^ 63 := by
  obtain ⟨⟨bytes, u, hs, _, _, same, rfl, hread⟩, _⟩ :=
    serializeState_parity ⟨Localnet.session 7, 2 ^ 64 - 1, 2 ^ 53 + 1, 0, -2 ^ 63⟩
      (by constructor <;> decide)
  exact ⟨u, hread, hs, same.timestamp⟩

/-- The golden bytes of the client's tests. -/
example : serializeState ⟨BitVec.ofNat 256 (ofLe (List.replicate 32 7)), 3, 1000, 42, 1700000000⟩ =
    some (stateDomain.toList ++ List.replicate 32 7 ++ [3, 0, 0, 0, 0, 0, 0, 0] ++
      [0xe8, 0x03, 0, 0, 0, 0, 0, 0] ++ [0x2a, 0, 0, 0, 0, 0, 0, 0] ++
      [0x00, 0xf1, 0x53, 0x65, 0, 0, 0, 0]) := by
  decide +kernel

end SolMesh
