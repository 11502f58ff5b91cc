import SolMesh.Model.Storage
import SolMesh.Proofs.MessageParity

namespace SolMesh
open Bytes Outcome Readers

namespace Borsh

theorem field_reads {α : Type} {get : Reader IoError α} {put : α → List UInt8} {P : α → Prop}
    (h : Reads P get put) : Reads P (field get) put :=
  h.mapError _

theorem readU8_reads : Reads (fun _ => True) readU8 fun b => [b] := by
  refine reads_field _ (fun _ => rfl) (fun b => ?_) fun bs hbs => ?_
  · simp [ofLe]
  · obtain ⟨b, rfl⟩ := List.length_eq_one_iff.mp hbs
    simp [ofLe]

theorem readU16_reads : Reads (fun _ => True) Borsh.readU16 fun w => leBytes 2 w.toNat := by
  refine reads_field _ (fun w => leBytes_length 2 w.toNat) (fun w => ?_) fun bs hbs => ?_
  · have hw := w.toNat_lt
    apply UInt16.toNat_inj.mp
    rw [ofLe_leBytes, UInt16.toNat_ofNat']
    omega
  · rw [UInt16.toNat_ofNat', show 2 ^ 16 = 256 ^ 2 from rfl, leBytes_mod, ← hbs, leBytes_ofLe]

theorem readU32_reads : Reads (fun _ => True) readU32 fun w => leBytes 4 w.toNat := by
  refine reads_field _ (fun w => leBytes_length 4 w.toNat) (fun w => ?_) fun bs hbs => ?_
  · have hw := w.toNat_lt
    apply UInt32.toNat_inj.mp
    rw [ofLe_leBytes, UInt32.toNat_ofNat']
    omega
  · rw [UInt32.toNat_ofNat', show 2 ^ 32 = 256 ^ 4 from rfl, leBytes_mod, ← hbs, leBytes_ofLe]

/-- A tag byte is read, and then what is left of the values with that tag. -/
theorem tagged_reads {α : Type} {next : UInt8 → Reader StorageError α} (tag : α → UInt8)
    (rest : α → List UInt8) (h : ∀ b, Reads (fun a => tag a = b) (next b) rest) :
    Reads (fun _ => True) (field readU8 >>= next) fun a => [tag a] ++ rest a := by
  refine (field_reads readU8_reads).bind tag (fun _ _ => trivial) fun b => ?_
  exact (h b).congr (fun a => by simp) fun _ => rfl

/-- One value without anything behind its tag. -/
theorem leaf_reads {α : Type} {P : α → Prop} {rest : α → List UInt8} (a : α)
    (hP : ∀ b, P b ↔ b = a) (hrest : rest a = []) :
    Reads P (pure a : Reader StorageError α) rest := by
  refine (Reads.pure a).congrOn hP fun b hb => ?_
  subst hb
  exact hrest

theorem readBool_reads : Reads (fun _ => True) readBool fun b => [boolByte b] := by
  refine (tagged_reads boolByte (fun _ => []) fun b => ?_).congr (fun _ => Iff.rfl)
    fun _ => rfl
  by_cases h₀ : b = 0
  · rw [if_pos h₀]
    exact leaf_reads false (fun a => by cases a <;> simp [boolByte, h₀]) rfl
  by_cases h₁ : b = 1
  · rw [if_neg h₀, if_pos h₁]
    exact leaf_reads true (fun a => by cases a <;> simp [boolByte, h₁]) rfl
  · rw [if_neg h₀, if_neg h₁]
    exact .fail _ fun a => by cases a <;> simp [boolByte, Ne.symm h₀, Ne.symm h₁]

theorem readOption_reads {α : Type} {get : Reader StorageError α} {put : α → List UInt8}
    (h : Reads (fun _ => True) get put) :
    Reads (fun _ => True) (readOption get) (optionBytes put) := by
  refine (tagged_reads (fun o => boolByte o.isSome) (fun o => o.elim [] put)
    fun b => ?_).congr (fun _ => Iff.rfl) fun o => by cases o <;> rfl
  by_cases h₀ : b = 0
  · rw [if_pos h₀]
    exact leaf_reads none (fun o => by cases o <;> simp [boolByte, h₀]) rfl
  by_cases h₁ : b = 1
  · rw [if_neg h₀, if_pos h₁]
    refine (h.map some (fun o => o.elim [] put) fun _ => rfl).congr (fun o => ?_)
      fun _ => rfl
    cases o <;> simp [boolByte, h₁]
  · rw [if_neg h₀, if_neg h₁]
    exact .fail _ fun o => by cases o <;> simp [boolByte, Ne.symm h₀, Ne.symm h₁]

theorem readStatus_reads : Reads (fun _ => True) readStatus fun s => [statusIndex s] := by
  refine (tagged_reads statusIndex (fun _ => []) fun b => ?_).congr (fun _ => Iff.rfl)
    fun _ => rfl
  by_cases h₀ : b = 0
  · rw [if_pos h₀]
    exact leaf_reads SessionStatus.open (fun s => by cases s <;> simp [statusIndex, h₀]) rfl
  by_cases h₁ : b = 1
  · rw [if_neg h₀, if_pos h₁]
    exact leaf_reads SessionStatus.closing (fun s => by cases s <;> simp [statusIndex, h₁]) rfl
  by_cases h₂ : b = 2
  · rw [if_neg h₀, if_neg h₁, if_pos h₂]
    exact leaf_reads SessionStatus.settled (fun s => by cases s <;> simp [statusIndex, h₂]) rfl
  by_cases h₃ : b = 3
  · rw [if_neg h₀, if_neg h₁, if_neg h₂, if_pos h₃]
    exact leaf_reads SessionStatus.cancelled (fun s => by cases s <;> simp [statusIndex, h₃]) rfl
  by_cases h₄ : b = 4
  · rw [if_neg h₀, if_neg h₁, if_neg h₂, if_neg h₃, if_pos h₄]
    exact leaf_reads SessionStatus.expired (fun s => by cases s <;> simp [statusIndex, h₄]) rfl
  · rw [if_neg h₀, if_neg h₁, if_neg h₂, if_neg h₃, if_neg h₄]
    exact .fail _ fun s => by
      cases s <;> simp only [statusIndex] <;> exact fun he => by simp_all

theorem fromUtf8_run {bs rest rest' : List UInt8} {s : String} :
    (fromUtf8 bs).run rest = .ok (s, rest') ↔ s.toByteArray.data.toList = bs ∧ rest = rest' := by
  unfold fromUtf8 String.fromUTF8?
  by_cases hv : ByteArray.IsValidUTF8 ⟨bs.toArray⟩
  · rw [dif_pos hv]
    change Except.ok (String.fromUTF8 ⟨bs.toArray⟩ hv, rest) = .ok (s, rest') ↔ _
    simp only [Except.ok.injEq, Prod.mk.injEq]
    refine and_congr_left fun _ => ?_
    constructor
    · intro he
      subst he
      rfl
    · intro he
      subst he
      exact String.toByteArray_inj.mp rfl
  · rw [dif_neg hv]
    constructor
    · intro h
      cases h
    · intro h
      obtain ⟨rfl, -⟩ := h
      exact absurd s.isValidUTF8 hv

/-- The bytes of a text are taken by their number. -/
theorem decode_reads (n : Nat) : Reads (fun s : String => s.utf8ByteSize = n)
    (takeBytes .accountDidNotDeserialize n >>= fromUtf8) fun s => s.toByteArray.data.toList := by
  constructor
  · intro s hs rest
    have hlen : s.toByteArray.data.toList.length = n := hs
    refine bind_run.mpr ⟨s.toByteArray.data.toList, rest, ?_, fromUtf8_run.mpr ⟨rfl, rfl⟩⟩
    change takeBytes _ n _ = _
    unfold takeBytes
    rw [if_pos (by simp [hlen]), ← hlen, List.take_left, List.drop_left]
  · intro bs s rest h
    obtain ⟨text, mid, htake, hdecode⟩ := bind_run.mp h
    obtain ⟨rfl, rfl⟩ := fromUtf8_run.mp hdecode
    change takeBytes _ n bs = _ at htake
    unfold takeBytes at htake
    split at htake
    · rename_i hn
      simp only [Except.ok.injEq, Prod.mk.injEq] at htake
      obtain ⟨htext, rfl⟩ := htake
      refine ⟨?_, by rw [← htext, List.take_append_drop]⟩
      have hlen : s.toByteArray.data.toList.length = n := by
        rw [← htext, List.length_take_of_le hn]
      exact hlen
    · cases htake

theorem readString_reads :
    Reads (fun s => s.utf8ByteSize < 2 ^ 32) readString stringBytes := by
  have parts : Reads (fun s : String => s.utf8ByteSize < 2 ^ 32) readString fun s =>
      leBytes 4 (UInt32.ofNat s.utf8ByteSize).toNat ++ s.toByteArray.data.toList := by
    refine (field_reads readU32_reads).bind (fun s : String => UInt32.ofNat s.utf8ByteSize)
      (fun _ _ => trivial) fun n => ?_
    refine (decode_reads n.toNat).congr (fun s => ?_) fun _ => rfl
    constructor
    · intro h
      obtain ⟨hs, rfl⟩ := h
      rw [UInt32.toNat_ofNat', Nat.mod_eq_of_lt hs]
    · intro h
      have hn := n.toNat_lt
      exact ⟨h ▸ hn, by rw [h, UInt32.ofNat_toNat]⟩
  refine parts.congrOn (fun _ => Iff.rfl) fun s hs => ?_
  rw [stringBytes, UInt32.toNat_ofNat', Nat.mod_eq_of_lt hs]

end Borsh

open Borsh

theorem Config.deserialize_reads :
    Reads (fun _ => True) Config.deserialize Config.serialize := by
  have fields : Reads (fun _ => True) Config.deserialize fun c =>
      c.authority.toList ++ (leBytes 2 c.feeBps.toNat ++ (c.feeVault.toList ++
        (leBytes 8 c.challengeWindowSecs.toUInt64.toNat ++ (c.mplCoreProgram.toList ++
          ([boolByte c.paused] ++ ([c.bump] ++ [])))))) := by
    refine (field_reads (readArray_reads 32)).bind Config.authority (fun _ _ => trivial)
      fun _ => ?_
    refine (field_reads readU16_reads).bind Config.feeBps (fun _ _ => trivial) fun _ => ?_
    refine (field_reads (readArray_reads 32)).bind Config.feeVault (fun _ _ => trivial)
      fun _ => ?_
    refine (field_reads readI64_reads).bind Config.challengeWindowSecs (fun _ _ => trivial)
      fun _ => ?_
    refine (field_reads (readArray_reads 32)).bind Config.mplCoreProgram (fun _ _ => trivial)
      fun _ => ?_
    refine readBool_reads.bind Config.paused (fun _ _ => trivial) fun _ => ?_
    refine (field_reads readU8_reads).bind Config.bump (fun _ _ => trivial) fun _ => ?_
    refine (Reads.pure _).congr (fun c => ?_) fun _ => rfl
    cases c
    simp [and_assoc]
  exact fields.congr (fun _ => Iff.rfl) fun c => by simp only [Config.serialize, List.append_nil]

theorem Node.deserialize_reads :
    Reads (fun n => n.geo.utf8ByteSize < 2 ^ 32) Node.deserialize Node.serialize := by
  have fields : Reads (fun n => n.geo.utf8ByteSize < 2 ^ 32) Node.deserialize fun n =>
      n.asset.toList ++ (n.provider.toList ++ (leBytes 8 n.capacity.toNat ++
        (stringBytes n.geo ++ (leBytes 4 n.reputation.toNat ++ (leBytes 8 n.totalUnits.toNat ++
          (leBytes 8 n.totalSessions.toNat ++ (leBytes 8 n.totalSettled.toNat ++
            ([boolByte n.active] ++ ([n.bump] ++ []))))))))) := by
    refine (field_reads (readArray_reads 32)).bind Node.asset (fun _ _ => trivial) fun _ => ?_
    refine (field_reads (readArray_reads 32)).bind Node.provider (fun _ _ => trivial) fun _ => ?_
    refine (field_reads readU64_reads).bind Node.capacity (fun _ _ => trivial) fun _ => ?_
    refine readString_reads.bindOn Node.geo (fun n hn => hn.1.1.1) fun geo hgeo => ?_
    refine (field_reads readU32_reads).bind Node.reputation (fun _ _ => trivial) fun _ => ?_
    refine (field_reads readU64_reads).bind Node.totalUnits (fun _ _ => trivial) fun _ => ?_
    refine (field_reads readU64_reads).bind Node.totalSessions (fun _ _ => trivial) fun _ => ?_
    refine (field_reads readU64_reads).bind Node.totalSettled (fun _ _ => trivial) fun _ => ?_
    refine readBool_reads.bind Node.active (fun _ _ => trivial) fun _ => ?_
    refine (field_reads readU8_reads).bind Node.bump (fun _ _ => trivial) fun _ => ?_
    refine (Reads.pure _).congr (fun n => ?_) fun _ => rfl
    cases n
    simp only [Node.mk.injEq, and_assoc]
    constructor
    · intro hn
      exact hn.2
    · intro hn
      exact ⟨hn.2.2.2.1 ▸ hgeo, hn⟩
  exact fields.congr (fun _ => Iff.rfl) fun n => by simp only [Node.serialize, List.append_nil]

theorem Session.deserialize_reads :
    Reads (fun _ => True) Session.deserialize Session.serialize := by
  have fields : Reads (fun _ => True) Session.deserialize fun s =>
      s.node.toList ++ (s.asset.toList ++ (s.provider.toList ++ (s.consumer.toList ++
        (optionBytes FixedBytes.toList s.mint ++ (leBytes 8 s.deposited.toNat ++
          (leBytes 8 s.settledToProvider.toNat ++ (leBytes 8 s.lastNonce.toNat ++
            (leBytes 8 s.ratePerUnit.toNat ++ (leBytes 8 s.openedAt.toUInt64.toNat ++
              (leBytes 8 s.expiry.toUInt64.toNat ++ ([statusIndex s.status] ++
                (leBytes 8 s.challengeDeadline.toUInt64.toNat ++
                  (leBytes 8 s.pendingPayout.toNat ++ (leBytes 8 s.pendingUnits.toNat ++
                    (leBytes 8 s.sessionSeed.toNat ++
                      ([s.vaultBump] ++ ([s.bump] ++ []))))))))))))))))) := by
    refine (field_reads (readArray_reads 32)).bind Session.node (fun _ _ => trivial) fun _ => ?_
    refine (field_reads (readArray_reads 32)).bind Session.asset (fun _ _ => trivial) fun _ => ?_
    refine (field_reads (readArray_reads 32)).bind Session.provider (fun _ _ => trivial)
      fun _ => ?_
    refine (field_reads (readArray_reads 32)).bind Session.consumer (fun _ _ => trivial)
      fun _ => ?_
    refine (readOption_reads (field_reads (readArray_reads 32))).bind Session.mint
      (fun _ _ => trivial) fun _ => ?_
    refine (field_reads readU64_reads).bind Session.deposited (fun _ _ => trivial) fun _ => ?_
    refine (field_reads readU64_reads).bind Session.settledToProvider (fun _ _ => trivial)
      fun _ => ?_
    refine (field_reads readU64_reads).bind Session.lastNonce (fun _ _ => trivial) fun _ => ?_
    refine (field_reads readU64_reads).bind Session.ratePerUnit (fun _ _ => trivial) fun _ => ?_
    refine (field_reads readI64_reads).bind Session.openedAt (fun _ _ => trivial) fun _ => ?_
    refine (field_reads readI64_reads).bind Session.expiry (fun _ _ => trivial) fun _ => ?_
    refine readStatus_reads.bind Session.status (fun _ _ => trivial) fun _ => ?_
    refine (field_reads readI64_reads).bind Session.challengeDeadline (fun _ _ => trivial)
      fun _ => ?_
    refine (field_reads readU64_reads).bind Session.pendingPayout (fun _ _ => trivial)
      fun _ => ?_
    refine (field_reads readU64_reads).bind Session.pendingUnits (fun _ _ => trivial) fun _ => ?_
    refine (field_reads readU64_reads).bind Session.sessionSeed (fun _ _ => trivial) fun _ => ?_
    refine (field_reads readU8_reads).bind Session.vaultBump (fun _ _ => trivial) fun _ => ?_
    refine (field_reads readU8_reads).bind Session.bump (fun _ _ => trivial) fun _ => ?_
    refine (Reads.pure _).congr (fun s => ?_) fun _ => rfl
    cases s
    simp [and_assoc]
  exact fields.congr (fun _ => Iff.rfl) fun s => by simp only [Session.serialize, List.append_nil]

/-- A layout whose reader and writer agree. -/
structure Layout.Sound {α : Type} (layout : Layout α) : Prop where
  width : layout.discriminator.length = 8
  reads : Reads (fun a => layout.encodes a = true) layout.deserialize layout.serialize

theorem configLayout_sound : configLayout.Sound :=
  ⟨rfl, Config.deserialize_reads.congr (fun _ => by simp [configLayout]) fun _ => rfl⟩

theorem nodeLayout_sound : nodeLayout.Sound :=
  ⟨rfl, Node.deserialize_reads.congr (fun _ => by simp [nodeLayout]) fun _ => rfl⟩

theorem sessionLayout_sound : sessionLayout.Sound :=
  ⟨rfl, Session.deserialize_reads.congr (fun _ => by simp [sessionLayout]) fun _ => rfl⟩

namespace Layout

variable {α β : Type} {layout : Layout α} {other : Layout β}

/-- The data starts with the value's encoding. -/
def Holds (layout : Layout α) (a : α) (data : List UInt8) : Prop :=
  layout.encodes a = true ∧ ∃ rest, data = layout.image a ++ rest

theorem tryDeserializeUnchecked_ok {data : List UInt8} {a : α} :
    layout.tryDeserializeUnchecked data = .ok a ↔
      ∃ rest, layout.deserialize.run (data.drop layout.discriminator.length) = .ok (a, rest) := by
  simp only [tryDeserializeUnchecked, bind_ok, pure_ok, Prod.exists, exists_and_right,
    exists_eq_right]

/-- Exactly the encodings are read, each as the value it encodes, and what
follows them is not looked at. -/
theorem Sound.tryDeserialize_iff (h : layout.Sound) {data : List UInt8} {a : α} :
    layout.tryDeserialize data = .ok a ↔ layout.Holds a data := by
  simp only [tryDeserialize, bind_ok, require_ok, tryDeserializeUnchecked_ok]
  constructor
  · intro hd
    obtain ⟨_, _, _, htag, rest, hrun⟩ := hd
    obtain ⟨ha, hrest⟩ := h.reads.canonical hrun
    refine ⟨ha, rest, ?_⟩
    rw [image, List.append_assoc, hrest]
    exact (List.take_append_drop _ data).symm.trans (by rw [htag])
  · intro hd
    obtain ⟨ha, rest, rfl⟩ := hd
    refine ⟨(), ?_, (), ?_, rest, ?_⟩
    · simp only [image, List.length_append]
      omega
    · rw [image, List.append_assoc, List.take_left]
    · rw [image, List.append_assoc, List.drop_left]
      exact h.reads.complete a ha rest

theorem trySerialize_ok {a : α} {data data' : List UInt8} :
    layout.trySerialize a data = .ok data' ↔ layout.encodes a = true ∧
      (layout.image a).length ≤ data.length ∧
      data' = layout.image a ++ data.drop (layout.image a).length := by
  simp only [trySerialize, bind_ok, require_ok, pure_ok]
  constructor
  · intro h
    obtain ⟨_, ha, _, hle, rfl⟩ := h
    exact ⟨ha, hle, rfl⟩
  · intro h
    obtain ⟨ha, hle, rfl⟩ := h
    exact ⟨(), ha, (), hle, rfl⟩

/-- What was written is there, and the data keeps its size. -/
theorem trySerialize_holds {a : α} {data data' : List UInt8}
    (h : layout.trySerialize a data = .ok data') :
    data'.length = data.length ∧ layout.Holds a data' := by
  obtain ⟨ha, hle, rfl⟩ := trySerialize_ok.mp h
  refine ⟨?_, ha, _, rfl⟩
  rw [List.length_append, List.length_drop]
  omega

theorem trySerialize_exists {a : α} {data : List UInt8} (ha : layout.encodes a = true)
    (hle : (layout.image a).length ≤ data.length) :
    ∃ data', layout.trySerialize a data = .ok data' :=
  ⟨_, trySerialize_ok.mpr ⟨ha, hle, rfl⟩⟩

/-- Data of one type is not taken for another. -/
theorem Holds.mismatch {a : α} {data : List UInt8} (h : layout.Holds a data)
    (hl : layout.discriminator.length = 8) (ho : other.discriminator.length = 8)
    (hne : layout.discriminator ≠ other.discriminator) :
    other.tryDeserialize data = .error .accountDiscriminatorMismatch := by
  obtain ⟨_, rest, rfl⟩ := h
  have hlen : other.discriminator.length = layout.discriminator.length := ho.trans hl.symm
  have htake : (layout.image a ++ rest).take other.discriminator.length =
      layout.discriminator := by
    rw [hlen, image, List.append_assoc, List.take_left]
  have hle : other.discriminator.length ≤ (layout.image a ++ rest).length := by
    rw [hlen, image, List.append_assoc, List.length_append]
    omega
  refine bind_error.mpr (.inr ⟨(), require_ok.mpr hle, bind_error.mpr (.inl ?_)⟩)
  rw [htake]
  exact require_error.mpr ⟨hne, rfl⟩

end Layout

theorem stringBytes_length (s : String) : (stringBytes s).length = 4 + s.utf8ByteSize := by
  rw [stringBytes, List.length_append, leBytes_length]
  rfl

theorem configLayout_image_length (c : Config) : (configLayout.image c).length = Config.space := by
  simp [Layout.image, configLayout, Config.serialize, FixedBytes.length_toList, Config.space]

/-- The room for `geo` is what is left of the allocated size. -/
theorem nodeLayout_image_length (n : Node) :
    (nodeLayout.image n).length + maxString = Node.space + n.geo.utf8ByteSize := by
  simp only [Layout.image, nodeLayout, Node.serialize, stringBytes_length, List.length_append,
    leBytes_length, FixedBytes.length_toList, List.length_cons, List.length_nil, Node.space,
    maxString]
  omega

theorem sessionLayout_image_length (s : Session) :
    (sessionLayout.image s).length + (if s.mint = none then 32 else 0) = Session.space := by
  have hmint : (optionBytes FixedBytes.toList s.mint).length +
      (if s.mint = none then 32 else 0) = 33 := by
    cases s.mint with
    | none => rfl
    | some m => simp [optionBytes, FixedBytes.length_toList]
  simp only [Layout.image, sessionLayout, Session.serialize, List.length_append, leBytes_length,
    FixedBytes.length_toList, List.length_cons, List.length_nil, Session.space]
  omega

end SolMesh
