import Mathlib.Algebra.Order.Ring.Nat

namespace Bytes

/-- The little-endian spelling of a number in a fixed count of bytes. Digits
beyond the width are dropped. -/
def leBytes : Nat → Nat → List UInt8
  | 0, _ => []
  | width + 1, value => UInt8.ofNat value :: leBytes width (value / 256)

/-- The number that a little-endian byte string spells. -/
def ofLe : List UInt8 → Nat
  | [] => 0
  | b :: bs => b.toNat + 256 * ofLe bs

/-- The bytes from position `a` up to, not including, position `b`. -/
def slice (data : List UInt8) (a b : Nat) : List UInt8 :=
  (data.take b).drop a

@[simp] theorem leBytes_length (width value : Nat) : (leBytes width value).length = width := by
  induction width generalizing value with
  | zero => rfl
  | succ width ih => simp [leBytes, ih]

theorem ofLe_leBytes (width value : Nat) : ofLe (leBytes width value) = value % 256 ^ width := by
  induction width generalizing value with
  | zero => simp [leBytes, ofLe, Nat.mod_one]
  | succ width ih =>
    have hb : (UInt8.ofNat value).toNat = value % 256 := UInt8.toNat_ofNat'
    rw [leBytes, ofLe, ih, hb, Nat.pow_succ', Nat.mod_mul]

/-- A number that fits its width is determined by its bytes. -/
theorem leBytes_inj {width v w : Nat} (hv : v < 256 ^ width) (hw : w < 256 ^ width)
    (h : leBytes width v = leBytes width w) : v = w := by
  have he := congrArg ofLe h
  rwa [ofLe_leBytes, ofLe_leBytes, Nat.mod_eq_of_lt hv, Nat.mod_eq_of_lt hw] at he

theorem leBytes_ofLe (bs : List UInt8) : leBytes bs.length (ofLe bs) = bs := by
  induction bs with
  | nil => rfl
  | cons b bs ih =>
    have hb := b.toNat_lt
    have hdiv : (b.toNat + 256 * ofLe bs) / 256 = ofLe bs := by omega
    have hmod : UInt8.ofNat (b.toNat + 256 * ofLe bs) = b := by
      apply UInt8.toNat_inj.mp
      rw [UInt8.toNat_ofNat']
      omega
    simp only [List.length_cons, leBytes, ofLe, hdiv, hmod, ih]

theorem leBytes_mod (width value : Nat) :
    leBytes width (value % 256 ^ width) = leBytes width value := by
  have h := leBytes_ofLe (leBytes width value)
  rwa [leBytes_length, ofLe_leBytes] at h

/-- Two concatenations with equally long heads agree piece by piece. -/
theorem append_inj_of_length {a b c d : List UInt8} (hl : a.length = b.length)
    (h : a ++ c = b ++ d) : a = b ∧ c = d :=
  List.append_inj h hl

theorem slice_length {data : List UInt8} {a b : Nat} (hb : b ≤ data.length) :
    (slice data a b).length = b - a := by
  simp [slice, List.length_drop, List.length_take, Nat.min_eq_left hb]

/-- The piece between two others is cut out by their lengths. -/
theorem slice_middle (a b c : List UInt8) :
    slice (a ++ (b ++ c)) a.length (a.length + b.length) = b := by
  have hl : a.length + b.length = (a ++ b).length := (List.length_append).symm
  rw [slice, ← List.append_assoc, hl, List.take_left, List.drop_left]

end Bytes
