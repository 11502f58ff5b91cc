import Mathlib.Data.List.Basic

namespace Readers

variable {ε α β : Type}

/-- A reader takes what it reads off the front of the bytes it is given. -/
abbrev Reader (ε α : Type) := StateT (List UInt8) (Except ε) α

/-- The next `n` bytes. -/
def takeBytes (e : ε) (n : Nat) : Reader ε (List UInt8) := fun bs =>
  if n ≤ bs.length then .ok (bs.take n, bs.drop n) else .error e

/-- A reader that accepts nothing. -/
def fail (e : ε) : Reader ε α := fun _ => .error e

/-- The same reader with other objections. -/
def mapError {δ : Type} (f : ε → δ) (get : Reader ε α) : Reader δ α := fun bs =>
  (get.run bs).mapError f

/-- On the values satisfying `P`, `get` reads what `put` writes, and it reads
nothing else. -/
structure Reads (P : α → Prop) (get : Reader ε α) (put : α → List UInt8) : Prop where
  complete : ∀ a, P a → ∀ rest, get.run (put a ++ rest) = .ok (a, rest)
  canonical : ∀ {bs a rest}, get.run bs = .ok (a, rest) → P a ∧ put a ++ rest = bs

/-- Given `n` bytes, the reader succeeds and takes just these. -/
def Fixed (n : Nat) (get : Reader ε α) : Prop :=
  ∀ bs, n ≤ bs.length → ∃ a rest, get.run bs = .ok (a, rest) ∧ rest.length + n = bs.length

theorem bind_run {get : Reader ε α} {next : α → Reader ε β} {bs rest : List UInt8} {b : β} :
    (get >>= next).run bs = .ok (b, rest) ↔
      ∃ a mid, get.run bs = .ok (a, mid) ∧ (next a).run mid = .ok (b, rest) := by
  rw [StateT.run_bind]
  cases h : get.run bs with
  | error e => simp [bind, Except.bind]
  | ok r =>
    obtain ⟨a, mid⟩ := r
    constructor
    · intro hn
      exact ⟨a, mid, rfl, hn⟩
    · intro hn
      obtain ⟨a', mid', he, hn⟩ := hn
      cases he
      exact hn

theorem Reads.pure (a : α) : Reads (fun b => b = a) (Pure.pure a : Reader ε α) fun _ => [] := by
  constructor
  · intro b hb rest
    subst hb
    rfl
  · intro bs b rest h
    cases h
    exact ⟨rfl, rfl⟩

/-- The written form matters on the values concerned only. -/
theorem Reads.congrOn {P Q : α → Prop} {get : Reader ε α} {put write : α → List UInt8}
    (h : Reads P get put) (hP : ∀ a, Q a ↔ P a) (hput : ∀ a, P a → write a = put a) :
    Reads Q get write := by
  constructor
  · intro a ha rest
    have hp := (hP a).mp ha
    rw [hput a hp]
    exact h.complete a hp rest
  · intro bs a rest hr
    obtain ⟨ha, hbs⟩ := h.canonical hr
    exact ⟨(hP a).mpr ha, by rw [hput a ha, hbs]⟩

theorem Reads.congr {P Q : α → Prop} {get : Reader ε α} {put write : α → List UInt8}
    (h : Reads P get put) (hP : ∀ a, Q a ↔ P a) (hput : ∀ a, write a = put a) :
    Reads Q get write :=
  h.congrOn hP fun a _ => hput a

/-- A part is read first, and then what is left of the values with that part. -/
theorem Reads.bindOn {P : α → Prop} {Q : β → Prop} {get : Reader ε α} {put : α → List UInt8}
    {next : α → Reader ε β} {putRest : β → List UInt8} (part : β → α) (h : Reads P get put)
    (hpart : ∀ b, Q b → P (part b))
    (hnext : ∀ a, P a → Reads (fun b => Q b ∧ part b = a) (next a) putRest) :
    Reads Q (get >>= next) fun b => put (part b) ++ putRest b := by
  constructor
  · intro b hb rest
    rw [bind_run]
    refine ⟨part b, putRest b ++ rest, ?_, (hnext _ (hpart b hb)).complete b ⟨hb, rfl⟩ rest⟩
    rw [List.append_assoc]
    exact h.complete _ (hpart b hb) _
  · intro bs b rest hr
    obtain ⟨a, mid, hget, hrest⟩ := bind_run.mp hr
    obtain ⟨ha, hbs⟩ := h.canonical hget
    obtain ⟨⟨hb, rfl⟩, hmid⟩ := (hnext a ha).canonical hrest
    exact ⟨hb, by rw [List.append_assoc, hmid, hbs]⟩

theorem Reads.bind {P : α → Prop} {Q : β → Prop} {get : Reader ε α} {put : α → List UInt8}
    {next : α → Reader ε β} {putRest : β → List UInt8} (part : β → α) (h : Reads P get put)
    (hpart : ∀ b, Q b → P (part b))
    (hnext : ∀ a, Reads (fun b => Q b ∧ part b = a) (next a) putRest) :
    Reads Q (get >>= next) fun b => put (part b) ++ putRest b :=
  h.bindOn part hpart fun a _ => hnext a

/-- What was read is wrapped up. -/
theorem Reads.map {P : α → Prop} {get : Reader ε α} {put : α → List UInt8} (f : α → β)
    (write : β → List UInt8) (h : Reads P get put) (hput : ∀ a, write (f a) = put a) :
    Reads (fun b => ∃ a, P a ∧ f a = b) (get >>= fun a => Pure.pure (f a)) write := by
  constructor
  · intro b hb rest
    obtain ⟨a, ha, rfl⟩ := hb
    rw [bind_run]
    exact ⟨a, rest, by rw [hput]; exact h.complete a ha rest, rfl⟩
  · intro bs b rest hr
    obtain ⟨a, mid, hget, hpure⟩ := bind_run.mp hr
    obtain ⟨ha, hbs⟩ := h.canonical hget
    cases hpure
    exact ⟨⟨a, ha, rfl⟩, by rw [hput, hbs]⟩

/-- Where there is nothing to be read, nothing needs to be accepted. -/
theorem Reads.fail {P : α → Prop} {e : ε} (put : α → List UInt8) (h : ∀ a, ¬P a) :
    Reads P (Readers.fail e) put :=
  ⟨fun a ha _ => absurd ha (h a), fun hr => nomatch hr⟩

theorem mapError_run {δ : Type} {f : ε → δ} {get : Reader ε α} {bs : List UInt8}
    {r : α × List UInt8} : (mapError f get).run bs = .ok r ↔ get.run bs = .ok r := by
  change (get.run bs).mapError f = .ok r ↔ _
  cases get.run bs with
  | error e => simp [Except.mapError]
  | ok q => simp [Except.mapError]

theorem Reads.mapError {δ : Type} {P : α → Prop} {get : Reader ε α} {put : α → List UInt8}
    (f : ε → δ) (h : Reads P get put) : Reads P (Readers.mapError f get) put := by
  constructor
  · intro a ha rest
    rw [mapError_run]
    exact h.complete a ha rest
  · intro bs a rest hr
    exact h.canonical (mapError_run.mp hr)

theorem Fixed.pure (a : α) : Fixed 0 (Pure.pure a : Reader ε α) := fun bs _ => ⟨a, bs, rfl, rfl⟩

theorem Fixed.bind {n m : Nat} {get : Reader ε α} {next : α → Reader ε β} (h : Fixed n get)
    (hnext : ∀ a, Fixed m (next a)) : Fixed (n + m) (get >>= next) := by
  intro bs hbs
  obtain ⟨a, mid, hget, hmid⟩ := h bs (by omega)
  obtain ⟨b, rest, hrest, hlen⟩ := hnext a mid (by omega)
  exact ⟨b, rest, bind_run.mpr ⟨a, mid, hget, hrest⟩, by omega⟩

theorem field_run (e : ε) (f : List UInt8 → α) (n : Nat) (bs : List UInt8) :
    (f <$> takeBytes e n).run bs =
      if n ≤ bs.length then .ok (f (bs.take n), bs.drop n) else .error e := by
  rw [StateT.run_map]
  change (fun p : List UInt8 × List UInt8 => (f p.1, p.2)) <$> takeBytes e n bs = _
  unfold takeBytes
  split <;> rfl

/-- A field of `n` bytes that `f` reads and `put` writes. -/
theorem reads_field {f : List UInt8 → α} {put : α → List UInt8} {n : Nat} (e : ε)
    (hlen : ∀ a, (put a).length = n) (hget : ∀ a, f (put a) = a)
    (hput : ∀ bs, bs.length = n → put (f bs) = bs) :
    Reads (fun _ => True) (f <$> takeBytes e n) put := by
  constructor
  · intro a _ rest
    rw [field_run, if_pos (by simp [hlen]), ← hlen a, List.take_left, List.drop_left, hget]
  · intro bs a rest h
    rw [field_run] at h
    split at h
    · rename_i hn
      cases h
      exact ⟨trivial, by rw [hput _ (List.length_take_of_le hn), List.take_append_drop]⟩
    · cases h

theorem fixed_field (e : ε) (f : List UInt8 → α) (n : Nat) : Fixed n (f <$> takeBytes e n) := by
  intro bs hn
  refine ⟨f (bs.take n), bs.drop n, ?_, ?_⟩
  · rw [field_run, if_pos hn]
  · rw [List.length_drop]
    omega

section
variable {get : Reader ε α} {put : α → List UInt8} {n : Nat}

/-- Of a format with fixed width, the reader accepts just the strings that are
long enough. -/
theorem Reads.accepts_iff (h : Reads (fun _ => True) get put) (fixed : Fixed n get)
    (hlen : ∀ a, (put a).length = n) (bs : List UInt8) :
    (∃ a rest, get.run bs = .ok (a, rest)) ↔ n ≤ bs.length := by
  constructor
  · intro hr
    obtain ⟨a, rest, hr⟩ := hr
    obtain ⟨-, rfl⟩ := h.canonical hr
    simp [hlen]
  · intro hn
    obtain ⟨a, rest, hr, _⟩ := fixed bs hn
    exact ⟨a, rest, hr⟩

/-- And it reads a string back to itself unless the string goes on. -/
theorem Reads.canonical_iff (h : Reads (fun _ => True) get put) (fixed : Fixed n get)
    (hlen : ∀ a, (put a).length = n) (bs : List UInt8) :
    (∀ a rest, get.run bs = .ok (a, rest) → put a = bs) ↔ bs.length ≤ n := by
  constructor
  · intro hall
    by_contra hlt
    obtain ⟨a, rest, hr, _⟩ := fixed bs (by omega)
    have he := hlen a
    rw [hall a rest hr] at he
    omega
  · intro hle a rest hr
    obtain ⟨-, rfl⟩ := h.canonical hr
    obtain rfl : rest = [] := by
      rw [List.length_append, hlen] at hle
      exact List.eq_nil_of_length_eq_zero (by omega)
    simp

end

end Readers
