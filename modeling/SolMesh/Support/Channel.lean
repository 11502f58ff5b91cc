import SolMesh.Support.Runs

namespace Channel
open Runs

/-- The messages of a unidirectional payment channel. Each carries a version
number and the amount owed to the payee so far. -/
class Message (M : Type) where
  nonce : M → Nat
  owed : M → Nat

inductive Phase
  | open
  | closing
  | closed
  deriving DecidableEq, Repr

/-- A channel holds a deposit, of which `settled` has been paid to the payee.
`last` is the message accepted last. -/
structure State (M : Type) where
  deposit : Nat
  settled : Nat
  last : Option M
  phase : Phase
  deadline : Int

/-- What can happen to a channel, with the money each move pays out. -/
inductive Move (M : Type)
  | checkpoint (m : M) (payout : Nat)
  | settle (m : M) (payout refund : Nat)
  | initiate (m : M) (deadline : Int)
  | challenge (m : M) (now : Int)
  | finalize (now : Int) (payout refund : Nat)
  | reclaim (refund : Nat)

namespace Move

variable {M : Type}

def message? : Move M → Option M
  | checkpoint m _ | settle m _ _ | initiate m _ | challenge m _ => some m
  | finalize _ _ _ | reclaim _ => none

def payout : Move M → Nat
  | checkpoint _ p | settle _ p _ | finalize _ p _ => p
  | initiate _ _ | challenge _ _ | reclaim _ => 0

def refund : Move M → Nat
  | settle _ _ r | finalize _ _ r | reclaim r => r
  | checkpoint _ _ | initiate _ _ | challenge _ _ => 0

end Move

variable {M : Type}

abbrev Trace (M : Type) := List (Transition (State M) (Move M))

/-- The messages of a trace in the order of their acceptance. -/
def accepted (tr : Trace M) : List M :=
  tr.filterMap fun x => x.label.message?

def paidOut (tr : Trace M) : Nat := total (fun x => x.label.payout) tr

def refunded (tr : Trace M) : Nat := total (fun x => x.label.refund) tr

@[simp] theorem paidOut_snoc (tr : Trace M) (x : Transition (State M) (Move M)) :
    paidOut (tr ++ [x]) = paidOut tr + x.label.payout :=
  total_snoc _ tr x

@[simp] theorem refunded_snoc (tr : Trace M) (x : Transition (State M) (Move M)) :
    refunded (tr ++ [x]) = refunded tr + x.label.refund :=
  total_snoc _ tr x

@[simp] theorem accepted_nil : accepted ([] : Trace M) = [] := rfl

@[simp] theorem accepted_snoc (tr : Trace M) (x : Transition (State M) (Move M)) :
    accepted (tr ++ [x]) = accepted tr ++ x.label.message?.toList := by
  cases h : x.label.message? <;> simp [accepted, h]

variable [Message M]

def State.nonce (a : State M) : Nat := a.last.elim 0 Message.nonce

/-- The amount owed by the last accepted message. -/
def State.due (a : State M) : Nat := a.last.elim 0 Message.owed

theorem State.nonce_none {a : State M} (h : a.last = none) : a.nonce = 0 := by
  simp [State.nonce, h]

theorem State.nonce_some {a : State M} {m : M} (h : a.last = some m) :
    a.nonce = Message.nonce m := by
  simp [State.nonce, h]

theorem State.due_none {a : State M} (h : a.last = none) : a.due = 0 := by
  simp [State.due, h]

theorem State.due_some {a : State M} {m : M} (h : a.last = some m) : a.due = Message.owed m := by
  simp [State.due, h]

/-- A message can follow the accepted ones: it is newer, takes back nothing
that was paid, and is covered by the deposit. -/
structure State.Admits (a : State M) (m : M) : Prop where
  newer : a.nonce < Message.nonce m
  keeps : a.settled ≤ Message.owed m
  covered : Message.owed m ≤ a.deposit

inductive Step : State M → Move M → State M → Prop
  | checkpoint {a : State M} {m : M} {payout : Nat} (phase : a.phase = .open)
      (admits : a.Admits m) (paid : payout + a.settled = Message.owed m) :
      Step a (.checkpoint m payout) { a with settled := Message.owed m, last := some m }
  | settle {a : State M} {m : M} {payout refund : Nat} (phase : a.phase = .open)
      (admits : a.Admits m) (paid : payout + a.settled = Message.owed m)
      (rest : refund + Message.owed m = a.deposit) :
      Step a (.settle m payout refund)
        { a with settled := Message.owed m, last := some m, phase := .closed }
  | initiate {a : State M} {m : M} {deadline : Int} (phase : a.phase = .open)
      (admits : a.Admits m) :
      Step a (.initiate m deadline)
        { a with last := some m, phase := .closing, deadline := deadline }
  | challenge {a : State M} {m : M} {now : Int} (phase : a.phase = .closing)
      (admits : a.Admits m) (early : now ≤ a.deadline) :
      Step a (.challenge m now) { a with last := some m }
  | finalize {a : State M} {now : Int} {payout refund : Nat} (phase : a.phase = .closing)
      (late : a.deadline < now) (paid : payout + a.settled = a.due)
      (rest : refund + a.due = a.deposit) :
      Step a (.finalize now payout refund) { a with settled := a.due, phase := .closed }
  | reclaim {a : State M} {refund : Nat} (phase : a.phase = .open)
      (rest : refund + a.settled = a.deposit) :
      Step a (.reclaim refund) { a with phase := .closed }

/-- A channel as it opens. -/
def start (deposit : Nat) : State M :=
  { deposit := deposit, settled := 0, last := none, phase := .open, deadline := 0 }

/-- Only a closing channel may owe more than it has paid. -/
structure State.Valid (a : State M) : Prop where
  settled_le : a.settled ≤ a.due
  covered : a.due ≤ a.deposit
  paid : a.phase ≠ .closing → a.settled = a.due

theorem start_valid (deposit : Nat) : (start deposit : State M).Valid :=
  ⟨Nat.le_refl 0, Nat.zero_le _, fun _ => rfl⟩

theorem Step.valid {a b : State M} {mv : Move M} (h : Step a mv b) (hv : a.Valid) : b.Valid := by
  cases h with
  | checkpoint _ admits _ => exact ⟨Nat.le_refl _, admits.covered, fun _ => rfl⟩
  | settle _ admits _ _ => exact ⟨Nat.le_refl _, admits.covered, fun _ => rfl⟩
  | initiate _ admits => exact ⟨admits.keeps, admits.covered, fun h => absurd rfl h⟩
  | challenge phase admits _ => exact ⟨admits.keeps, admits.covered, fun h => absurd phase h⟩
  | finalize _ _ _ _ => exact ⟨Nat.le_refl _, hv.covered, fun _ => rfl⟩
  | reclaim phase _ =>
    have hp : a.settled = a.due := hv.paid (by simp [phase])
    exact ⟨hv.settled_le, hv.covered, fun _ => hp⟩

/-- The money that left a channel: exactly `settled` to the payee while it
lives, and the whole deposit once it is closed. -/
structure Conserved (deposit : Nat) (tr : Trace M) (a : State M) : Prop where
  kept : a.deposit = deposit
  payouts : paidOut tr = a.settled
  live : a.phase ≠ .closed → refunded tr = 0
  closed : a.phase = .closed → paidOut tr + refunded tr = deposit

theorem Step.conserved {deposit : Nat} {tr : Trace M} {a b : State M} {mv : Move M}
    (hc : Conserved deposit tr a) (h : Step a mv b) :
    Conserved deposit (tr ++ [⟨a, mv, b⟩]) b := by
  obtain ⟨hd, hp, hl, _⟩ := hc
  cases h with
  | checkpoint phase admits paid =>
    have hz := hl (by simp [phase])
    refine ⟨hd, ?_, fun _ => ?_, fun h => by simp [phase] at h⟩ <;>
      simp only [paidOut_snoc, refunded_snoc, Move.payout, Move.refund] <;> omega
  | settle phase admits paid rest =>
    have hz := hl (by simp [phase])
    refine ⟨hd, ?_, fun h => absurd rfl h, fun _ => ?_⟩ <;>
      simp only [paidOut_snoc, refunded_snoc, Move.payout, Move.refund] <;> omega
  | initiate phase admits =>
    have hz := hl (by simp [phase])
    refine ⟨hd, ?_, fun _ => ?_, fun h => by cases h⟩ <;>
      simp only [paidOut_snoc, refunded_snoc, Move.payout, Move.refund] <;> omega
  | challenge phase admits early =>
    have hz := hl (by simp [phase])
    refine ⟨hd, ?_, fun _ => ?_, fun h => by simp [phase] at h⟩ <;>
      simp only [paidOut_snoc, refunded_snoc, Move.payout, Move.refund] <;> omega
  | finalize phase late paid rest =>
    have hz := hl (by simp [phase])
    refine ⟨hd, ?_, fun h => absurd rfl h, fun _ => ?_⟩ <;>
      simp only [paidOut_snoc, refunded_snoc, Move.payout, Move.refund] <;> omega
  | reclaim phase rest =>
    have hz := hl (by simp [phase])
    refine ⟨hd, ?_, fun h => absurd rfl h, fun _ => ?_⟩ <;>
      simp only [paidOut_snoc, refunded_snoc, Move.payout, Move.refund] <;> omega

theorem run_valid {deposit : Nat} {tr : Trace M} {a : State M}
    (h : Run Step (start deposit) tr a) : a.Valid :=
  h.invariant (start_valid deposit) fun hv hs => hs.valid hv

theorem run_conserved {deposit : Nat} {tr : Trace M} {a : State M}
    (h : Run Step (start deposit) tr a) : Conserved deposit tr a :=
  h.history (Conserved deposit) ⟨rfl, rfl, fun _ => rfl, fun h => by cases h⟩
    fun _ hc hs => hs.conserved hc

/-- What a step does to the message accepted last. -/
theorem Step.last {a b : State M} {mv : Move M} (h : Step a mv b) :
    (mv.message? = none ∧ b.last = a.last) ∨
      ∃ m, mv.message? = some m ∧ b.last = some m ∧ a.nonce < Message.nonce m := by
  cases h with
  | checkpoint _ admits _ => exact .inr ⟨_, rfl, rfl, admits.newer⟩
  | settle _ admits _ _ => exact .inr ⟨_, rfl, rfl, admits.newer⟩
  | initiate _ admits => exact .inr ⟨_, rfl, rfl, admits.newer⟩
  | challenge _ admits _ => exact .inr ⟨_, rfl, rfl, admits.newer⟩
  | finalize => exact .inl ⟨rfl, rfl⟩
  | reclaim => exact .inl ⟨rfl, rfl⟩

/-- Messages are accepted in strictly increasing order of their versions, and
the last of them is on record. -/
structure Ordered (tr : Trace M) (a : State M) : Prop where
  last : a.last = (accepted tr).getLast?
  positive : ∀ m ∈ accepted tr, 0 < Message.nonce m
  upto : ∀ m ∈ accepted tr, Message.nonce m ≤ a.nonce
  increasing : (accepted tr).Pairwise fun m n => Message.nonce m < Message.nonce n

theorem Step.ordered {tr : Trace M} {a b : State M} {mv : Move M} (ho : Ordered tr a)
    (h : Step a mv b) : Ordered (tr ++ [⟨a, mv, b⟩]) b := by
  obtain ⟨hlast, hpos, hupto, hinc⟩ := ho
  rcases h.last with ⟨hm, hb⟩ | ⟨m, hm, hb, hn⟩
  · have he : accepted (tr ++ [⟨a, mv, b⟩]) = accepted tr := by simp [hm]
    have hnonce : b.nonce = a.nonce := by simp [State.nonce, hb]
    exact ⟨by rw [he, hb, hlast], by rwa [he], by rwa [he, hnonce], by rwa [he]⟩
  · have he : accepted (tr ++ [⟨a, mv, b⟩]) = accepted tr ++ [m] := by simp [hm]
    have hnonce := State.nonce_some hb
    refine ⟨by simp [he, hb], ?_, ?_, ?_⟩
    · rw [he]
      exact forall_mem_snoc hpos (Nat.zero_lt_of_lt hn)
    · rw [he]
      refine forall_mem_snoc (fun x hx => ?_) (Nat.le_of_eq hnonce.symm)
      have := hupto x hx
      omega
    · rw [he, List.pairwise_append]
      refine ⟨hinc, List.pairwise_singleton _ _, fun x hx y hy => ?_⟩
      obtain rfl := List.mem_singleton.mp hy
      exact Nat.lt_of_le_of_lt (hupto x hx) hn

theorem run_ordered {deposit : Nat} {tr : Trace M} {a : State M}
    (h : Run Step (start deposit) tr a) : Ordered tr a :=
  h.history Ordered ⟨rfl, by simp, by simp, List.Pairwise.nil⟩ fun _ ho hs => hs.ordered ho

/-- A message at least as new as all accepted ones is the last of them. -/
theorem Ordered.eq_last {tr : Trace M} {a : State M} (h : Ordered tr a) {m : M}
    (hm : m ∈ accepted tr) (hn : a.nonce ≤ Message.nonce m) : a.last = some m := by
  rcases List.eq_nil_or_concat (accepted tr) with he | ⟨earlier, m', he⟩
  · simp [he] at hm
  · rw [List.concat_eq_append] at he
    have hlast : a.last = some m' := by rw [h.last, he, List.getLast?_concat]
    rw [he, List.mem_append, List.mem_singleton] at hm
    rcases hm with hm | hm
    · have hinc := h.increasing
      rw [he, List.pairwise_append] at hinc
      have hlt := hinc.2.2 m hm m' (List.mem_singleton_self m')
      rw [State.nonce_some hlast] at hn
      omega
    · rw [hlast, hm]

/-- The payee gets no more than is owed to it, and the payer gets back no more
than the rest of the deposit. -/
theorem run_shares {deposit : Nat} {tr : Trace M} {a : State M}
    (h : Run Step (start deposit) tr a) : paidOut tr ≤ a.due ∧ refunded tr + a.due ≤ deposit := by
  have valid := run_valid h
  have books := run_conserved h
  have hle := valid.settled_le
  have hcovered := valid.covered
  have hkept := books.kept
  have hpay := books.payouts
  refine ⟨by omega, ?_⟩
  by_cases hc : a.phase = .closed
  · have hpaid := valid.paid (by simp [hc])
    have hall := books.closed hc
    omega
  · have hlive := books.live hc
    omega

end Channel
