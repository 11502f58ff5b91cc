import SolMesh.Proofs.Invariant

namespace SolMesh
open Outcome Runs

namespace Event

variable {rt : Runtime} (k : Pubkey) (x : Event rt)

/-- The event opened the session. -/
def opens : Bool :=
  match x.label with
  | .call _ c _ => c.opens && c.session? = some k
  | .external | .commit => false

/-- What the event paid out for the session. -/
def transfers : List Transfer :=
  match x.label with
  | .call _ c ts => if c.session? = some k then ts else []
  | .external | .commit => []

/-- The move of the session's channel that the event was. -/
def move : Option SessionMove :=
  match x.label, (x.after k).data with
  | .call ctx c ts, .session s => if c.session? = some k then c.move ctx s ts else none
  | _, _ => none

/-- The co-signed update the event accepted for the session. -/
def update : Option StateUpdate :=
  match x.label with
  | .call _ c _ => if c.session? = some k then c.update? else none
  | .external | .commit => none

/-- The event is no instruction, or one that passes the test. -/
def passes (test : Call rt → Bool) : Bool :=
  match x.label with
  | .call _ c _ => test c
  | .external | .commit => true

end Event

theorem passes_of_mem {rt : Runtime} {test : Call rt → Bool} {tr : History rt}
    (h : tr.all (Event.passes · test) = true) {x : Event rt} (hx : x ∈ tr) {ctx : TxContext}
    {c : Call rt} {ts : List Transfer} (hl : x.label = .call ctx c ts) : test c = true := by
  have hp := List.all_eq_true.mp h x hx
  rwa [Event.passes, hl] at hp

/-- The history of a session account since it was opened last. -/
def life {rt : Runtime} (k : Pubkey) (tr : History rt) : History rt :=
  since (Event.opens k) tr

/-- An event about something else. -/
theorem Event.bystander {rt : Runtime} {k : Pubkey} (l l' : Ledger) {label : Label rt}
    (hb : label.busy ≠ some k) : Event.opens k ⟨l, label, l'⟩ = false ∧
      Event.transfers k ⟨l, label, l'⟩ = [] ∧ Event.move k ⟨l, label, l'⟩ = none := by
  cases label with
  | external | commit => exact ⟨rfl, rfl, rfl⟩
  | call ctx c ts =>
    have hk : c.session? ≠ some k := hb
    simp only [Event.opens, Event.transfers, Event.move, hk, decide_false, Bool.and_false,
      if_false]
    refine ⟨trivial, trivial, ?_⟩
    split <;> simp_all

/-- An opening moves nothing and accepts nothing. -/
theorem Event.opening {rt : Runtime} {k : Pubkey} (l l' : Ledger) {label : Label rt}
    (ho : Event.opens k ⟨l, label, l'⟩ = true) :
    Event.move k ⟨l, label, l'⟩ = none ∧ Event.update k ⟨l, label, l'⟩ = none := by
  cases label with
  | external | commit => simp [Event.opens] at ho
  | call ctx c ts =>
    simp only [Event.opens, Bool.and_eq_true, decide_eq_true_eq] at ho
    obtain ⟨hopens, hk⟩ := ho
    have hm : ∀ s', c.move ctx s' ts = none := by
      intro s'
      cases c <;> simp_all [Call.opens, Call.move]
    have hu : c.update? = none := by
      cases c <;> simp_all [Call.opens, Call.update?]
    constructor
    · simp only [Event.move]
      split
      · rename_i he _
        cases he
        simp [hk, hm]
      · rfl
    · simp [Event.update, hk, hu]

/-- What a step can be from the point of view of session `k`. -/
inductive SessionEvent (rt : Runtime) (k : Pubkey) (l : Ledger) (label : Label rt)
    (l' : Ledger) : Prop
  | opening (s : Session) (opens : Event.opens k ⟨l, label, l'⟩ = true)
      (transfers : Event.transfers k ⟨l, label, l'⟩ = [])
      (opened : OpenedSol rt l l' k s ∨ ∃ m, OpenedSpl rt l l' k m s)
  | call (ctx : TxContext) (c : Call rt) (ts : List Transfer) (s s' : Session)
      (mv : SessionMove) (label_eq : label = .call ctx c ts) (named : c.session? = some k)
      (opens : Event.opens k ⟨l, label, l'⟩ = false)
      (transfers : Event.transfers k ⟨l, label, l'⟩ = ts)
      (move : Event.move k ⟨l, label, l'⟩ = some mv)
      (effect : SessionCall rt ctx c l l' ts k s s' mv)
  | bystander (busy : label.busy ≠ some k) (opens : Event.opens k ⟨l, label, l'⟩ = false)
      (transfers : Event.transfers k ⟨l, label, l'⟩ = [])
      (move : Event.move k ⟨l, label, l'⟩ = none)

theorem Step.session_event {rt : Runtime} {l l' : Ledger} {label : Label rt}
    (h : Step rt l label l') (k : Pubkey) : SessionEvent rt k l label l' := by
  by_cases hb : label.busy = some k
  · cases h with
    | external | commit => simp [Label.busy] at hb
    | @call ctx c _ _ ts hp ok =>
      have hk : c.session? = some k := hb
      rcases Call.on_session hp ok hk with ⟨ho, hts, s, hs⟩ | ⟨ho, s, s', mv, hc⟩
      · exact .opening s (by simp [Event.opens, ho, hk]) (by simp [Event.transfers, hts]) hs
      · refine .call ctx c ts s s' mv rfl hk (by simp [Event.opens, ho])
          (by simp [Event.transfers, hk]) ?_ hc
        simp [Event.move, hc.recorded.after, hk, hc.move]
  · obtain ⟨ho, ht, hm⟩ := Event.bystander l l' hb
    exact .bystander hb ho ht hm

theorem Call.update_of_move {rt : Runtime} {ctx : TxContext} {c : Call rt} {s' : Session}
    {ts : List Transfer} {mv : SessionMove} (h : c.move ctx s' ts = some mv) :
    c.update? = mv.message? := by
  cases c <;> simp [Call.move] at h <;> subst h <;> rfl

/-- The updates that a session's events accept are those of its channel. -/
theorem Step.update_eq {rt : Runtime} {l l' : Ledger} {label : Label rt}
    (h : Step rt l label l') (k : Pubkey) : Event.update k ⟨l, label, l'⟩ =
      (Event.move k ⟨l, label, l'⟩).bind Channel.Move.message? := by
  cases h.session_event k with
  | opening s ho =>
    obtain ⟨hm, hu⟩ := Event.opening l l' ho
    rw [hm, hu]
    rfl
  | call ctx c ts s s' mv hl hk ho ht hm hc =>
    subst hl
    rw [hm]
    simp only [Event.update, hk, if_true, Option.bind_some]
    exact Call.update_of_move hc.move
  | bystander hb ho ht hm =>
    rw [hm]
    cases label with
    | external | commit => rfl
    | call ctx c ts =>
      have hk : c.session? ≠ some k := hb
      simp [Event.update, hk]

theorem mem_life {rt : Runtime} {k : Pubkey} {tr : History rt} {x : Event rt}
    (h : x ∈ life k tr) : x ∈ tr := by
  induction tr using List.reverseRecOn with
  | nil => simp [life] at h
  | append_singleton tr y ih =>
    simp only [life, since_snoc] at h ih
    split at h
    · simp at h
    · rcases List.mem_append.mp h with h | h
      · exact List.mem_append_left _ (ih h)
      · exact List.mem_append_right _ h

theorem life_opening {rt : Runtime} {k : Pubkey} {tr : History rt} {x : Event rt}
    (h : x.opens k = true) : life k (tr ++ [x]) = [] := by
  simp [life, h]

theorem life_snoc {rt : Runtime} {k : Pubkey} {tr : History rt} {x : Event rt}
    (h : x.opens k = false) : life k (tr ++ [x]) = life k tr ++ [x] := by
  simp [life, h]

/-- The earnings the session has paid out along a history. -/
def earned {rt : Runtime} (k : Pubkey) (tr : History rt) : Nat :=
  total (fun x => earnings (Event.transfers k x)) tr

/-- What a history paid for session `k` in one role, in whatever asset. -/
def paidTo {rt : Runtime} (k : Pubkey) (r : Role) (tr : History rt) : Nat :=
  total (fun x => received r (Event.transfers k x)) tr

theorem earned_eq {rt : Runtime} (k : Pubkey) (tr : History rt) :
    earned k tr = paidTo k .provider tr + paidTo k .fee tr := by
  induction tr with
  | nil => rfl
  | cons x tr ih =>
    simp only [earned, paidTo, total, List.map_cons, List.sum_cons, earnings] at ih ⊢
    omega

/-- The updates accepted for a session along a history, in order. -/
def acceptedFor {rt : Runtime} (k : Pubkey) (tr : History rt) : List StateUpdate :=
  tr.filterMap (Event.update k)

theorem acceptedFor_snoc {rt : Runtime} (k : Pubkey) (tr : History rt) (x : Event rt) :
    acceptedFor k (tr ++ [x]) = acceptedFor k tr ++ (Event.update k x).toList := by
  cases h : Event.update k x <;> simp [acceptedFor, h]

/-- A history of the program seen as a run of the session's channel. -/
structure Tracked (rt : Runtime) (k : Pubkey) (tr : History rt) (s : Session)
    (a : Channel.State StateUpdate) (ctr : Channel.Trace StateUpdate) : Prop where
  run : Run Channel.Step (Channel.start s.deposited.toNat) ctr a
  moves : ctr.map (fun x => x.label) = tr.filterMap (Event.move k)
  agree : s.Matches a
  earned : earned k tr = Channel.paidOut ctr
  refunded : paidTo k .consumer tr = Channel.refunded ctr

theorem Opened.matches {rt : Runtime} {l l' : Ledger} {k : Pubkey} {s : Session}
    (h : Opened rt l l' k s) : s.Matches (Channel.start s.deposited.toNat) where
  deposit := rfl
  settled := by simp [Channel.start, h.settled]
  phase := by simp [Channel.start, h.status, SessionStatus.phase]
  deadline := by simp [Channel.start, h.deadline]
  nonce := by simp [Channel.start, Channel.State.nonce, h.nonce]
  units := by simp [Channel.start, h.units]
  pending := by simp [h.status]
  unused := fun _ => h.payout
  cancelled := by simp [h.status]

theorem last_positive {deposit : Nat} {ctr : Channel.Trace StateUpdate}
    {a : Channel.State StateUpdate} (h : Run Channel.Step (Channel.start deposit) ctr a)
    (u : StateUpdate) (hu : a.last = some u) : 0 < u.nonce.toNat := by
  have ho := Channel.run_ordered h
  exact ho.positive u (List.mem_of_getLast? (ho.last ▸ hu))

theorem Tracked.bystander {rt : Runtime} {k : Pubkey} {tr : History rt} {s : Session}
    {a : Channel.State StateUpdate} {ctr : Channel.Trace StateUpdate} {x : Event rt}
    (h : Tracked rt k tr s a ctr) (ht : Event.transfers k x = []) (hm : Event.move k x = none) :
    Tracked rt k (tr ++ [x]) s a ctr where
  run := h.run
  moves := by simp [h.moves, hm]
  agree := h.agree
  earned := by simpa [SolMesh.earned, ht] using h.earned
  refunded := by simpa [paidTo, ht] using h.refunded

theorem Tracked.call {rt : Runtime} {k : Pubkey} {tr : History rt} {s s' : Session}
    {a : Channel.State StateUpdate} {ctr : Channel.Trace StateUpdate} {x : Event rt}
    {mv : SessionMove} {l l' : Ledger} {ts : List Transfer} (h : Tracked rt k tr s a ctr)
    (ht : Event.transfers k x = ts) (hm : Event.move k x = some mv)
    (he : SessionEffect rt l l' ts k s s' mv) :
    ∃ b ctr', Tracked rt k (tr ++ [x]) s' b ctr' := by
  obtain ⟨b, hstep, hagree⟩ := h.agree.step (last_positive h.run) he.step
  refine ⟨b, ctr ++ [⟨a, mv, b⟩], ?_, by simp [h.moves, hm], hagree, ?_, ?_⟩
  · rw [he.step.terms.deposited]
    exact h.run.snoc hstep
  · rw [Channel.paidOut_snoc, ← h.earned, he.paid]
    simp [SolMesh.earned, ht]
  · rw [Channel.refunded_snoc, ← h.refunded, he.refunded]
    simp [paidTo, ht]

/-- Whatever the program did, each session's history is a run of a channel
that its record matches. -/
theorem run_tracked {rt : Runtime} {start l : Ledger} {tr : History rt}
    (genesis : Genesis start) (run : Run (Step rt) start tr l) (k : Pubkey) (s : Session)
    (hs : (l k).data = .session s) : ∃ a ctr, Tracked rt k (life k tr) s a ctr := by
  revert s
  refine run.history (fun tr l => ∀ s, (l k).data = .session s →
    ∃ a ctr, Tracked rt k (life k tr) s a ctr) (fun s hs => ?_) ?_
  · exact absurd hs genesis.no_session
  · intro tr l label l' _ ih hstep s hs
    cases hstep.session_event k with
    | opening s₁ ho ht hopened =>
      have hop := Opened.of_either hopened
      obtain rfl : s₁ = s := by simpa [hop.after] using hs
      rw [life_opening ho]
      exact ⟨_, [], .nil _, rfl, hop.matches, rfl, rfl⟩
    | call ctx c ts s₀ s₁ mv hl hk ho ht hm hc =>
      obtain rfl : s₁ = s := by simpa [hc.recorded.after] using hs
      obtain ⟨a, ctr, htr⟩ := ih s₀ hc.recorded.before
      rw [life_snoc ho]
      exact htr.call ht hm hc.toSessionEffect
    | bystander hb ho ht hm =>
      obtain ⟨hs₀, _⟩ := hstep.frame.session_back hb hs
      obtain ⟨a, ctr, htr⟩ := ih s hs₀
      rw [life_snoc ho]
      exact ⟨a, ctr, htr.bystander ht hm⟩

theorem Tracked.accepted {rt : Runtime} {start l : Ledger} {k : Pubkey} {tr : History rt}
    {s : Session} {a : Channel.State StateUpdate} {ctr : Channel.Trace StateUpdate}
    (h : Tracked rt k (life k tr) s a ctr) (run : Run (Step rt) start tr l) :
    Channel.accepted ctr = acceptedFor k (life k tr) := by
  calc Channel.accepted ctr
      = (ctr.map fun x => x.label).filterMap Channel.Move.message? := by
        rw [List.filterMap_map]
        rfl
    _ = (life k tr).filterMap fun x => (Event.move k x).bind Channel.Move.message? := by
        rw [h.moves, List.filterMap_filterMap]
    _ = acceptedFor k (life k tr) := by
        refine List.filterMap_congr fun x hx => ?_
        exact ((run.step_of_mem (mem_life hx)).update_eq k).symm

/-- The message on record is the last accepted update. -/
theorem Tracked.last {rt : Runtime} {start l : Ledger} {k : Pubkey} {tr : History rt}
    {s : Session} {a : Channel.State StateUpdate} {ctr : Channel.Trace StateUpdate}
    (h : Tracked rt k (life k tr) s a ctr) (run : Run (Step rt) start tr l) :
    (acceptedFor k (life k tr)).getLast? = a.last := by
  rw [← h.accepted run]
  exact (Channel.run_ordered h.run).last.symm

end SolMesh
