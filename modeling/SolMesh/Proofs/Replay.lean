import Mathlib.Data.List.Nodup
import SolMesh.Proofs.Authenticity

namespace SolMesh
open Outcome Runs

namespace Event

variable {rt : Runtime} (x : Event rt)

/-- The co-signed update that the event accepted, for whichever session. -/
def message : Option StateUpdate :=
  match x.label with
  | .call _ c _ => c.update?
  | .external | .commit => none

/-- The session account that the event opened. -/
def opened : Option Pubkey :=
  match x.label with
  | .call _ c _ => if c.opens then c.session? else none
  | .external | .commit => none

end Event

def messages {rt : Runtime} (tr : History rt) : List StateUpdate :=
  tr.filterMap Event.message

def openings {rt : Runtime} (tr : History rt) : List Pubkey :=
  tr.filterMap Event.opened

/-- One of the instructions that do not look at the mint is aimed at a session
in tokens whose own account holds exactly as many lamports as tokens are
unsettled. It would leave that account empty. -/
def Drains {rt : Runtime} (l : Ledger) (c : Call rt) : Prop :=
  c.ignoresMint = true ∧ ∃ k s, c.session? = some k ∧ (l k).data = .session s ∧
    s.mint ≠ none ∧ s.unsettled = (l k).lamports.toNat

theorem messages_snoc {rt : Runtime} (tr : History rt) (x : Event rt) :
    messages (tr ++ [x]) = messages tr ++ x.message.toList := by
  cases h : x.message <;> simp [messages, h]

theorem openings_snoc {rt : Runtime} (tr : History rt) (x : Event rt) :
    openings (tr ++ [x]) = openings tr ++ x.opened.toList := by
  cases h : x.opened <;> simp [openings, h]

theorem nodup_snoc {α : Type} {xs : List α} {o : Option α} (h : xs.Nodup)
    (hnew : ∀ a, o = some a → a ∉ xs) : (xs ++ o.toList).Nodup := by
  cases o with
  | none => simpa using h
  | some a => simpa using List.Nodup.concat (hnew a rfl) h

/-- The nonce on record never falls, and is that of the update just taken. -/
theorem Session.Step.nonce {rt : Runtime} {k : Pubkey} {s s' : Session} {mv : SessionMove}
    (h : Session.Step rt k s mv s') : s.lastNonce ≤ s'.lastNonce ∧
      ∀ u, mv.message? = some u → s'.lastNonce = u.nonce := by
  have newer : ∀ u, mv.message? = some u → s.lastNonce ≤ u.nonce := fun u hu =>
    UInt64.le_iff_toNat_le.mpr (Nat.le_of_lt (h.accepts hu).newer)
  cases h with
  | checkpoint | settle | initiate | challenge =>
    refine ⟨newer _ rfl, fun v hv => ?_⟩
    cases hv
    rfl
  | finalize | cancel | expire =>
    refine ⟨UInt64.le_refl _, fun v hv => ?_⟩
    cases hv

/-- Only a drain empties the account of a session. -/
theorem SessionCall.lamports_pos {rt : Runtime} {ctx : TxContext} {c : Call rt} {l l' : Ledger}
    {ts : List Transfer} {k : Pubkey} {s s' : Session} {mv : SessionMove}
    (h : SessionCall rt ctx c l l' ts k s s' mv) (hi : Inv rt l) (hk : c.session? = some k)
    (undrained : ¬ Drains l c) : 0 < (l' k).lamports.toNat := by
  have hs := h.recorded.before
  have hok := hi.session k s hs
  have he := hok.escrow h.step.active
  have hrent := he.rent
  have hmin := rt.minimumBalance_pos Session.space
  cases hv : c.vaultToken? with
  | some v =>
    obtain ⟨_, hp⟩ := h.inTokens v hv
    rw [hp.lamports]
    omega
  | none =>
    obtain ⟨hmint, hp⟩ := h.inLamports hv
    have hbal := hp.balance hi hs
    have hflow := h.step.outflow (UInt64.le_iff_toNat_le.mpr hok.settled)
    have hpaid := h.paid
    have hrefund := h.refunded
    rcases hmint with hm | ⟨_, hts⟩ | ⟨hignores, hterm⟩
    · have := he.lamports hm
      omega
    · simp only [hts, earnings_nil, received_nil] at hbal
      omega
    · have hout := hflow.2.2 hterm
      by_cases hm : s.mint = none
      · have := he.lamports hm
        omega
      · have hne : s.unsettled ≠ (l k).lamports.toNat := fun heq =>
          undrained ⟨hignores, k, s, hk, hs, hm, heq⟩
        omega

section
variable {rt : Runtime} {l l' : Ledger} {label : Label rt} {k : Pubkey} {s : Session}

/-- An update is accepted by its own session, in whose record it is the
newest. -/
theorem Step.message_ok {u : StateUpdate} (h : Step rt l label l')
    (hm : Event.message ⟨l, label, l'⟩ = some u) : ∃ s s', (l u.session).data = .session s ∧
      (l' u.session).data = .session s' ∧ s.lastNonce < u.nonce ∧ s'.lastNonce = u.nonce ∧
      ∃ ctx c ts, label = .call ctx c ts ∧ c.session? = some u.session := by
  cases h with
  | external | commit => simp [Event.message] at hm
  | @call ctx c _ _ ts hp ok =>
    have hu : c.update? = some u := hm
    obtain ⟨k, hk⟩ : ∃ k, c.session? = some k := by
      cases c <;> simp_all [Call.update?, Call.session?]
    have ho : c.opens = false := by
      cases c <;> simp_all [Call.update?, Call.opens]
    obtain ⟨s, s', mv, hc⟩ := Call.session_call hp ok hk ho
    have hmessage : mv.message? = some u := (Call.update_of_move hc.move).symm.trans hu
    have accepts := hc.step.accepts hmessage
    obtain ⟨_, cosigned⟩ := accepts.cosigned
    obtain rfl := cosigned.session
    exact ⟨s, s', hc.recorded.before, hc.recorded.after, UInt64.lt_iff_toNat_lt.mpr accepts.newer,
      hc.step.nonce.2 u hmessage, ctx, c, ts, rfl, hk⟩

theorem Step.opened_ok (h : Step rt l label l') (ho : Event.opened ⟨l, label, l'⟩ = some k) :
    (l k).data = .system ∧ ∃ s, (l' k).data = .session s ∧ 0 < (l' k).lamports.toNat := by
  have hmin := rt.minimumBalance_pos Session.space
  cases h with
  | external | commit => simp [Event.opened] at ho
  | @call ctx c _ _ ts hp ok =>
    simp only [Event.opened] at ho
    split at ho
    · rename_i hopens
      rcases Call.on_session hp ok ho with ⟨_, _, s, hs | ⟨m, hs⟩⟩ | ⟨hno, _⟩
      · have := hs.funded
        exact ⟨hs.fresh, s, hs.after, by omega⟩
      · have := hs.funded
        exact ⟨hs.fresh, s, hs.after, by omega⟩
      · simp [hopens] at hno
    · contradiction

/-- A session account with lamports keeps its record, in which the nonce only
grows. -/
theorem Step.record_kept (hi : Inv rt l) (h : Step rt l label l')
    (undrained : ∀ ctx c ts, label = .call ctx c ts → ¬ Drains l c)
    (hs : (l k).data = .session s) (hpos : 0 < (l k).lamports.toNat) :
    ∃ s', (l' k).data = .session s' ∧ 0 < (l' k).lamports.toNat ∧ s.lastNonce ≤ s'.lastNonce := by
  cases h.session_event k with
  | opening s₁ _ _ ho =>
    have hop := Opened.of_either ho
    simp [hop.fresh] at hs
  | call ctx c ts s₀ s₁ mv hl hk _ _ _ hc =>
    obtain rfl : s = s₀ := by simpa [hc.recorded.before] using hs.symm
    exact ⟨s₁, hc.recorded.after, hc.lamports_pos hi hk (undrained ctx c ts hl), hc.step.nonce.1⟩
  | bystander hb =>
    rcases h.frame.session k s hs with hg | ⟨s', hs', he⟩
    · have := hg.1
      omega
    · obtain ⟨rfl, hl⟩ := he hb
      exact ⟨s', hs', by omega, UInt64.le_refl _⟩

end

/-- What the ledger remembers of a history in which nothing was drained. -/
structure Remembered {rt : Runtime} (tr : History rt) (l : Ledger) : Prop where
  record : ∀ k ∈ openings tr, ∃ s, (l k).data = .session s ∧ 0 < (l k).lamports.toNat
  opened : ∀ k s, (l k).data = .session s → k ∈ openings tr
  known : ∀ u ∈ messages tr, u.session ∈ openings tr
  nonce : ∀ u ∈ messages tr, ∀ s, (l u.session).data = .session s → u.nonce ≤ s.lastNonce
  messages : (messages tr).Nodup
  openings : (openings tr).Nodup

theorem Remembered.step {rt : Runtime} {tr : History rt} {l l' : Ledger} {label : Label rt}
    (hr : Remembered tr l) (hi : Inv rt l) (h : Step rt l label l')
    (undrained : ∀ ctx c ts, label = .call ctx c ts → ¬ Drains l c) :
    Remembered (tr ++ [⟨l, label, l'⟩]) l' := by
  have old : ∀ k ∈ SolMesh.openings tr, ∃ s s', (l k).data = .session s ∧
      (l' k).data = .session s' ∧ 0 < (l' k).lamports.toNat ∧ s.lastNonce ≤ s'.lastNonce := by
    intro k hk
    obtain ⟨s, hs, hpos⟩ := hr.record k hk
    obtain ⟨s', hs', hpos', hn⟩ := h.record_kept hi undrained hs hpos
    exact ⟨s, s', hs, hs', hpos', hn⟩
  constructor
  · intro k hk
    rw [openings_snoc, List.mem_append, Option.mem_toList] at hk
    rcases hk with hk | hk
    · obtain ⟨_, s', _, hs', hpos', _⟩ := old k hk
      exact ⟨s', hs', hpos'⟩
    · exact (h.opened_ok hk).2
  · intro k s hs
    rw [openings_snoc, List.mem_append, Option.mem_toList]
    cases h.session_event k with
    | opening s₁ ho =>
      right
      cases label with
      | external | commit => simp [Event.opens] at ho
      | call ctx c ts =>
        simp only [Event.opens, Bool.and_eq_true, decide_eq_true_eq] at ho
        simp [Event.opened, ho]
    | call ctx c ts s₀ s₁ mv _ _ _ _ _ hc => exact .inl (hr.opened k s₀ hc.recorded.before)
    | bystander hb => exact .inl (hr.opened k s (h.frame.session_back hb hs).1)
  · intro u hu
    rw [messages_snoc, List.mem_append, Option.mem_toList] at hu
    rw [openings_snoc, List.mem_append]
    rcases hu with hu | hu
    · exact .inl (hr.known u hu)
    · obtain ⟨s, _, hs, _⟩ := h.message_ok hu
      exact .inl (hr.opened u.session s hs)
  · intro u hu s' hs'
    rw [messages_snoc, List.mem_append, Option.mem_toList] at hu
    rcases hu with hu | hu
    · obtain ⟨s, s₁, hs, hs₁, _, hn⟩ := old u.session (hr.known u hu)
      obtain rfl : s' = s₁ := by simpa [hs'] using hs₁
      have hle := UInt64.le_iff_toNat_le.mp (hr.nonce u hu s hs)
      have hle' := UInt64.le_iff_toNat_le.mp hn
      exact UInt64.le_iff_toNat_le.mpr (by omega)
    · obtain ⟨_, s₁, _, hs₁, _, hn, _⟩ := h.message_ok hu
      obtain rfl : s' = s₁ := by simpa [hs'] using hs₁
      exact hn ▸ UInt64.le_refl _
  · rw [messages_snoc]
    refine nodup_snoc hr.messages fun u hu hmem => ?_
    obtain ⟨s, _, hs, _, hn, _⟩ := h.message_ok hu
    have hle := UInt64.le_iff_toNat_le.mp (hr.nonce u hmem s hs)
    have hlt := UInt64.lt_iff_toNat_lt.mp hn
    omega
  · rw [openings_snoc]
    refine nodup_snoc hr.openings fun k hk hmem => ?_
    obtain ⟨s, hs, _⟩ := hr.record k hmem
    simp [(h.opened_ok hk).1] at hs

theorem run_remembered {rt : Runtime} {start l : Ledger} {tr : History rt}
    (genesis : Genesis start) (run : Run (Step rt) start tr l)
    (undrained : ∀ x ∈ tr, ∀ ctx c ts, x.label = .call ctx c ts → ¬ Drains x.before c) :
    Remembered tr l := by
  induction run with
  | nil =>
    refine ⟨by simp [openings], fun k s hs => ?_, by simp [messages], by simp [messages],
      .nil, .nil⟩
    exact absurd hs genesis.no_session
  | @snoc l l' tr label run last ih =>
    have hr := ih fun x hx => undrained x (List.mem_append_left _ hx)
    exact hr.step (run_inv genesis run) last (undrained ⟨l, label, l'⟩ (by simp))

/-- As long as no session account is drained, a co-signed message is accepted
once in the whole history, by the session it names, and no session account is
opened twice. -/
theorem messages_accepted_once {rt : Runtime} {start l : Ledger} {tr : History rt}
    (genesis : Genesis start) (run : Run (Step rt) start tr l)
    (undrained : ∀ x ∈ tr, ∀ ctx c ts, x.label = .call ctx c ts → ¬ Drains x.before c) :
    ((messages tr).map StateUpdate.toMessageBytes).Nodup ∧
      (∀ x ∈ tr, ∀ ctx c ts u, x.label = .call ctx c ts → c.update? = some u →
        c.session? = some u.session) ∧
      (openings tr).Nodup := by
  have hr := run_remembered genesis run undrained
  refine ⟨hr.messages.map fun u v => StateUpdate.toMessageBytes_inj, ?_, hr.openings⟩
  intro x hx ctx c ts u hl hu
  have hm : Event.message x = some u := by simp [Event.message, hl, hu]
  obtain ⟨_, _, _, _, _, _, ctx', c', ts', hl', hk⟩ := (run.step_of_mem hx).message_ok hm
  cases hl.symm.trans hl'
  exact hk

section
open Localnet Transaction

theorem messages_accepted_once_settled : ((messages settledTokens.2).map
    StateUpdate.toMessageBytes).Nodup := by
  have run : Run (Step Localnet.rt) Localnet.start settledTokens.2 settledTokens.1 :=
    submit_run _ _
  have looks : settledTokens.2.all (Event.passes · fun c => !c.ignoresMint) = true := by
    decide +kernel
  refine (messages_accepted_once start_genesis run ?_).1
  intro x hx ctx c ts hl hd
  have hminds := passes_of_mem looks hx hl
  simp [hd.1] at hminds

/-- An update is paid from the escrow in tokens. The rest of the deposit equals
the rent, so that the stray expiry empties the account, and the consumer opens
it again. Then the same update is paid in lamports. -/
def replayed : Ledger × History Localnet.rt :=
  submit Localnet.start (deploy ++ [openSpl 7 2644900,
    cosigned 5 (update 7 1 100 10)
      (.checkpointSettleSpl ⟨payoutAccounts 7, ixSysvarId⟩ (update 7 1 100 10)),
    submitted 61 (.expireSession ⟨config, session 7, 3, stranger⟩),
    submitted 62 (.openSession ⟨config, node, session 7, consumer⟩ 7 1000000 60 1),
    cosigned 63 (update 7 1 100 10)
      (.checkpointSettle (settleAccounts 7) (update 7 1 100 10))])

theorem messages_accepted_twice : ¬ ∀ (rt : Runtime) (start l : Ledger) (tr : History rt),
    Genesis start → Run (Step rt) start tr l →
      ((messages tr).map StateUpdate.toMessageBytes).Nodup := by
  intro h
  have run : Run (Step Localnet.rt) Localnet.start replayed.2 replayed.1 := submit_run _ _
  have accepted : messages replayed.2 = [update 7 1 100 10, update 7 1 100 10] := by
    decide +kernel
  have hnodup := h Localnet.rt Localnet.start replayed.1 replayed.2 start_genesis run
  rw [accepted] at hnodup
  simp at hnodup

end

end SolMesh
