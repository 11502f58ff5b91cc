import SolMesh.Proofs.WorkAccounting
import SolMesh.Support.Rounding

namespace SolMesh
open Outcome Words Runs Episodes Rounding

/-- The units of the state that a move pays out. -/
def Session.paidFor (s : Session) : SessionMove → Option UInt64
  | .checkpoint u _ | .settle u _ _ => some u.unitsConsumed
  | .finalize _ _ _ => some s.pendingUnits
  | .initiate _ _ | .challenge _ _ | .reclaim _ => none

namespace Event

variable {rt : Runtime} (k : Pubkey) (x : Event rt)

/-- What a move says of the session's record before it. -/
def onRecord {α : Type} (f : Session → SessionMove → Option α) : Option α :=
  match (x.before k).data, Event.move k x with
  | .session s, some mv => f s mv
  | _, _ => none

/-- The reputation that the event granted for the session. -/
def reward : Option UInt32 :=
  Event.onRecord k x fun s mv => (s.work mv).map Prod.snd

/-- The units of the state of the session that the event paid out. -/
def paidFor : Option UInt64 :=
  Event.onRecord k x Session.paidFor

end Event

/-- The part of a reward beyond the base. -/
def bonusOf (reward : UInt32) : Nat :=
  reward.toNat - repBaseReward.toNat

/-- The bonus parts of all rewards granted for a session. -/
def bonuses {rt : Runtime} (k : Pubkey) (events : History rt) : Nat :=
  ((events.filterMap (Event.reward k)).map bonusOf).sum

/-- The units of the states that a session was paid out by, payout by payout. -/
def paidEach {rt : Runtime} (k : Pubkey) (events : History rt) : List Nat :=
  (events.filterMap (Event.paidFor k)).map UInt64.toNat

/-- Before the last payout none was for 1000 units or more, or the last state
reports 1000 units beyond the cap for every bonus point before. -/
def Unsplit {rt : Runtime} (k : Pubkey) (events : History rt) : Prop :=
  (∀ units ∈ (paidEach k events).dropLast, units < repUnitScale.toNat) ∨
    ((paidEach k events).dropLast.map (capped repUnitScale.toNat repMaxBonus.toNat)).sum +
      repMaxBonus.toNat ≤ paidUnits k events / repUnitScale.toNat

theorem reputationReward_bonus (units : UInt64) :
    bonusOf (reputationReward units) = capped repUnitScale.toNat repMaxBonus.toNat units.toNat := by
  have hmin : (min (units / repUnitScale) repMaxBonus.toUInt64).toNat =
      min (units.toNat / repUnitScale.toNat) repMaxBonus.toNat := by
    rw [← UInt64.toNat_div, ← UInt32.toNat_toUInt64, Nat.min_def]
    simp only [← UInt64.le_iff_toNat_le]
    exact apply_ite UInt64.toNat _ _ _
  have hcap : repMaxBonus.toNat = 10 := rfl
  have hbase : repBaseReward.toNat = 1 := rfl
  simp only [bonusOf, reputationReward, capped, UInt32.toNat_add, UInt64.toNat_toUInt32, hmin]
  omega

theorem Session.work_reward (s : Session) (mv : SessionMove) :
    (s.work mv).map Prod.snd = (s.paidFor mv).map reputationReward := by
  cases mv <;> rfl

section
variable {rt : Runtime} {k : Pubkey}

theorem Event.reward_eq (x : Event rt) :
    Event.reward k x = (Event.paidFor k x).map reputationReward := by
  unfold Event.reward Event.paidFor Event.onRecord
  split
  · exact Session.work_reward _ _
  · rfl

theorem bonuses_eq (events : History rt) :
    bonuses k events =
      ((paidEach k events).map (capped repUnitScale.toNat repMaxBonus.toNat)).sum := by
  have hreward : Event.reward k = fun x : Event rt => (Event.paidFor k x).map reputationReward :=
    funext Event.reward_eq
  have hbonus : bonusOf ∘ reputationReward =
      capped repUnitScale.toNat repMaxBonus.toNat ∘ UInt64.toNat :=
    funext reputationReward_bonus
  rw [bonuses, paidEach, hreward, ← List.map_filterMap, List.map_map, List.map_map, hbonus]

/-- A payout is for the units of the update that the book has as paid. -/
theorem WorkAgrees.paid_step {b : WorkBook} {us : List StateUpdate} {s : Session}
    (h : WorkAgrees b us s) (mv : SessionMove) :
    unitsOf (b.step mv).paid = (s.paidFor mv).elim (unitsOf b.paid) UInt64.toNat := by
  cases mv with
  | finalize => exact h.pending
  | checkpoint | settle | initiate | challenge | reclaim => rfl

theorem paidEach_snoc (events : History rt) (x : Event rt) : paidEach k (events ++ [x]) =
    paidEach k events ++ ((Event.paidFor k x).map UInt64.toNat).toList := by
  cases h : Event.paidFor k x <;> simp [paidEach, h]

/-- An event with no move of the session pays nothing for it. -/
theorem Event.paidFor_none {x : Event rt} (h : Event.move k x = none) :
    Event.paidFor k x = none := by
  unfold Event.paidFor Event.onRecord
  split
  · simp_all
  · rfl

theorem Event.onRecord_eq {α : Type} {f : Session → SessionMove → Option α} {x : Event rt}
    {s : Session} {mv : SessionMove} (hs : (x.before k).data = .session s)
    (hm : Event.move k x = some mv) : Event.onRecord k x f = f s mv := by
  simp only [Event.onRecord, hs, hm]

end

/-- The last payout of a session was for the units that its book has as paid. -/
def LastPaid {rt : Runtime} (k : Pubkey) (events : History rt) : Prop :=
  (paidEach k events).getLast?.getD 0 = paidUnits k events

theorem run_lastPaid {rt : Runtime} {start l : Ledger} {tr : History rt}
    (genesis : Genesis start) (run : Run (Step rt) start tr l) :
    ∀ e ∈ sessions tr, LastPaid e.1 e.2 := by
  refine run.history (fun tr _ => ∀ e ∈ sessions tr, LastPaid e.1 e.2) (fun e he => by cases he) ?_
  intro tr l label l' run ih hstep e he
  obtain ⟨k, events⟩ := e
  rcases mem_episodes_of_snoc he with hold | ⟨hb, ⟨ho, rfl⟩ | ⟨ho, older, hcur, rfl⟩⟩
  · exact ih _ hold
  · have hm : Event.move k (⟨l, label, l'⟩ : Event rt) = none :=
      (Event.opening l l' ((Event.begins_eq hb).symm.trans ho)).1
    simp [LastPaid, paidEach, Event.paidFor_none hm, paidUnits, workBook, hm, unitsOf]
  · have before : LastPaid k older := ih _ (mem_of_current hcur)
    cases hstep.kind with
    | idle hb' => simp [hb'] at hb
    | opening j s _ ho' => simp [ho'] at ho
    | call j ctx c ts s s' mv hb' _ _ hm hc =>
      obtain rfl : j = k := by simpa [hb'] using hb
      have hs := hc.recorded.before
      have agrees := run_workAgrees genesis run j s hs older hcur
      have hpaid : Event.paidFor j (⟨l, label, l'⟩ : Event rt) = s.paidFor mv :=
        Event.onRecord_eq hs hm
      unfold LastPaid at before ⊢
      rw [paidEach_snoc, hpaid, paidUnits, workBook_snoc, hm, Option.elim, agrees.paid_step]
      cases s.paidFor mv with
      | none => simpa [paidUnits] using before
      | some units => simp

/-- A reward is what the node of the session gained, up to the limit of its
counter. -/
def Granted {rt : Runtime} (k : Pubkey) (x : Event rt) (reward : UInt32) : Prop :=
  ∃ s n n', (x.before k).data = .session s ∧ (x.before s.node).data = .node n ∧
    (x.after s.node).data = .node n' ∧ n'.reputation = saturatingAdd n.reputation reward

theorem Step.granted {rt : Runtime} {l l' : Ledger} {label : Label rt} (h : Step rt l label l')
    {k : Pubkey} {reward : UInt32} (hr : Event.reward k ⟨l, label, l'⟩ = some reward) :
    Granted k ⟨l, label, l'⟩ reward := by
  have moved : Event.move k (⟨l, label, l'⟩ : Event rt) ≠ none := by
    intro hm
    rw [Event.reward_eq, Event.paidFor_none hm] at hr
    cases hr
  have here : label.busy = some k := by
    by_contra hb
    exact moved (Event.bystander l l' hb).2.2
  cases h.kind with
  | idle hb => cases hb.symm.trans here
  | opening j s hb ho =>
    obtain rfl : j = k := Option.some.inj (hb.symm.trans here)
    exact absurd (Event.opening l l' ((Event.begins_eq hb).symm.trans ho)).1 moved
  | call j ctx c ts s s' mv hb _ _ hm hc =>
    obtain rfl : j = k := Option.some.inj (hb.symm.trans here)
    have hs := hc.recorded.before
    have hgrant : (s.work mv).map Prod.snd = some reward :=
      (Event.onRecord_eq hs hm).symm.trans hr
    obtain ⟨w, hw, rfl⟩ := Option.map_eq_some_iff.mp hgrant
    obtain ⟨n, n', hn, hn', earned⟩ := hc.recorded.worked w hw
    exact ⟨s, n, n', hs, hn, hn', earned.reputation⟩

/-- The bonus for a session stays within one point for every 1000 units of the
last state it was paid out by if and only if the usage was not split over
payouts that each count towards it. -/
theorem reputation_bonus_iff {rt : Runtime} {start l : Ledger} {tr : History rt}
    (genesis : Genesis start) (run : Run (Step rt) start tr l) :
    (∀ e ∈ sessions tr, bonuses e.1 e.2 ≤ paidUnits e.1 e.2 / repUnitScale.toNat ↔
      Unsplit e.1 e.2) ∧
    ∀ x ∈ tr, ∀ k reward, Event.reward k x = some reward → Granted k x reward := by
  refine ⟨fun e he => ?_, fun x hx k reward hr => (run.step_of_mem hx).granted hr⟩
  have last := run_lastPaid genesis run e he
  rw [bonuses_eq, Unsplit]
  unfold LastPaid at last
  rcases List.eq_nil_or_concat (paidEach e.1 e.2) with hnil | ⟨earlier, units, he⟩
  · simp [hnil]
  · rw [List.concat_eq_append] at he
    obtain rfl : units = paidUnits e.1 e.2 := by simpa [he] using last
    rw [he, List.dropLast_concat, List.map_append, List.sum_append]
    simpa using capped_sum_le_iff (by decide) (by decide) earlier (paidUnits e.1 e.2)

section
open Localnet Transaction

/-- A checkpoint below 1000 units and a cooperative close. -/
def unsplitSession : Ledger × History Localnet.rt :=
  submit Localnet.start (deploy ++ [openSol 7 1000000,
    cosigned 5 (update 7 1 300001 900)
      (.checkpointSettle (settleAccounts 7) (update 7 1 300001 900)),
    cosigned 6 (update 7 2 450000 1800)
      (.settleSession (settleAccounts 7) (update 7 2 450000 1800))])

theorem reputation_bonus_iff_one_reward :
    (sessions unsplitSession.2).length = 1 ∧ ∀ e ∈ sessions unsplitSession.2,
      bonuses e.1 e.2 = 1 ∧ bonuses e.1 e.2 ≤ paidUnits e.1 e.2 / repUnitScale.toNat := by
  have run : Run (Step Localnet.rt) Localnet.start unsplitSession.2 unsplitSession.1 :=
    submit_run _ _
  have unsplit : ∀ e ∈ sessions unsplitSession.2, bonuses e.1 e.2 = 1 ∧ Unsplit e.1 e.2 := by
    unfold Unsplit
    decide +kernel
  refine ⟨by decide +kernel, fun e he => ⟨(unsplit e he).1, ?_⟩⟩
  exact ((reputation_bonus_iff start_genesis run).1 e he).mpr (unsplit e he).2

/-- Three payouts for 1000, 1500 and 1800 units earn a point each. -/
theorem reputation_bonus_split : ¬ ∀ (rt : Runtime) (start l : Ledger) (tr : History rt),
    Genesis start → Run (Step rt) start tr l → UnitsMonotone tr →
      ∀ e ∈ sessions tr, bonuses e.1 e.2 ≤ paidUnits e.1 e.2 / repUnitScale.toNat := by
  intro h
  have run : Run (Step Localnet.rt) Localnet.start workedSession.2 workedSession.1 :=
    submit_run _ _
  have bounded := h Localnet.rt Localnet.start workedSession.1 workedSession.2 start_genesis run
    (by unfold UnitsMonotone; decide +kernel)
  have exceeded : ¬ ∀ e ∈ sessions workedSession.2,
      bonuses e.1 e.2 ≤ paidUnits e.1 e.2 / repUnitScale.toNat := by
    decide +kernel
  exact exceeded bounded

end

end SolMesh
