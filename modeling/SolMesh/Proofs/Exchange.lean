import SolMesh.Model.Text
import SolMesh.Proofs.TickFlow

namespace SolMesh.Demo
open Client Runs

section
variable {Socket : Type} {deal : Deal} {socket : Side → Socket}

/-- The moves that a side's socket has still before it. -/
def handshake (socket : Side → Socket) (relay : Relay.State Socket) (side : Side) : Nat :=
  if relay.connections (socket side) = .unused then 2
  else if relay.connections (socket side) = .open "" "" then 1
  else 0

/-- The moves that are left until the exchange comes to rest. -/
def budget (socket : Side → Socket) (g : Stages) (st : Net Socket) : Nat :=
  g.weight + 5 * (5 - st.provider.n) + handshake socket st.relay .provider +
    handshake socket st.relay .consumer

theorem handshake_congr {relay relay' : Relay.State Socket} {side : Side}
    (h : relay'.connections (socket side) = relay.connections (socket side)) :
    handshake socket relay' side = handshake socket relay side := by
  rw [handshake, h, handshake]

theorem handshake_unused {relay : Relay.State Socket} {side : Side}
    (h : relay.connections (socket side) = .unused) : handshake socket relay side = 2 :=
  if_pos h

theorem handshake_open {relay : Relay.State Socket} {side : Side}
    (h : relay.connections (socket side) = .open "" "") : handshake socket relay side = 1 := by
  rw [handshake, if_neg (by simp [h]), if_pos h]

theorem Apart.handshake_joined (h : Apart deal socket) {relay : Relay.State Socket} {side : Side}
    (hj : Joined deal socket relay side) : handshake socket relay side = 0 := by
  have hused : relay.connections (socket side) ≠ .unused := by
    intro hc
    rw [Joined, hc] at hj
    cases hj
  rw [handshake, if_neg hused, if_neg fun hc => h.not_joined hc hj]

/-- One side's handshake has become a move shorter. -/
theorem handshakes_drop {relay relay' : Relay.State Socket} {side : Side} {n : Nat}
    (apart : Apart deal socket) (before : handshake socket relay side = n + 1)
    (after : handshake socket relay' side = n)
    (others : ∀ w, w ≠ socket side → relay'.connections w = relay.connections w) :
    handshake socket relay' .provider + handshake socket relay' .consumer + 1 =
      handshake socket relay .provider + handshake socket relay .consumer := by
  cases side with
  | provider =>
    have hother := handshake_congr (others _ (apart.ne (a := .consumer) (by simp)))
    omega
  | consumer =>
    have hother := handshake_congr (others _ (apart.ne (a := .provider) (by simp)))
    omega

/-- No more can have been lost than was made. -/
theorem Flow.dropped_le {wire : Wire} {nacl : Nacl} {g : Stages} {st : Net Socket}
    (h : Flow wire nacl deal socket g st)
    (ticking : st.provider.Ticking deal) : g.dropped.length ≤ st.provider.n := by
  have hlen := ticking.length
  rw [h.made, Stages.all, List.length_append] at hlen
  omega

/-- The relay can read whatever the parties send it. -/
theorem Flow.readable {wire : Wire} {nacl : Nacl} {g : Stages} {st : Net Socket}
    (h : Flow wire nacl deal socket g st) {side : Side} {raw : String}
    (hraw : raw ∈ st.up side) :
    (∃ session role, wire.json raw = some (.join session role)) ∨ wire.json raw = some .other := by
  have joins : ∀ a, raw ∈ unsent wire deal socket st.relay a →
      ∃ session role, wire.json raw = some (.join session role) := by
    intro a ha
    unfold unsent at ha
    split at ha
    · obtain rfl := List.mem_singleton.mp ha
      exact ⟨_, _, wire.json_join _ _⟩
    · simp at ha
  cases side with
  | provider =>
    rw [h.upProvider] at hraw
    rcases List.mem_append.mp hraw with hj | ho
    · exact .inl (joins .provider hj)
    · obtain ⟨_, _, rfl⟩ := List.mem_map.mp ho
      exact .inr (wire.json_stringify _)
  | consumer =>
    rw [h.upConsumer] at hraw
    rcases List.mem_append.mp hraw with hj | ho
    · exact .inl (joins .consumer hj)
    · obtain ⟨_, _, rfl⟩ := List.mem_map.mp ho
      exact .inr (wire.json_stringify _)

end

section
variable {Socket : Type} [DecidableEq Socket] {wire : Wire} {nacl : Nacl} {deal : Deal}
  {socket : Side → Socket} {g g' : Stages} {st st' : Net Socket} {mv : Move Socket}
  {tr : List (Transition (Net Socket) (Move Socket))}

/-- What a move does to the stages. -/
structure Advances (wire : Wire) (nacl : Nacl) (deal : Deal) (socket : Side → Socket)
    (own : Bool) (g g' : Stages) (st st' : Net Socket) : Prop where
  wired : Wired deal socket st'.relay
  ticking : st'.provider.Ticking deal
  flow : Flow wire nacl deal socket g' st'
  spent : budget socket g' st' + own.toNat ≤ budget socket g st
  joined : ∀ side, Joined deal socket st.relay side → Joined deal socket st'.relay side
  kept : Joined deal socket st.relay .consumer → g'.dropped = g.dropped

/-- Every move of the parties and of the relay on their behalf uses up some of
the budget, and nothing is lost once the consumer has joined. -/
theorem Flow.advances (h : Flow wire nacl deal socket g st) (apart : Apart deal socket)
    (wired : Wired deal socket st.relay) (ticking : st.provider.Ticking deal)
    (hstep : Net.Step wire nacl deal socket st mv st') :
    ∃ g', Advances wire nacl deal socket mv.own g g' st st' := by
  cases hstep with
  | @join side relay sends step =>
    obtain ⟨wired', was, connections⟩ := wired.connected apart step
    have others : ∀ w, w ≠ socket side → relay.connections w = st.relay.connections w := by
      intro w hw
      rw [connections, Function.update_of_ne hw]
    have hdrop := handshakes_drop apart (handshake_unused was)
      (handshake_open (by rw [connections, Function.update_self])) others
    refine ⟨g, wired', ticking, h.join apart wired step, ?_, fun a ha => ?_, fun _ => rfl⟩
    · simp only [budget, Move.own, Bool.toNat_true]
      omega
    · have hne : a ≠ side := by
        intro he
        rw [he, Joined, was] at ha
        cases ha
      exact (Joined.congr (others _ (apart.ne hne))).mpr ha
  | @tick ts p m ready pass =>
    obtain ⟨hlt, _, _, hp, _⟩ := Provider.tick_some.mp pass
    have hn : p.n = st.provider.n + 1 := by rw [hp]
    refine ⟨_, wired, ticking.tick pass, h.tick ready pass, ?_, fun _ ha => ha, fun _ => rfl⟩
    simp only [budget, Stages.weight, Move.own, Bool.toNat_true, hn, List.length_append,
      List.length_singleton]
    omega
  | @relayed side raw rest relay sends front step =>
    obtain ⟨s, r, hopen, _⟩ := step.of_message
    rcases wired.connection side with hc | hc | hj
    · rw [hc] at hopen
      cases hopen
    · obtain ⟨flow, wired', joins, others⟩ := h.joins apart wired hc front step
      have hdrop := handshakes_drop apart (handshake_open hc) (apart.handshake_joined joins) others
      refine ⟨g, wired', ticking, flow, ?_, fun a ha => ?_, fun _ => rfl⟩
      · simp only [budget, Move.own, Bool.toNat_true]
        omega
      · by_cases hs : a = side
        · exact hs ▸ joins
        · exact (Joined.congr (others _ (apart.ne hs))).mpr ha
    cases side with
    | provider =>
      obtain ⟨s, later, hs, rfl, sent, lost⟩ := h.forwards apart wired hj front step
      by_cases hc : Joined deal socket st.relay .consumer
      · refine ⟨_, wired, ticking, sent hc, ?_, fun _ ha => ha, fun _ => rfl⟩
        simp only [budget, Stages.weight, Stages.forwarded, Move.own, Bool.toNat_true, hs,
          List.length_append, List.length_cons, List.length_nil]
        omega
      · refine ⟨_, wired, ticking, lost hc, ?_, fun _ ha => ha, fun ha => absurd ha hc⟩
        simp only [budget, Stages.weight, Stages.lost, Move.own, Bool.toNat_true, hs,
          List.length_cons]
        omega
    | consumer =>
      obtain ⟨s, later, hs, rfl, flow⟩ := h.returns apart wired hj front step
      refine ⟨_, wired, ticking, flow, ?_, fun _ ha => ha, fun _ => rfl⟩
      simp only [budget, Stages.weight, Move.own, Bool.toNat_true, hs, List.length_append,
        List.length_cons, List.length_nil]
      omega
  | @countersigned raw rest m answer c front read handled =>
    obtain ⟨s, later, hs, flow⟩ := h.countersigns ticking front read handled
    refine ⟨_, wired, ticking, flow, ?_, fun _ ha => ha, fun _ => rfl⟩
    simp only [budget, Stages.weight, Move.own, Bool.toNat_true, hs, List.length_append,
      List.length_cons, List.length_nil]
    omega
  | @cosigned raw rest m p front read handled =>
    obtain ⟨s, later, hs, flow⟩ := h.receives ticking front read handled
    have hn : p.n = st.provider.n := by
      obtain ⟨_, _, rfl⟩ := Provider.onMessage_some.mp handled
      rfl
    refine ⟨_, wired, ticking.onMessage handled, flow, ?_, fun _ ha => ha, fun _ => rfl⟩
    simp only [budget, Stages.weight, Move.own, Bool.toNat_true, hs, hn, List.length_cons]
    omega
  | @other event relay sends foreign step =>
    obtain ⟨wired', same, _⟩ := wired.foreign apart foreign step
    refine ⟨g, wired', ticking, h.passes apart wired foreign step, ?_, fun a ha => ?_,
      fun _ => rfl⟩
    · simp only [budget, Move.own, Bool.toNat_false, handshake_congr (same _)]
      omega
    · exact (Joined.congr (same a)).mpr ha

/-- The exchange so far: what is left of the budget, and that only ticks from
before the consumer's join were lost. -/
structure Orderly (wire : Wire) (nacl : Nacl) (deal : Deal) (socket : Side → Socket)
    (tr : List (Transition (Net Socket) (Move Socket))) (g : Stages) (st : Net Socket) :
    Prop where
  wired : Wired deal socket st.relay
  ticking : st.provider.Ticking deal
  flow : Flow wire nacl deal socket g st
  moves : (tr.filter fun x => x.label.own).length + budget socket g st ≤ 29
  joined : ∀ x ∈ tr, ∀ side, Joined deal socket x.after.relay side →
    Joined deal socket st.relay side
  dropped : ∀ x ∈ tr, Joined deal socket x.after.relay .consumer →
    g.dropped.length ≤ x.after.provider.n

theorem Orderly.step (h : Orderly wire nacl deal socket tr g st) (apart : Apart deal socket)
    (hstep : Net.Step wire nacl deal socket st mv st') :
    ∃ g', Orderly wire nacl deal socket (tr ++ [⟨st, mv, st'⟩]) g' st' := by
  obtain ⟨g', ha⟩ := h.flow.advances apart h.wired h.ticking hstep
  refine ⟨g', ha.wired, ha.ticking, ha.flow, ?_, ?_, ?_⟩
  · have hmoves := h.moves
    have hspent := ha.spent
    rw [List.filter_append, List.length_append]
    cases hown : mv.own with
    | true =>
      simp only [hown, Bool.toNat_true] at hspent
      simp only [List.filter_singleton, hown, Bool.cond_true, List.length_singleton]
      omega
    | false =>
      simp only [hown, Bool.toNat_false] at hspent
      simp only [List.filter_singleton, hown, Bool.cond_false, List.length_nil]
      omega
  · exact forall_mem_snoc (fun x hx side hj => ha.joined side (h.joined x hx side hj))
      fun _ hj => hj
  · refine forall_mem_snoc (fun x hx hj => ?_) fun _ => ha.flow.dropped_le ha.ticking
    rw [ha.kept (h.joined x hx .consumer hj)]
    exact h.dropped x hx hj

theorem run_orderly (apart : Apart deal socket)
    (run : Run (Net.Step wire nacl deal socket) (Net.start Socket) tr st) :
    ∃ g, Orderly wire nacl deal socket tr g st := by
  refine run.history (fun tr st => ∃ g, Orderly wire nacl deal socket tr g st) ?_ ?_
  · refine ⟨.empty, startRelay_wired deal socket, Provider.start_ticking deal, start_flow, ?_,
      by simp, by simp⟩
    exact Nat.le_refl 29
  · intro tr st mv st' _ hg hstep
    obtain ⟨g, h⟩ := hg
    exact h.step apart hstep

/-- Neither party nor the relay on their behalf has anything to do. -/
def AtRest (wire : Wire) (nacl : Nacl) (deal : Deal) (socket : Side → Socket) (st : Net Socket) :
    Prop :=
  ∀ mv st', mv.own = true → ¬Net.Step wire nacl deal socket st mv st'

/-- The next state fits as long as the loop goes on. -/
theorem Provider.Ticking.next_fits {p : Provider} (h : p.Ticking deal) (hlt : p.n < 5) :
    (p.next deal 0).Fits := by
  have howed := h.owed
  refine ⟨?_, ?_, ?_, ?_⟩ <;> simp only [Provider.next, howed] <;> omega

section
variable (rest : AtRest wire nacl deal socket st)
include rest

theorem AtRest.opened (running : st.relay.running = true) (side : Side) :
    st.relay.connections (socket side) ≠ .unused := by
  intro hc
  have handled : st.relay.handle wire.json (.connection (socket side)) =
      some ({ st.relay with
        connections := Function.update st.relay.connections (socket side) (.open "" "") }, []) := by
    simp only [Relay.State.handle, hc]
  exact rest (.join side) _ rfl (.join (.handle running handled))

/-- The relay has taken everything off the queue of an open socket. -/
theorem AtRest.up_nil (running : st.relay.running = true) {side : Side} {s r : String}
    (hc : st.relay.connections (socket side) = .open s r) : st.up side = [] := by
  cases hup : st.up side with
  | nil => rfl
  | cons raw later =>
    exact absurd (.relayed hup (.message running hc)) (rest (.relayed side) _ rfl)

theorem AtRest.joined (running : st.relay.running = true) (wired : Wired deal socket st.relay)
    (flow : Flow wire nacl deal socket g st) (side : Side) : Joined deal socket st.relay side := by
  rcases wired.connection side with hc | hc | hj
  · exact absurd hc (rest.opened running side)
  · have hup := rest.up_nil running hc
    have waits : unsent wire deal socket st.relay side = [wire.join deal.sessionId side.role] :=
      if_pos hc
    cases side with
    | provider => simp [flow.upProvider, waits] at hup
    | consumer => simp [flow.upConsumer, waits] at hup
  · exact hj

/-- The loop has made all of its passes. -/
theorem AtRest.passed (running : st.relay.running = true) (ticking : st.provider.Ticking deal) :
    st.provider.n = 5 := by
  refine Nat.le_antisymm ticking.bound (Nat.le_of_not_lt fun hlt => ?_)
  obtain ⟨u, _, hmsg⟩ := serializeState_exists (ticking.next_fits hlt)
  have pass : st.provider.tick nacl deal 0 = some (_, _) :=
    Provider.tick_some.mpr ⟨hlt, _, hmsg, rfl, rfl⟩
  exact rest (.tick 0) _ rfl (.tick (rest.opened running) pass)

/-- The consumer has signed whatever it was sent. -/
theorem AtRest.toConsumer (works : ∀ side, nacl.Works (deal.key side))
    (ticking : st.provider.Ticking deal) (flow : Flow wire nacl deal socket g st) :
    g.toConsumer = [] := by
  cases hq : g.toConsumer with
  | nil => rfl
  | cons s later =>
    have hs : s ∈ g.all := by simp [Stages.all, hq]
    have hstate := offer_state nacl (flow.session ticking hs)
    have hmem := hs
    rw [← flow.made] at hmem
    obtain ⟨i, hi⟩ := List.mem_iff_getElem?.mp hmem
    obtain ⟨u, _, hmsg⟩ := serializeState_exists (ticking.ticks i s hi).fits
    have hbytes : bytes s = u.toMessageBytes := by rw [bytes, hmsg, Option.getD_some]
    have front := flow.downConsumer
    rw [hq, List.map_cons] at front
    have signed : (offer nacl deal s).providerSig =
        nacl.sign (deal.key .provider) u.toMessageBytes := by
      rw [offer, hbytes]
    have handled := Consumer.onMessage_some (c := st.consumer).mpr
      ⟨_, hstate ▸ hmsg, signed ▸ (works .provider).length _,
        signed ▸ (works .provider).verified _, rfl, rfl⟩
    exact absurd (.countersigned front (wire.read_stringify _) handled)
      (rest (.received .consumer) _ rfl)

/-- And the provider has taken whatever came back. -/
theorem AtRest.toProvider (flow : Flow wire nacl deal socket g st) : g.toProvider = [] := by
  cases hq : g.toProvider with
  | nil => rfl
  | cons s later =>
    have front := flow.downProvider
    rw [hq, List.map_cons] at front
    have handled : st.provider.onMessage deal (reply nacl deal s) = some _ :=
      Provider.onMessage_some.mpr ⟨nacl.sign (deal.key .consumer) (bytes s), rfl, rfl⟩
    exact absurd (.cosigned front (wire.read_stringify _) handled)
      (rest (.received .provider) _ rfl)

end

/-- At rest both sides have joined, all passes are made, and nothing is on its way. -/
theorem Orderly.at_rest (h : Orderly wire nacl deal socket tr g st) (apart : Apart deal socket)
    (works : ∀ side, nacl.Works (deal.key side)) (running : st.relay.running = true)
    (rest : AtRest wire nacl deal socket st) :
    st.provider.n = 5 ∧ g.all = g.dropped ++ g.received := by
  have joined := rest.joined running h.wired h.flow
  have hp := rest.up_nil running (joined .provider)
  have hc := rest.up_nil running (joined .consumer)
  rw [h.flow.upProvider, apart.unsent_joined (joined .provider), List.nil_append,
    List.map_eq_nil_iff] at hp
  rw [h.flow.upConsumer, apart.unsent_joined (joined .consumer), List.nil_append,
    List.map_eq_nil_iff] at hc
  refine ⟨rest.passed running h.ticking, ?_⟩
  simp [Stages.all, hp, hc, rest.toConsumer works h.ticking h.flow, rest.toProvider h.flow]

/-- The relay outlives the moves of the exchange. -/
theorem Flow.outlived (h : Flow wire nacl deal socket g st) (own : mv.own = true)
    (hstep : Net.Step wire nacl deal socket st mv st') : st'.relay.running = st.relay.running := by
  cases hstep with
  | @join side relay sends step =>
    obtain ⟨_, handled⟩ := step
    simp only [Relay.State.handle] at handled
    split at handled
    all_goals cases handled
    rfl
  | @relayed side raw rest relay sends front step =>
    obtain ⟨s, r, _, handled⟩ := step.of_message
    have hraw : raw ∈ st.up side := by simp [front]
    rcases h.readable hraw with hr | hr
    · obtain ⟨session, role, hr⟩ := hr
      simp only [Relay.State.onMessage, hr] at handled
      cases handled
      rfl
    · simp only [Relay.State.onMessage, hr] at handled
      split at handled
      all_goals cases handled
      all_goals rfl
  | tick | countersigned | cosigned => rfl
  | other => cases own

/-- The exchange can always be brought to rest. -/
theorem Flow.completes (h : Flow wire nacl deal socket g st) (apart : Apart deal socket)
    (wired : Wired deal socket st.relay) (ticking : st.provider.Ticking deal) :
    ∃ tr st', Run (Net.Step wire nacl deal socket) st tr st' ∧ (∀ x ∈ tr, x.label.own = true) ∧
      st'.relay.running = st.relay.running ∧ AtRest wire nacl deal socket st' := by
  induction hb : budget socket g st using Nat.strong_induction_on generalizing g st with
  | _ b ih =>
    by_cases rest : AtRest wire nacl deal socket st
    · exact ⟨[], st, .nil st, by simp, rfl, rest⟩
    · simp only [AtRest, not_forall, not_not] at rest
      obtain ⟨mv, mid, own, hstep⟩ := rest
      obtain ⟨g', ha⟩ := h.advances apart wired ticking hstep
      have hspent := ha.spent
      rw [own, Bool.toNat_true] at hspent
      obtain ⟨tr, st', run, owns, running, rest⟩ :=
        ih (budget socket g' mid) (by omega) ha.flow ha.wired ha.ticking rfl
      refine ⟨⟨st, mv, mid⟩ :: tr, st', (Run.single hstep).append run, ?_,
        running.trans (h.outlived own hstep), rest⟩
      exact List.forall_mem_cons.mpr ⟨own, owns⟩

/-- The consumer's socket has opened before anything else. -/
def opening (wire : Wire) (deal : Deal) (socket : Side → Socket) : Net Socket :=
  { Net.start Socket with
    relay :=
      { Relay.startRelay Socket with
        connections := Function.update (Relay.startRelay Socket).connections (socket .consumer)
          (.open "" "") }
    up := Function.update (Net.start Socket).up .consumer
      [wire.join deal.sessionId Side.consumer.role] }

/-- The consumer can be the first to join. -/
theorem run_opening (wire : Wire) (nacl : Nacl) (apart : Apart deal socket) :
    ∃ tr st, Run (Net.Step wire nacl deal socket) (Net.start Socket) tr st ∧
      st.relay.running = true ∧ st.provider = .start ∧
      ∃ x ∈ tr, x.after = st ∧ Joined deal socket x.after.relay .consumer := by
  have opens : Relay.Step wire.json (Relay.startRelay Socket) ⟨.connection (socket .consumer), []⟩
      (opening wire deal socket).relay := .handle rfl rfl
  have joins : Net.Step wire nacl deal socket (Net.start Socket) (.join .consumer)
      (opening wire deal socket) := .join opens
  obtain ⟨wired, _, connections⟩ := (startRelay_wired deal socket).connected apart opens
  have flow : Flow wire nacl deal socket .empty (opening wire deal socket) :=
    start_flow.join apart (startRelay_wired deal socket) opens
  have hc := congrFun connections (socket .consumer)
  rw [Function.update_self] at hc
  have front : (opening wire deal socket).up .consumer =
      [wire.join deal.sessionId Side.consumer.role] := by simp [opening]
  have sent : Relay.Step wire.json (opening wire deal socket).relay
      ⟨.message (socket .consumer) (wire.join deal.sessionId Side.consumer.role), _⟩ _ :=
    .message rfl hc
  have joined := (flow.joins apart wired hc front sent).2.2.1
  have relayed : Net.Step wire nacl deal socket _ (.relayed .consumer) _ := .relayed front sent
  refine ⟨_, _, (Run.single joins).snoc relayed, flow.outlived rfl relayed, rfl, _,
    List.mem_append_right _ (List.mem_singleton_self _), rfl, joined⟩

/-- How far the exchange has come: the relay has lost the first of the provider's
ticks, and the provider has got the ones after them back. -/
structure Exchanged (nacl : Nacl) (deal : Deal) (dropped received : List Client.StateUpdate)
    (st : Net Socket) : Prop where
  ticks : ∀ i s, st.provider.signed[i]? = some s → IsTick deal (i + 1) s
  countersigned : dropped ++ st.consumer.signed <+: st.provider.signed
  returned : received <+: st.consumer.signed
  latest : st.provider.latest = received.getLast?.map (cosigned nacl deal)
  done : st.provider.done = received.any fun s => decide (5 ≤ s.nonce)

omit [DecidableEq Socket] in
theorem Orderly.exchanged (h : Orderly wire nacl deal socket tr g st) :
    Exchanged nacl deal g.dropped g.received st := by
  have hc := h.flow.countersigned
  refine ⟨h.ticking.ticks, ?_, ?_, h.flow.latest, h.flow.done⟩
  · refine ⟨g.toConsumer ++ g.fromProvider, ?_⟩
    rw [hc, h.flow.made, Stages.all]
    simp only [List.append_assoc]
  · exact ⟨g.toProvider ++ g.fromConsumer, hc.symm⟩

/-- The fifth tick, signed by both parties, is the provider's latest. -/
structure Completed (nacl : Nacl) (deal : Deal) (st : Net Socket) (s : Client.StateUpdate) :
    Prop where
  tick : IsTick deal 5 s
  countersigned : s ∈ st.consumer.signed
  latest : st.provider.latest = some (cosigned nacl deal s)
  done : st.provider.done = true

/-- At rest the provider has the last tick, if the consumer was not too late. -/
theorem Orderly.completed (h : Orderly wire nacl deal socket tr g st) (apart : Apart deal socket)
    (works : ∀ side, nacl.Works (deal.key side)) (running : st.relay.running = true)
    (early : ∃ x ∈ tr, Joined deal socket x.after.relay .consumer ∧ x.after.provider.n < 5)
    (rest : AtRest wire nacl deal socket st) : ∃ s, Completed nacl deal st s := by
  obtain ⟨x, hx, joined, hlt⟩ := early
  obtain ⟨hn, hall⟩ := h.at_rest apart works running rest
  have hlost := h.dropped x hx joined
  have hmade := h.flow.made.trans hall
  have hlen := h.ticking.length
  rw [hn, hmade, List.length_append] at hlen
  rcases List.eq_nil_or_concat g.received with hnil | hlast
  · rw [hnil, List.length_nil] at hlen
    omega
  · obtain ⟨older, s, hs⟩ := hlast
    rw [List.concat_eq_append] at hs
    have hfifth : st.provider.signed[4]? = some s := by
      rw [hs, List.length_append, List.length_singleton] at hlen
      have hfour : 4 = (g.dropped ++ older).length := by
        rw [List.length_append]
        omega
      rw [hmade, hs, ← List.append_assoc, hfour, List.getElem?_concat_length]
    have htick := h.ticking.ticks 4 s hfifth
    refine ⟨s, htick, ?_, ?_, ?_⟩
    · rw [h.flow.countersigned, hs]
      simp
    · rw [h.flow.latest, hs, List.getLast?_concat, Option.map_some]
    · rw [h.flow.done, hs, List.any_append, List.any_cons, htick.nonce]
      simp

/-- There is an exchange that comes to its end. -/
theorem run_completed (wire : Wire) (apart : Apart deal socket)
    (works : ∀ side, nacl.Works (deal.key side)) :
    ∃ tr st s, Run (Net.Step wire nacl deal socket) (Net.start Socket) tr st ∧
      Completed nacl deal st s := by
  obtain ⟨tr, st, run, running, start, x, hx, rfl, joined⟩ := run_opening wire nacl apart
  have early : x.after.provider.n < 5 := by
    rw [start]
    decide
  obtain ⟨g, h⟩ := run_orderly apart run
  obtain ⟨tr', st', run', _, same, rest⟩ := h.flow.completes apart h.wired h.ticking
  obtain ⟨g', h'⟩ := run_orderly apart (run.append run')
  obtain ⟨s, completed⟩ := h'.completed apart works (same.trans running)
    ⟨x, List.mem_append_left _ hx, joined, early⟩ rest
  exact ⟨_, st', s, run.append run', completed⟩

/-- In whatever order things happen, ticks are lost only at the front, from
before the consumer has joined, and the provider's latest is always the newest
of the ticks that came back. The exchange is over after 29 moves at most. -/
theorem exchange_in_order (apart : Apart deal socket)
    (run : Run (Net.Step wire nacl deal socket) (Net.start Socket) tr st) :
    (tr.filter fun x => x.label.own).length ≤ 29 ∧
      ∃ dropped received, Exchanged nacl deal dropped received st ∧
        ∀ x ∈ tr, Joined deal socket x.after.relay .consumer →
          dropped.length ≤ x.after.provider.n := by
  obtain ⟨g, h⟩ := run_orderly apart run
  have hmoves := h.moves
  exact ⟨by omega, g.dropped, g.received, h.exchanged, h.dropped⟩

/-- If the consumer has joined before the last pass and the relay runs, the
exchange comes to rest only with the last tick signed by both, and the parties'
own moves can bring it there. -/
theorem exchange_completes (apart : Apart deal socket) (works : ∀ side, nacl.Works (deal.key side))
    (run : Run (Net.Step wire nacl deal socket) (Net.start Socket) tr st)
    (running : st.relay.running = true)
    (early : ∃ x ∈ tr, Joined deal socket x.after.relay .consumer ∧ x.after.provider.n < 5) :
    (AtRest wire nacl deal socket st → ∃ s, Completed nacl deal st s) ∧
      ∃ tr' st', Run (Net.Step wire nacl deal socket) st tr' st' ∧
        (∀ x ∈ tr', x.label.own = true) ∧ ∃ s, Completed nacl deal st' s := by
  obtain ⟨g, h⟩ := run_orderly apart run
  refine ⟨h.completed apart works running early, ?_⟩
  obtain ⟨tr', st', run', owns, same, rest⟩ := h.flow.completes apart h.wired h.ticking
  obtain ⟨g', h'⟩ := run_orderly apart (run.append run')
  obtain ⟨x, hx, hearly⟩ := early
  exact ⟨tr', st', run', owns, h'.completed apart works (same.trans running)
    ⟨x, List.mem_append_left _ hx, hearly⟩ rest⟩

end

namespace Sample

/-- A signature repeats the numbers of the state behind the key. -/
def nacl : Nacl where
  sign key msg := key.toList ++ (msg.drop 40 ++ List.replicate 32 0).take 32
  verify key msg sig := sig = key.toList ++ (msg.drop 40 ++ List.replicate 32 0).take 32

def deal : Deal where
  session := 7
  sessionId := "8qbHbw2BbbTHBW1sbeqakYXVKRQM8Ne7pLK7m6CVfeR"
  key
    | .provider => 2
    | .consumer => 3

/-- The parties' connections are the first two. -/
def socket : Side → Nat
  | .provider => 0
  | .consumer => 1

theorem works (side : Side) : nacl.Works (deal.key side) where
  length _ := by simp [nacl, FixedBytes.length_toList]
  verified _ := by simp [nacl]

theorem apart : Apart deal socket where
  named := by decide
  distinct := by decide

/-- The consumer is first, so nothing is lost. -/
theorem exchange_in_order_from_opening : ∃ tr st received,
    Run (Net.Step text nacl deal socket) (Net.start Nat) tr st ∧
      Joined deal socket st.relay .consumer ∧ Exchanged nacl deal [] received st := by
  obtain ⟨tr, st, run, _, start, x, hx, rfl, joined⟩ := run_opening text nacl apart
  obtain ⟨_, dropped, received, exchanged, lost⟩ := exchange_in_order apart run
  have hnil : dropped = [] := by
    have hlen := lost x hx joined
    rw [start] at hlen
    exact List.length_eq_zero_iff.mp (Nat.le_zero.mp hlen)
  exact ⟨tr, _, received, run, joined, hnil ▸ exchanged⟩

/-- And the exchange gets to its end. -/
theorem exchange_completes_from_opening : ∃ tr st s,
    Run (Net.Step text nacl deal socket) (Net.start Nat) tr st ∧ Completed nacl deal st s := by
  obtain ⟨tr, st, run, running, start, x, hx, rfl, joined⟩ := run_opening text nacl apart
  have early : x.after.provider.n < 5 := by
    rw [start]
    decide
  obtain ⟨_, tr', st', run', _, s, completed⟩ :=
    exchange_completes apart works run running ⟨x, hx, joined, early⟩
  exact ⟨_, st', s, run.append run', completed⟩

end Sample

end SolMesh.Demo
