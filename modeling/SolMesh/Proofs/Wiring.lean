import SolMesh.Model.Demo
import SolMesh.Proofs.RelayRouting

namespace SolMesh

namespace Relay

variable {Socket : Type} [DecidableEq Socket] {parse : String → Option Json}
  {st st' : State Socket} {ws : Socket} {raw : String} {sends : List (Socket × String)}

/-- Only a message is passed on. -/
theorem Step.sends_nil {event : Event Socket} (h : Step parse st ⟨event, sends⟩ st')
    (he : ∀ w r, event ≠ .message w r) : sends = [] := by
  obtain ⟨_, handled⟩ := h
  cases event with
  | message w r => exact absurd rfl (he w r)
  | connection w | close w =>
    simp only [State.handle] at handled
    split at handled
    all_goals cases handled
    rfl

/-- A message of an open socket is handled as long as the relay runs. -/
theorem Step.message {sessionId role : String} (running : st.running = true)
    (hc : st.connections ws = .open sessionId role) :
    Step parse st ⟨.message ws raw, (st.onMessage parse ws sessionId role raw).2⟩
      (st.onMessage parse ws sessionId role raw).1 :=
  .handle running (by simp only [State.handle, hc])

/-- What is no join goes to the other role of the sender's session. -/
theorem Step.forwards {sessionId role : String} (h : Step parse st ⟨.message ws raw, sends⟩ st')
    (hc : st.connections ws = .open sessionId role) (hp : parse raw = some .other) :
    st' = st ∧ sends = (st.slot (sessionId, opposite role)).elim [] fun p => st.send p raw := by
  obtain ⟨s, r, hopen, hm⟩ := h.of_message
  rw [hc, Connection.open.injEq] at hopen
  obtain ⟨rfl, rfl⟩ := hopen
  simp only [State.onMessage, hp] at hm
  cases hch : st.channels sessionId with
  | none =>
    rw [hch] at hm
    cases hm
    exact ⟨rfl, by simp [State.slot, hch]⟩
  | some ch =>
    rw [hch] at hm
    cases hm
    exact ⟨rfl, by simp [State.slot, hch, peer_eq]⟩

theorem Step.join_sends {session role : String} (h : Step parse st ⟨.message ws raw, sends⟩ st')
    (hp : parse raw = some (.join session role)) : sends = [] := by
  obtain ⟨s, r, _, hm⟩ := h.of_message
  simp only [State.onMessage, hp] at hm
  cases hm
  rfl

/-- Who is sent anything holds a slot of the sender's session. -/
theorem Step.sends_slot {p : Socket × String} (h : Step parse st ⟨.message ws raw, sends⟩ st')
    (hp : p ∈ sends) : ∃ sessionId role role',
      st.connections ws = .open sessionId role ∧ st.slot (sessionId, role') = some p.1 := by
  obtain ⟨s, r, hopen, hm⟩ := h.of_message
  cases hj : parse raw with
  | none =>
    simp only [State.onMessage, hj] at hm
    cases hm
    simp at hp
  | some msg =>
    cases msg with
    | null =>
      simp only [State.onMessage, hj] at hm
      cases hm
      simp at hp
    | join session role =>
      rw [h.join_sends hj] at hp
      simp at hp
    | other =>
      obtain ⟨_, rfl⟩ := h.forwards hopen hj
      cases hslot : st.slot (s, opposite r) with
      | none => simp [hslot] at hp
      | some q =>
        refine ⟨s, r, opposite r, hopen, ?_⟩
        rw [hslot, Option.elim_some] at hp
        simp only [State.send] at hp
        split at hp
        · rw [List.mem_singleton.mp hp]
          exact hslot
        all_goals simp at hp

end Relay

namespace Demo

def Side.other : Side → Side
  | .provider => .consumer
  | .consumer => .provider

theorem Side.role_other (side : Side) : Relay.opposite side.role = side.other.role := by
  cases side <;> rfl

theorem Side.role_inj {a b : Side} (h : a.role = b.role) : a = b := by
  cases a <;> cases b <;> first | rfl | exact absurd h (by decide)

section
variable {Socket : Type} {deal : Deal} {socket : Side → Socket}

/-- The relay has handled the join of the side. -/
def Joined (deal : Deal) (socket : Side → Socket) (relay : Relay.State Socket) (side : Side) :
    Prop :=
  relay.connections (socket side) = .open deal.sessionId side.role

/-- Where the parties' sockets stand at the relay. -/
structure Wired (deal : Deal) (socket : Side → Socket) (relay : Relay.State Socket) : Prop where
  connection : ∀ side, relay.connections (socket side) = .unused ∨
    relay.connections (socket side) = .open "" "" ∨ Joined deal socket relay side
  held : ∀ side, Joined deal socket relay side →
    relay.slot (deal.sessionId, side.role) = some (socket side)
  free : ∀ side, ¬Joined deal socket relay side → relay.slot (deal.sessionId, side.role) = none
  elsewhere : ∀ k, k.1 ≠ deal.sessionId → ∀ side, relay.slot k ≠ some (socket side)
  strangers : ∀ w, (∀ side, w ≠ socket side) → ∀ session role,
    relay.connections w = .open session role → session ≠ deal.sessionId

/-- What the demo takes for granted about its sockets and the session's name. -/
structure Apart (deal : Deal) (socket : Side → Socket) : Prop where
  named : deal.sessionId ≠ ""
  distinct : socket .provider ≠ socket .consumer

theorem Apart.ne (h : Apart deal socket) {a b : Side} (hab : a ≠ b) : socket a ≠ socket b := by
  cases a <;> cases b
  · exact absurd rfl hab
  · exact h.distinct
  · exact h.distinct.symm
  · exact absurd rfl hab

theorem Apart.not_joined (h : Apart deal socket) {relay : Relay.State Socket} {side : Side}
    (hc : relay.connections (socket side) = .open "" "") : ¬Joined deal socket relay side := by
  intro hj
  have he := hc.symm.trans hj
  exact h.named (Relay.Connection.open.inj he).1.symm

theorem startRelay_wired (deal : Deal) (socket : Side → Socket) :
    Wired deal socket (Relay.startRelay Socket) :=
  ⟨fun _ => .inl rfl, (fun _ h => nomatch h), fun _ _ => rfl,
    fun _ _ _ => by simp [Relay.startRelay, Relay.State.slot],
    fun _ _ _ _ h => by simp [Relay.startRelay] at h⟩

/-- Another connection at the socket makes no difference to the other side. -/
theorem Joined.congr {relay relay' : Relay.State Socket} {side : Side}
    (h : relay'.connections (socket side) = relay.connections (socket side)) :
    Joined deal socket relay' side ↔ Joined deal socket relay side := by
  rw [Joined, h, Joined]

/-- What leaves the parties' connections and slots alone keeps the wiring. -/
theorem Wired.kept {relay relay' : Relay.State Socket} (h : Wired deal socket relay)
    (same : ∀ side, relay'.connections (socket side) = relay.connections (socket side))
    (ours : ∀ role, relay'.slot (deal.sessionId, role) = relay.slot (deal.sessionId, role))
    (elsewhere : ∀ k, k.1 ≠ deal.sessionId → ∀ side, relay'.slot k ≠ some (socket side))
    (strangers : ∀ w, (∀ side, w ≠ socket side) → ∀ session role,
      relay'.connections w = .open session role → session ≠ deal.sessionId) :
    Wired deal socket relay' := by
  refine ⟨fun side => ?_, fun side hj => ?_, fun side hj => ?_, elsewhere, strangers⟩
  · rw [Joined.congr (same side), same side]
    exact h.connection side
  · rw [ours]
    exact h.held side ((Joined.congr (same side)).mp hj)
  · rw [ours]
    exact h.free side fun he => hj ((Joined.congr (same side)).mpr he)

end

section
variable {Socket : Type} [DecidableEq Socket] {wire : Wire} {deal : Deal}
  {socket : Side → Socket}
variable {relay relay' : Relay.State Socket} {sends : List (Socket × String)}

/-- A socket opens at the relay. -/
theorem Wired.connected (h : Wired deal socket relay) (apart : Apart deal socket) {w : Socket}
    (step : Relay.Step wire.json relay ⟨.connection w, sends⟩ relay') :
    Wired deal socket relay' ∧ relay.connections w = .unused ∧
      relay'.connections = Function.update relay.connections w (.open "" "") := by
  cases step.change with
  | connected w' event was connections slots =>
    cases event
    have others : ∀ side, socket side ≠ w →
        relay'.connections (socket side) = relay.connections (socket side) := by
      intro side hs
      rw [connections, Function.update_of_ne hs]
    have opens : ∀ side, socket side = w → relay'.connections (socket side) = .open "" "" := by
      intro side hs
      rw [connections, hs, Function.update_self]
    have unjoined : ∀ side, socket side = w → ¬Joined deal socket relay side := by
      intro side hs hj
      rw [Joined, hs, was] at hj
      cases hj
    refine ⟨⟨fun side => ?_, fun side hj => ?_, fun side hj => ?_, fun k hk side => ?_,
      fun v hv s r hopen => ?_⟩, was, connections⟩
    · by_cases hs : socket side = w
      · exact .inr (.inl (opens side hs))
      · rw [Joined.congr (others side hs), others side hs]
        exact h.connection side
    · by_cases hs : socket side = w
      · exact absurd hj (apart.not_joined (opens side hs))
      · rw [slots]
        exact h.held side ((Joined.congr (others side hs)).mp hj)
    · rw [slots]
      by_cases hs : socket side = w
      · exact h.free side (unjoined side hs)
      · exact h.free side fun he => hj ((Joined.congr (others side hs)).mpr he)
    · rw [slots]
      exact h.elsewhere k hk side
    · by_cases hw : v = w
      · rw [connections, hw, Function.update_self, Relay.Connection.open.injEq] at hopen
        rw [← hopen.1]
        exact apart.named.symm
      · rw [connections, Function.update_of_ne hw] at hopen
        exact h.strangers v hv s r hopen
  | joined w' k join => simp [Relay.Occurrence.join?] at join
  | forwarded join stays connections slots =>
    obtain ⟨_, handled⟩ := step
    simp only [Relay.State.handle] at handled
    split at handled
    · rename_i was
      obtain ⟨rfl, _⟩ := by simpa using handled
      have hopen := congrFun connections w
      simp [was] at hopen
    all_goals cases handled
  | closed w' k event => cases event

/-- A side that has opened its socket joins. -/
theorem Wired.joined (h : Wired deal socket relay) (apart : Apart deal socket) {side : Side}
    (step : Relay.Step wire.json relay
      ⟨.message (socket side) (wire.join deal.sessionId side.role), sends⟩ relay') :
    Wired deal socket relay' ∧ Joined deal socket relay' side ∧
      (∀ w, w ≠ socket side → relay'.connections w = relay.connections w) ∧ sends = [] := by
  have hjson := wire.json_join deal.sessionId side.role
  have hjoin : Relay.Occurrence.join? wire.json
      ⟨.message (socket side) (wire.join deal.sessionId side.role), sends⟩ =
        some (socket side, deal.sessionId, side.role) := by
    simp [Relay.Occurrence.join?, hjson]
  cases step.change with
  | connected w event => cases event
  | closed w k event => cases event
  | forwarded join =>
    rw [hjoin] at join
    cases join
  | joined w k join was connections slots =>
    rw [hjoin, Option.some.injEq, Prod.mk.injEq] at join
    obtain ⟨rfl, rfl⟩ := join
    have joins : Joined deal socket relay' side := by rw [Joined, connections, Function.update_self]
    have others : ∀ w, w ≠ socket side → relay'.connections w = relay.connections w := by
      intro w hw
      rw [connections, Function.update_of_ne hw]
    refine ⟨⟨fun a => ?_, fun a ha => ?_, fun a ha => ?_, fun k hk a => ?_,
      fun v hv s r hopen => ?_⟩, joins, others, step.join_sends hjson⟩
    · by_cases hs : a = side
      · subst hs
        exact .inr (.inr joins)
      · have hne := others (socket a) (apart.ne hs)
        rw [Joined.congr hne, hne]
        exact h.connection a
    · rw [slots]
      by_cases hs : a = side
      · subst hs
        rw [if_pos rfl]
      · rw [if_neg fun he => hs (Side.role_inj (Prod.ext_iff.mp he).2)]
        exact h.held a ((Joined.congr (others (socket a) (apart.ne hs))).mp ha)
    · rw [slots]
      by_cases hs : a = side
      · subst hs
        exact absurd joins ha
      · rw [if_neg fun he => hs (Side.role_inj (Prod.ext_iff.mp he).2)]
        exact h.free a fun he => ha ((Joined.congr (others (socket a) (apart.ne hs))).mpr he)
    · rw [slots, if_neg fun he => hk (Prod.ext_iff.mp he).1]
      exact h.elsewhere k hk a
    · rw [others v (hv side)] at hopen
      exact h.strangers v hv s r hopen

/-- A side's message goes to the other side if that one has joined. -/
theorem Wired.forwarded (h : Wired deal socket relay) {side : Side} {m : Message}
    (hj : Joined deal socket relay side)
    (step : Relay.Step wire.json relay ⟨.message (socket side) (wire.stringify m), sends⟩ relay') :
    relay' = relay ∧
      (Joined deal socket relay side.other → sends = [(socket side.other, wire.stringify m)]) ∧
      (¬Joined deal socket relay side.other → sends = []) := by
  obtain ⟨rfl, hsends⟩ := step.forwards hj (wire.json_stringify m)
  rw [Side.role_other] at hsends
  refine ⟨rfl, fun ho => ?_, fun ho => ?_⟩
  · rw [hsends, h.held side.other ho, Option.elim_some, Relay.State.send, ho]
  · rw [hsends, h.free side.other ho, Option.elim_none]

/-- The relay's other business does not touch the parties' sockets. -/
theorem Wired.foreign (h : Wired deal socket relay) (apart : Apart deal socket)
    {event : Relay.Event Socket} (foreign : Foreign wire deal socket event)
    (step : Relay.Step wire.json relay ⟨event, sends⟩ relay') :
    Wired deal socket relay' ∧
      (∀ side, relay'.connections (socket side) = relay.connections (socket side)) ∧
      ∀ p ∈ sends, ∀ side, p.1 ≠ socket side := by
  cases event with
  | connection w =>
    obtain ⟨wired, _, connections⟩ := h.connected apart step
    refine ⟨wired, fun side => ?_, fun p hp => ?_⟩
    · rw [connections, Function.update_of_ne (foreign side).symm]
    · rw [step.sends_nil (by simp)] at hp
      simp at hp
  | close w =>
    have hsends := step.sends_nil (by simp)
    cases step.change with
    | connected w' event => cases event
    | joined w' k join => simp [Relay.Occurrence.join?] at join
    | forwarded join stays => exact absurd rfl (stays w)
    | closed w' k event was connections slots =>
      cases event
      have hk := h.strangers w foreign k.1 k.2 was
      have same : ∀ side, relay'.connections (socket side) = relay.connections (socket side) := by
        intro side
        rw [connections, Function.update_of_ne (foreign side).symm]
      refine ⟨h.kept same (fun role => ?_) (fun j hj side => ?_) fun v hv s r hopen => ?_, same,
        by simp [hsends]⟩
      · rw [slots, if_neg fun he => hk (Prod.ext_iff.mp he).1.symm]
      · rw [slots]
        split
        · simp
        · exact h.elsewhere j hj side
      · rw [connections] at hopen
        by_cases hw : v = w
        · rw [hw, Function.update_self] at hopen
          cases hopen
        · rw [Function.update_of_ne hw] at hopen
          exact h.strangers v hv s r hopen
  | message w raw =>
    obtain ⟨hw, hraw⟩ := foreign
    have hsends : ∀ p ∈ sends, ∀ side, p.1 ≠ socket side := by
      intro p hp side he
      obtain ⟨s, r, r', hopen, hslot⟩ := step.sends_slot hp
      rw [he] at hslot
      exact h.elsewhere (s, r') (h.strangers w hw s r hopen) side hslot
    cases step.change with
    | connected w' event => cases event
    | closed w' k event => cases event
    | forwarded join stays connections slots =>
      have same : ∀ side, relay'.connections (socket side) = relay.connections (socket side) :=
        fun side => congrFun connections _
      refine ⟨h.kept same (fun role => slots _) (fun j hj side => ?_) fun v hv s r hopen => ?_,
        same, hsends⟩
      · rw [slots]
        exact h.elsewhere j hj side
      · rw [connections] at hopen
        exact h.strangers v hv s r hopen
    | joined w' k join was connections slots =>
      obtain ⟨rfl, hk⟩ : w' = w ∧ k.1 ≠ deal.sessionId := by
        simp only [Relay.Occurrence.join?] at join
        split at join
        · rename_i session role hp
          cases join
          exact ⟨rfl, fun he => hraw role (he ▸ hp)⟩
        · cases join
        · cases join
        · cases join
      have same : ∀ side, relay'.connections (socket side) = relay.connections (socket side) := by
        intro side
        rw [connections, Function.update_of_ne (hw side).symm]
      refine ⟨h.kept same (fun role => ?_) (fun j hj side => ?_) fun v hv s r hopen => ?_, same,
        hsends⟩
      · rw [slots, if_neg fun he => hk (Prod.ext_iff.mp he).1.symm]
      · rw [slots]
        split
        · rw [ne_eq, Option.some.injEq]
          exact hw side
        · exact h.elsewhere j hj side
      · rw [connections] at hopen
        by_cases hv' : v = w'
        · rw [hv', Function.update_self, Relay.Connection.open.injEq] at hopen
          rw [← hopen.1]
          exact hk
        · rw [Function.update_of_ne hv'] at hopen
          exact h.strangers v hv s r hopen

end

end Demo

end SolMesh
