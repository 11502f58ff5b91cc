import SolMesh.Proofs.AgreedTicks
import SolMesh.Proofs.Wiring

namespace SolMesh.Demo
open Client Runs

/-- The bytes that are signed for a state that fits. -/
def bytes (s : Client.StateUpdate) : List UInt8 :=
  (serializeState s).getD []

section
variable (nacl : Nacl) (deal : Deal)

/-- The provider's message of a state. -/
def offer (s : Client.StateUpdate) : Message :=
  ⟨s.nonce, s.owedToProvider, s.unitsConsumed, s.timestamp,
    nacl.sign (deal.key .provider) (bytes s), none⟩

/-- The consumer's answer to it. -/
def reply (s : Client.StateUpdate) : Message :=
  { offer nacl deal s with consumerSig := some (nacl.sign (deal.key .consumer) (bytes s)) }

def cosigned (s : Client.StateUpdate) : Cosigned :=
  ⟨s, nacl.sign (deal.key .provider) (bytes s), nacl.sign (deal.key .consumer) (bytes s)⟩

end

theorem offer_state (nacl : Nacl) {deal : Deal} {s : Client.StateUpdate}
    (h : s.session = deal.session) : (offer nacl deal s).state deal = s := by
  cases s
  cases h
  rfl

/-- The provider's ticks by how far they have come, the oldest first. `dropped`
are those that the relay could not pass on. -/
structure Stages where
  dropped : List Client.StateUpdate
  received : List Client.StateUpdate
  toProvider : List Client.StateUpdate
  fromConsumer : List Client.StateUpdate
  toConsumer : List Client.StateUpdate
  fromProvider : List Client.StateUpdate

namespace Stages

def empty : Stages := ⟨[], [], [], [], [], []⟩

def all (g : Stages) : List Client.StateUpdate :=
  g.dropped ++ (g.received ++ (g.toProvider ++ (g.fromConsumer ++
    (g.toConsumer ++ g.fromProvider))))

/-- What the relay has passed on to the consumer. -/
def crossed (g : Stages) : List Client.StateUpdate :=
  g.received ++ (g.toProvider ++ (g.fromConsumer ++ g.toConsumer))

/-- The moves that the ticks on their way have still before them. -/
def weight (g : Stages) : Nat :=
  4 * g.fromProvider.length + 3 * g.toConsumer.length + 2 * g.fromConsumer.length +
    g.toProvider.length

theorem eq_empty {g : Stages} (h : g.all = []) : g = empty := by
  cases g
  simp only [all, List.append_eq_nil_iff] at h
  obtain ⟨rfl, rfl, rfl, rfl, rfl, rfl⟩ := h
  rfl

theorem eq_of_crossed {g : Stages} (h : g.crossed = []) :
    g = { empty with dropped := g.dropped, fromProvider := g.fromProvider } := by
  cases g
  simp only [crossed, List.append_eq_nil_iff] at h
  obtain ⟨rfl, rfl, rfl, rfl⟩ := h
  rfl

end Stages

section
variable {Socket : Type} {wire : Wire} {nacl : Nacl} {deal : Deal} {socket : Side → Socket}

/-- A join that the relay has not handled yet. -/
def unsent (wire : Wire) (deal : Deal) (socket : Side → Socket) (relay : Relay.State Socket)
    (side : Side) : List String :=
  if relay.connections (socket side) = .open "" "" then [wire.join deal.sessionId side.role] else []

/-- The queues hold the ticks in the order in which they were made. -/
structure Flow (wire : Wire) (nacl : Nacl) (deal : Deal) (socket : Side → Socket) (g : Stages)
    (st : Net Socket) : Prop where
  made : st.provider.signed = g.all
  countersigned : st.consumer.signed = g.received ++ (g.toProvider ++ g.fromConsumer)
  latest : st.provider.latest = g.received.getLast?.map (cosigned nacl deal)
  done : st.provider.done = g.received.any fun s => decide (5 ≤ s.nonce)
  upProvider : st.up .provider = unsent wire deal socket st.relay .provider ++
    g.fromProvider.map fun s => wire.stringify (offer nacl deal s)
  upConsumer : st.up .consumer = unsent wire deal socket st.relay .consumer ++
    g.fromConsumer.map fun s => wire.stringify (reply nacl deal s)
  downConsumer : st.down .consumer =
    g.toConsumer.map fun s => wire.stringify (offer nacl deal s)
  downProvider : st.down .provider =
    g.toProvider.map fun s => wire.stringify (reply nacl deal s)
  across : ∀ side, ¬Joined deal socket st.relay side → g.crossed = []
  idle : ∀ side, st.relay.connections (socket side) = .unused → st.provider.signed = []

theorem start_flow : Flow wire nacl deal socket .empty (Net.start Socket) := by
  constructor <;> intros <;> rfl

theorem unsent_congr {relay relay' : Relay.State Socket} {side : Side}
    (h : relay'.connections (socket side) = relay.connections (socket side)) :
    unsent wire deal socket relay' side = unsent wire deal socket relay side := by
  rw [unsent, h, unsent]

theorem Apart.unsent_joined (h : Apart deal socket) {relay : Relay.State Socket} {side : Side}
    (hj : Joined deal socket relay side) : unsent wire deal socket relay side = [] :=
  if_neg fun hc => h.not_joined hc hj

/-- A pass of the loop puts one more tick at the end. -/
theorem Flow.tick {st : Net Socket} {g : Stages} (h : Flow wire nacl deal socket g st) {ts : Int}
    {p : Provider} {m : Message}
    (ready : ∀ side, st.relay.connections (socket side) ≠ .unused)
    (pass : st.provider.tick nacl deal ts = some (p, m)) :
    Flow wire nacl deal socket
      { g with fromProvider := g.fromProvider ++ [st.provider.next deal ts] }
      { st with
        provider := p
        up := Function.update st.up .provider (st.up .provider ++ [wire.stringify m]) } := by
  obtain ⟨_, msg, hmsg, rfl, rfl⟩ := Provider.tick_some.mp pass
  have hoffer : offer nacl deal (st.provider.next deal ts) = ⟨(st.provider.n + 1 : Nat),
      st.provider.owed + 120000000, (st.provider.n + 1 : Nat) * 250, ts,
      nacl.sign (deal.key .provider) msg, none⟩ := by
    rw [offer, bytes, hmsg]
    rfl
  refine ⟨?_, h.countersigned, h.latest, h.done, ?_, ?_, h.downConsumer, h.downProvider, h.across,
    fun side hs => absurd hs (ready side)⟩
  · simp [h.made, Stages.all]
  · simp [h.upProvider, hoffer]
  · simpa using h.upConsumer

/-- Whatever is on its way is a state of the session. -/
theorem Flow.session {st : Net Socket} {g : Stages} (h : Flow wire nacl deal socket g st)
    (ticking : st.provider.Ticking deal) {s : Client.StateUpdate} (hs : s ∈ g.all) :
    s.session = deal.session := by
  rw [← h.made] at hs
  obtain ⟨i, hi⟩ := List.mem_iff_getElem?.mp hs
  exact (ticking.ticks i s hi).session

/-- The consumer signs the oldest tick that has reached it. -/
theorem Flow.countersigns {st : Net Socket} {g : Stages} (h : Flow wire nacl deal socket g st)
    (ticking : st.provider.Ticking deal) {raw : String} {rest : List String} {m answer : Message}
    {c : Consumer} (front : st.down .consumer = raw :: rest) (read : wire.read raw = some m)
    (handled : st.consumer.onMessage nacl deal m = some (c, answer)) :
    ∃ s later, g.toConsumer = s :: later ∧ Flow wire nacl deal socket
      { g with toConsumer := later, fromConsumer := g.fromConsumer ++ [s] }
      { st with
        consumer := c
        up := Function.update st.up .consumer (st.up .consumer ++ [wire.stringify answer])
        down := Function.update st.down .consumer rest } := by
  have hdown := h.downConsumer
  rw [front] at hdown
  obtain ⟨s, later, hs, rfl, rfl⟩ := List.map_eq_cons_iff.mp hdown.symm
  rw [wire.read_stringify, Option.some.injEq] at read
  subst read
  have hstate : (offer nacl deal s).state deal = s :=
    offer_state nacl (h.session ticking (by simp [Stages.all, hs]))
  obtain ⟨msg, hmsg, _, _, rfl, rfl⟩ := Consumer.onMessage_some.mp handled
  rw [hstate] at hmsg
  have hbytes : bytes s = msg := by rw [bytes, hmsg, Option.getD_some]
  refine ⟨s, later, hs, ?_, ?_, h.latest, h.done, ?_, ?_, ?_, ?_, fun side hn => ?_, h.idle⟩
  · simp [h.made, Stages.all, hs]
  · simp [h.countersigned, hstate]
  · simpa using h.upProvider
  · simp [h.upConsumer, reply, hbytes]
  · simp
  · simpa using h.downProvider
  · have hcrossed := h.across side hn
    simp [Stages.crossed, hs] at hcrossed

/-- The provider takes the oldest answer. -/
theorem Flow.receives {st : Net Socket} {g : Stages} (h : Flow wire nacl deal socket g st)
    (ticking : st.provider.Ticking deal) {raw : String} {rest : List String} {m : Message}
    {p : Provider} (front : st.down .provider = raw :: rest) (read : wire.read raw = some m)
    (handled : st.provider.onMessage deal m = some p) :
    ∃ s later, g.toProvider = s :: later ∧ Flow wire nacl deal socket
      { g with toProvider := later, received := g.received ++ [s] }
      { st with
        provider := p
        down := Function.update st.down .provider rest } := by
  have hdown := h.downProvider
  rw [front] at hdown
  obtain ⟨s, later, hs, rfl, rfl⟩ := List.map_eq_cons_iff.mp hdown.symm
  rw [wire.read_stringify, Option.some.injEq] at read
  subst read
  have hstate : (reply nacl deal s).state deal = s :=
    offer_state nacl (h.session ticking (by simp [Stages.all, hs]))
  obtain ⟨sig, hsig, rfl⟩ := Provider.onMessage_some.mp handled
  cases hsig
  refine ⟨s, later, hs, ?_, ?_, ?_, ?_, h.upProvider, h.upConsumer, ?_, ?_, fun side hn => ?_,
    h.idle⟩
  · simp [h.made, Stages.all, hs]
  · simp [h.countersigned, hs]
  · simp only [hstate, List.getLast?_concat, Option.map_some]
    rfl
  · simp only [h.done, List.any_append, List.any_cons, List.any_nil, Bool.or_false]
    rfl
  · simpa using h.downConsumer
  · simp
  · have hcrossed := h.across side hn
    simp [Stages.crossed, hs] at hcrossed

end

section
variable {Socket : Type} [DecidableEq Socket] {wire : Wire} {nacl : Nacl} {deal : Deal}
  {socket : Side → Socket} {st : Net Socket} {g : Stages} {relay : Relay.State Socket}
  {sends : List (Socket × String)}

theorem deliver_none (h : ∀ p ∈ sends, ∀ side, p.1 ≠ socket side) :
    st.deliver socket sends = st.down := by
  funext side
  have hnone : sends.filter (fun p => p.1 = socket side) = [] := by
    rw [List.filter_eq_nil_iff]
    intro p hp
    simpa using h p hp side
  rw [Net.deliver, hnone, List.map_nil, List.append_nil]

theorem deliver_one (apart : Apart deal socket) (side : Side) (raw : String) :
    st.deliver socket [(socket side, raw)] =
      Function.update st.down side (st.down side ++ [raw]) := by
  funext a
  by_cases ha : a = side
  · subst ha
    simp [Net.deliver]
  · have hne := apart.ne (Ne.symm ha)
    simp [Net.deliver, ha, hne]

/-- A socket opens, before anything is signed. -/
theorem Flow.join (h : Flow wire nacl deal socket g st) (apart : Apart deal socket)
    (wired : Wired deal socket st.relay) {side : Side}
    (step : Relay.Step wire.json st.relay ⟨.connection (socket side), sends⟩ relay) :
    Flow wire nacl deal socket g
      { st with
        relay := relay
        up := Function.update st.up side
          (st.up side ++ [wire.join deal.sessionId side.role]) } := by
  obtain ⟨_, was, connections⟩ := wired.connected apart step
  have hsigned := h.idle side was
  obtain rfl := Stages.eq_empty (h.made.symm.trans hsigned)
  have opens : unsent wire deal socket relay side = [wire.join deal.sessionId side.role] :=
    if_pos (by rw [connections, Function.update_self])
  have waited : unsent wire deal socket st.relay side = [] := if_neg (by simp [was])
  have others : ∀ a, a ≠ side →
      unsent wire deal socket relay a = unsent wire deal socket st.relay a := by
    intro a ha
    exact unsent_congr (by rw [connections, Function.update_of_ne (apart.ne ha)])
  have hp := h.upProvider
  have hc := h.upConsumer
  refine ⟨h.made, h.countersigned, h.latest, h.done, ?_, ?_, h.downConsumer, h.downProvider,
    fun _ _ => rfl, fun _ _ => hsigned⟩
  · cases side with
    | provider =>
      rw [waited] at hp
      simp only [Function.update_self, hp, opens]
      rfl
    | consumer =>
      rw [others .provider (by simp)]
      simpa using hp
  · cases side with
    | consumer =>
      rw [waited] at hc
      simp only [Function.update_self, hc, opens]
      rfl
    | provider =>
      rw [others .consumer (by simp)]
      simpa using hc

/-- The relay takes a join off the queue. -/
theorem Flow.joins (h : Flow wire nacl deal socket g st) (apart : Apart deal socket)
    (wired : Wired deal socket st.relay) {side : Side} {raw : String} {rest : List String}
    (hc : st.relay.connections (socket side) = .open "" "") (front : st.up side = raw :: rest)
    (step : Relay.Step wire.json st.relay ⟨.message (socket side) raw, sends⟩ relay) :
    Flow wire nacl deal socket g
      { st with
        relay := relay
        up := Function.update st.up side rest
        down := st.deliver socket sends } ∧
      Wired deal socket relay ∧ Joined deal socket relay side ∧
      ∀ w, w ≠ socket side → relay.connections w = st.relay.connections w := by
  have waits : unsent wire deal socket st.relay side = [wire.join deal.sessionId side.role] :=
    if_pos hc
  have hp := h.upProvider
  have hq := h.upConsumer
  have hraw : raw = wire.join deal.sessionId side.role := by
    cases side with
    | provider =>
      rw [waits, front] at hp
      exact (List.cons.inj hp).1
    | consumer =>
      rw [waits, front] at hq
      exact (List.cons.inj hq).1
  subst hraw
  obtain ⟨wired', joins, others, rfl⟩ := wired.joined apart step
  have sent : unsent wire deal socket relay side = [] := apart.unsent_joined joins
  have hdown : st.deliver socket [] = st.down := deliver_none (by simp)
  refine ⟨⟨h.made, h.countersigned, h.latest, h.done, ?_, ?_, ?_, ?_, fun a ha => ?_,
    fun a ha => ?_⟩, wired', joins, others⟩
  · cases side with
    | provider =>
      rw [waits, front] at hp
      simp only [Function.update_self, sent]
      exact (List.cons.inj hp).2
    | consumer =>
      rw [unsent_congr (others _ (apart.ne (by simp)))]
      simpa using hp
  · cases side with
    | consumer =>
      rw [waits, front] at hq
      simp only [Function.update_self, sent]
      exact (List.cons.inj hq).2
    | provider =>
      rw [unsent_congr (others _ (apart.ne (by simp)))]
      simpa using hq
  · rw [hdown]
    exact h.downConsumer
  · rw [hdown]
    exact h.downProvider
  · by_cases hs : a = side
    · exact absurd (hs ▸ joins) ha
    · exact h.across a fun hj => ha ((Joined.congr (others _ (apart.ne hs))).mpr hj)
  · by_cases hs : a = side
    · subst hs
      rw [joins] at ha
      cases ha
    · rw [others _ (apart.ne hs)] at ha
      exact h.idle a ha

/-- The stages after the relay has taken a tick off the provider's queue. -/
def Stages.forwarded (g : Stages) (s : Client.StateUpdate) (rest : List Client.StateUpdate) :
    Stages :=
  { g with fromProvider := rest, toConsumer := g.toConsumer ++ [s] }

/-- The stages after the relay has found nobody to pass a tick on to. -/
def Stages.lost (g : Stages) (s : Client.StateUpdate) (rest : List Client.StateUpdate) : Stages :=
  { g with fromProvider := rest, dropped := g.dropped ++ [s] }

/-- The relay passes the provider's oldest tick on if the consumer has joined. -/
theorem Flow.forwards (h : Flow wire nacl deal socket g st) (apart : Apart deal socket)
    (wired : Wired deal socket st.relay) {raw : String} {rest : List String}
    (hj : Joined deal socket st.relay .provider) (front : st.up .provider = raw :: rest)
    (step : Relay.Step wire.json st.relay ⟨.message (socket .provider) raw, sends⟩ relay) :
    ∃ s later, g.fromProvider = s :: later ∧ relay = st.relay ∧
      (Joined deal socket st.relay .consumer → Flow wire nacl deal socket (g.forwarded s later)
        { st with
          relay := relay
          up := Function.update st.up .provider rest
          down := st.deliver socket sends }) ∧
      (¬Joined deal socket st.relay .consumer → Flow wire nacl deal socket (g.lost s later)
        { st with
          relay := relay
          up := Function.update st.up .provider rest
          down := st.deliver socket sends }) := by
  have hup := h.upProvider
  rw [front, apart.unsent_joined hj, List.nil_append] at hup
  obtain ⟨s, later, hs, rfl, rfl⟩ := List.map_eq_cons_iff.mp hup.symm
  obtain ⟨rfl, sent, unsent⟩ := wired.forwarded hj step
  have hconsumer : st.up .consumer = (Function.update st.up .provider (later.map fun s =>
      wire.stringify (offer nacl deal s))) .consumer := by simp
  refine ⟨s, later, hs, rfl, fun hc => ?_, fun hc => ?_⟩
  · rw [sent hc, deliver_one apart]
    refine ⟨?_, h.countersigned, h.latest, h.done, ?_, hconsumer ▸ h.upConsumer, ?_, ?_,
      fun side hn => ?_, h.idle⟩
    · simp [h.made, Stages.all, Stages.forwarded, hs]
    · simp [apart.unsent_joined hj, Stages.forwarded]
    · simp [Side.other, h.downConsumer, Stages.forwarded]
    · simpa [Side.other, Stages.forwarded] using h.downProvider
    · cases side with
      | provider => exact absurd hj hn
      | consumer => exact absurd hc hn
  · rw [unsent hc, deliver_none (by simp)]
    have hnone := Stages.eq_of_crossed (h.across .consumer hc)
    refine ⟨?_, h.countersigned, h.latest, h.done, ?_, hconsumer ▸ h.upConsumer, h.downConsumer,
      h.downProvider, h.across, h.idle⟩
    · rw [h.made, hnone]
      simp [Stages.all, Stages.lost, Stages.empty, hs]
    · simp [apart.unsent_joined hj, Stages.lost]

/-- The relay passes the consumer's oldest answer on. -/
theorem Flow.returns (h : Flow wire nacl deal socket g st) (apart : Apart deal socket)
    (wired : Wired deal socket st.relay) {raw : String} {rest : List String}
    (hj : Joined deal socket st.relay .consumer) (front : st.up .consumer = raw :: rest)
    (step : Relay.Step wire.json st.relay ⟨.message (socket .consumer) raw, sends⟩ relay) :
    ∃ s later, g.fromConsumer = s :: later ∧ relay = st.relay ∧
      Flow wire nacl deal socket
        { g with fromConsumer := later, toProvider := g.toProvider ++ [s] }
        { st with
          relay := relay
          up := Function.update st.up .consumer rest
          down := st.deliver socket sends } := by
  have hup := h.upConsumer
  rw [front, apart.unsent_joined hj, List.nil_append] at hup
  obtain ⟨s, later, hs, rfl, rfl⟩ := List.map_eq_cons_iff.mp hup.symm
  obtain ⟨rfl, sent, _⟩ := wired.forwarded hj step
  have hp : Joined deal socket st.relay .provider := by
    by_contra hn
    have hcrossed := h.across .provider hn
    simp [Stages.crossed, hs] at hcrossed
  refine ⟨s, later, hs, rfl, ?_⟩
  rw [sent hp, deliver_one apart]
  refine ⟨?_, ?_, h.latest, h.done, ?_, ?_, ?_, ?_, fun side hn => ?_, h.idle⟩
  · simp [h.made, Stages.all, hs]
  · simp [h.countersigned, hs]
  · simpa using h.upProvider
  · simp [apart.unsent_joined hj]
  · simpa [Side.other] using h.downConsumer
  · simp [Side.other, h.downProvider]
  · cases side with
    | provider => exact absurd hp hn
    | consumer => exact absurd hj hn

/-- What else the relay does leaves the queues as they are. -/
theorem Flow.passes (h : Flow wire nacl deal socket g st) (apart : Apart deal socket)
    (wired : Wired deal socket st.relay) {event : Relay.Event Socket}
    (foreign : Foreign wire deal socket event)
    (step : Relay.Step wire.json st.relay ⟨event, sends⟩ relay) :
    Flow wire nacl deal socket g
      { st with
        relay := relay
        down := st.deliver socket sends } := by
  obtain ⟨_, same, unsent⟩ := wired.foreign apart foreign step
  rw [deliver_none unsent]
  refine ⟨h.made, h.countersigned, h.latest, h.done, ?_, ?_, h.downConsumer, h.downProvider,
    fun side hn => h.across side fun hj => hn ((Joined.congr (same side)).mpr hj),
    fun side hs => ?_⟩
  · rw [unsent_congr (same _)]
    exact h.upProvider
  · rw [unsent_congr (same _)]
    exact h.upConsumer
  · rw [same side] at hs
    exact h.idle side hs

end

end SolMesh.Demo
