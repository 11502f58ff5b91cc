import SolMesh.Model.Relay

namespace SolMesh.Relay
open Runs

variable {Socket : Type} (parse : String → Option Json)

/-- The join that an occurrence is: who joined, and the session and role. -/
def Occurrence.join? (x : Occurrence Socket) : Option (Socket × String × String) :=
  match x.event with
  | .message ws raw =>
    match parse raw with
    | some (.join session role) => some (ws, session, role)
    | some .null | some .other | none => none
  | .connection _ | .close _ => none

def joins (tr : History Socket) : List (Socket × String × String) :=
  tr.filterMap fun x => x.label.join? parse

/-- The latest socket to have joined a session in a role. -/
def holder (slot : String × String) (tr : History Socket) : Option Socket :=
  ((joins parse tr).filter fun j => j.2 = slot).getLast?.map Prod.fst

def takes (slot : String × String)
    (x : Transition (State Socket) (Occurrence Socket)) : Bool :=
  (x.label.join? parse).any fun j => j.2 = slot

/-- Since the session was last joined in the role, none of the sockets that
joined it so has closed. -/
def Undisturbed (slot : String × String) (tr : History Socket) : Prop :=
  ∀ x ∈ since (takes parse slot) tr, ∀ ws,
    x.label.event = .close ws → (ws, slot) ∉ joins parse tr

def Event.closing : Event Socket → Option Socket
  | .close ws => some ws
  | .connection _ | .message _ _ => none

instance [DecidableEq Socket] (slot : String × String) (tr : History Socket) :
    Decidable (Undisturbed parse slot tr) :=
  decidable_of_iff (∀ x ∈ since (takes parse slot) tr, ∀ ws ∈ x.label.event.closing,
      (ws, slot) ∉ joins parse tr) <| by
    refine forall₃_congr fun x _ ws => ?_
    cases x.label.event <;> simp [Event.closing]

/-- No socket joins twice. -/
def JoinsOnce (tr : History Socket) : Prop :=
  ((joins parse tr).map Prod.fst).Nodup

def Roles (tr : History Socket) : Prop :=
  ∀ ws session role, (ws, session, role) ∈ joins parse tr → role = "provider" ∨ role = "consumer"

/-- The latest socket to have joined a session in a role, which has not closed. -/
structure Current (slot : String × String) (tr : History Socket) (w : Socket) : Prop where
  latest : holder parse slot tr = some w
  stays : ∀ x ∈ tr, x.label.event ≠ .close w

def opposite (role : String) : String :=
  if role = "provider" then "consumer" else "provider"

def State.slot (st : State Socket) (k : String × String) : Option Socket :=
  (st.channels k.1).bind fun ch => ch k.2

theorem peer_eq (ch : Channel Socket) (role : String) :
    (if role = "provider" then ch "consumer" else ch "provider") = ch (opposite role) := by
  unfold opposite
  split <;> rfl

/-- What a connection says about the joins of its socket. One that has not
joined stands under empty names. -/
def Fits (tr : History Socket) (ws : Socket) : Connection → Prop
  | .unused => ∀ k, (ws, k) ∉ joins parse tr
  | .open sessionId role =>
    (∀ k, (ws, k) ∈ joins parse tr → k = (sessionId, role)) ∧
      ((ws, sessionId, role) ∈ joins parse tr ∨ (sessionId, role) = ("", ""))
  | .closed => True

/-- How the connections and the slots stand to the history. -/
structure Agrees (tr : History Socket) (st : State Socket) : Prop where
  sockets : ∀ ws, Fits parse tr ws (st.connections ws)
  held : ∀ k w, st.slot k = some w ↔ holder parse k tr = some w ∧ Undisturbed parse k tr
  live : ∀ k w, st.slot k = some w → st.connections w = .open k.1 k.2

section
variable {parse}

theorem joins_snoc (tr : History Socket) (x : Transition (State Socket) (Occurrence Socket)) :
    joins parse (tr ++ [x]) = joins parse tr ++ (x.label.join? parse).toList := by
  cases h : x.label.join? parse <;> simp [joins, h]

theorem takes_iff {slot : String × String} {x : Transition (State Socket) (Occurrence Socket)} :
    takes parse slot x = true ↔ ∃ ws, x.label.join? parse = some (ws, slot) := by
  cases h : x.label.join? parse <;> simp [takes, h, Prod.ext_iff]

theorem takes_none {slot : String × String} {x : Transition (State Socket) (Occurrence Socket)}
    (h : x.label.join? parse = none) : takes parse slot x = false := by
  simp [takes, h]

theorem joins_none {x : Transition (State Socket) (Occurrence Socket)}
    (h : x.label.join? parse = none) (tr : History Socket) :
    joins parse (tr ++ [x]) = joins parse tr := by
  simp [joins_snoc, h]

theorem joined_snoc {slot : String × String} {x : Transition (State Socket) (Occurrence Socket)}
    (h : takes parse slot x = false) (tr : History Socket) (ws : Socket) :
    (ws, slot) ∈ joins parse (tr ++ [x]) ↔ (ws, slot) ∈ joins parse tr := by
  rw [joins_snoc, List.mem_append]
  constructor
  · intro hm
    rcases hm with hm | hm
    · exact hm
    · have ht : takes parse slot x = true := takes_iff.mpr ⟨ws, by simpa using hm⟩
      rw [h] at ht
      cases ht
  · exact Or.inl

theorem holder_joined {slot : String × String} {tr : History Socket} {w : Socket}
    (h : holder parse slot tr = some w) : (w, slot) ∈ joins parse tr := by
  obtain ⟨⟨w', k⟩, hl, rfl⟩ := Option.map_eq_some_iff.mp h
  have hm := List.mem_of_getLast? hl
  obtain ⟨hj, hk⟩ := List.mem_filter.mp hm
  obtain rfl : k = slot := by simpa using hk
  exact hj

theorem holder_taken {slot : String × String} {x : Transition (State Socket) (Occurrence Socket)}
    {ws : Socket} (h : x.label.join? parse = some (ws, slot)) (tr : History Socket) :
    holder parse slot (tr ++ [x]) = some ws := by
  simp [holder, joins_snoc, h]

theorem holder_snoc {slot : String × String} {x : Transition (State Socket) (Occurrence Socket)}
    (h : takes parse slot x = false) (tr : History Socket) :
    holder parse slot (tr ++ [x]) = holder parse slot tr := by
  cases hj : x.label.join? parse with
  | none => simp [holder, joins_snoc, hj]
  | some j =>
    have hk : j.2 ≠ slot := by simpa [takes, hj] using h
    simp [holder, joins_snoc, hj, hk]

/-- Whoever joins finds the slot undisturbed. -/
theorem undisturbed_taken {slot : String × String}
    {x : Transition (State Socket) (Occurrence Socket)} (h : takes parse slot x = true)
    (tr : History Socket) : Undisturbed parse slot (tr ++ [x]) := by
  simp [Undisturbed, h]

theorem undisturbed_snoc {slot : String × String}
    {x : Transition (State Socket) (Occurrence Socket)} (h : takes parse slot x = false)
    (tr : History Socket) :
    Undisturbed parse slot (tr ++ [x]) ↔
      Undisturbed parse slot tr ∧
        ∀ ws, x.label.event = .close ws → (ws, slot) ∉ joins parse tr := by
  simp only [Undisturbed, since_snoc, h, joined_snoc h, Bool.false_eq_true, if_false,
    List.forall_mem_append, List.forall_mem_singleton]

theorem JoinsOnce.earlier {tr : History Socket}
    {x : Transition (State Socket) (Occurrence Socket)} (h : JoinsOnce parse (tr ++ [x])) :
    JoinsOnce parse tr := by
  rw [JoinsOnce, joins_snoc, List.map_append] at h
  exact (List.nodup_append.mp h).1

/-- A socket that joins has not joined before. -/
theorem JoinsOnce.first {tr : History Socket}
    {x : Transition (State Socket) (Occurrence Socket)} {ws : Socket} {k : String × String}
    (h : JoinsOnce parse (tr ++ [x])) (hx : x.label.join? parse = some (ws, k))
    (slot : String × String) : (ws, slot) ∉ joins parse tr := by
  intro hm
  rw [JoinsOnce, joins_snoc, List.map_append, hx] at h
  obtain ⟨_, _, apart⟩ := List.nodup_append.mp h
  exact apart ws (List.mem_map_of_mem hm) ws (by simp) rfl

theorem Roles.earlier {tr : History Socket}
    {x : Transition (State Socket) (Occurrence Socket)} (h : Roles parse (tr ++ [x])) :
    Roles parse tr := by
  intro ws session role hj
  exact h ws session role (by rw [joins_snoc]; exact List.mem_append_left _ hj)

theorem Fits.congr {tr tr' : History Socket} {ws : Socket} {c : Connection}
    (h : Fits parse tr ws c)
    (same : ∀ k, (ws, k) ∈ joins parse tr' ↔ (ws, k) ∈ joins parse tr) : Fits parse tr' ws c := by
  cases c with
  | closed => trivial
  | unused =>
    intro k hk
    exact h k ((same k).mp hk)
  | «open» sessionId role =>
    obtain ⟨only, known⟩ := h
    exact ⟨fun k hk => only k ((same k).mp hk), known.imp_left (same _).mpr⟩

theorem startRelay_agrees : Agrees parse [] (startRelay Socket) := by
  refine ⟨?_, ?_, ?_⟩ <;>
    simp [startRelay, Fits, joins, holder, State.slot]

theorem Agrees.isOpen {tr : History Socket} {st : State Socket} (hi : Agrees parse tr st)
    {ws : Socket} {sessionId role : String} (was : st.connections ws = .open sessionId role) :
    (∀ k, (ws, k) ∈ joins parse tr → k = (sessionId, role)) ∧
      ((ws, sessionId, role) ∈ joins parse tr ∨ (sessionId, role) = ("", "")) := by
  have fits := hi.sockets ws
  rwa [was] at fits

/-- An occurrence that neither joins nor closes leaves every slot as it was. -/
theorem Agrees.held_idle {tr : History Socket} {st st' : State Socket}
    {x : Occurrence Socket} (hi : Agrees parse tr st) (join : x.join? parse = none)
    (stays : ∀ ws, x.event ≠ .close ws) (k : String × String) (w : Socket) :
    st.slot k = some w ↔
      holder parse k (tr ++ [⟨st, x, st'⟩]) = some w ∧
        Undisturbed parse k (tr ++ [⟨st, x, st'⟩]) := by
  have ht : takes parse k ⟨st, x, st'⟩ = false := takes_none join
  rw [hi.held, holder_snoc ht, undisturbed_snoc ht]
  constructor
  · rintro ⟨hh, hu⟩
    exact ⟨hh, hu, fun ws he => absurd he (stays ws)⟩
  · rintro ⟨hh, hu, _⟩
    exact ⟨hh, hu⟩

theorem Agrees.forwarded {tr : History Socket} {st st' : State Socket} {x : Occurrence Socket}
    (hi : Agrees parse tr st) (join : x.join? parse = none) (stays : ∀ ws, x.event ≠ .close ws)
    (connections : st'.connections = st.connections) (slots : ∀ j, st'.slot j = st.slot j) :
    Agrees parse (tr ++ [⟨st, x, st'⟩]) st' := by
  have hj : joins parse (tr ++ [⟨st, x, st'⟩]) = joins parse tr := joins_none join tr
  refine ⟨fun ws => ?_, fun k w => ?_, fun k w hs => ?_⟩
  · rw [connections]
    exact (hi.sockets ws).congr (by simp [hj])
  · rw [slots]
    exact hi.held_idle join stays k w
  · rw [slots] at hs
    rw [connections]
    exact hi.live k w hs

end

theorem State.slot_set (st : State Socket) (k j : String × String) (v : Option Socket)
    (ch : Channel Socket) (h : ∀ r, ch r = (st.channels k.1).bind fun c => c r) :
    (Function.update st.channels k.1 (some (Function.update ch k.2 v)) j.1).bind
      (fun c => c j.2) = if j = k then v else st.slot j := by
  obtain ⟨s, r⟩ := j
  by_cases hs : s = k.1
  · subst hs
    by_cases hr : r = k.2
    · simp [hr]
    · have hne : (k.1, r) ≠ k := fun e => hr (congrArg Prod.snd e)
      simp [hr, hne, h, State.slot]
  · have hne : (s, r) ≠ k := fun e => hs (congrArg Prod.fst e)
    simp [hs, hne, State.slot]

variable [DecidableEq Socket]

/-- What an occurrence does to the connections and the slots. -/
inductive Change (st st' : State Socket) (x : Occurrence Socket) : Prop
  | connected (ws : Socket) (event : x.event = .connection ws)
      (was : st.connections ws = .unused)
      (connections : st'.connections = Function.update st.connections ws (.open "" ""))
      (slots : ∀ j, st'.slot j = st.slot j)
  | joined (ws : Socket) (k : String × String) (join : x.join? parse = some (ws, k))
      (was : ∃ sessionId role, st.connections ws = .open sessionId role)
      (connections : st'.connections = Function.update st.connections ws (.open k.1 k.2))
      (slots : ∀ j, st'.slot j = if j = k then some ws else st.slot j)
  | forwarded (join : x.join? parse = none) (stays : ∀ ws, x.event ≠ .close ws)
      (connections : st'.connections = st.connections) (slots : ∀ j, st'.slot j = st.slot j)
  | closed (ws : Socket) (k : String × String) (event : x.event = .close ws)
      (was : st.connections ws = .open k.1 k.2)
      (connections : st'.connections = Function.update st.connections ws .closed)
      (slots : ∀ j, st'.slot j = if j = k then none else st.slot j)

section
variable {parse} {st st' : State Socket}

theorem onMessage_change {ws : Socket} {sessionId role raw : String}
    {sends : List (Socket × String)} (was : st.connections ws = .open sessionId role)
    (h : st.onMessage parse ws sessionId role raw = (st', sends)) :
    Change parse st st' ⟨.message ws raw, sends⟩ := by
  unfold State.onMessage at h
  split at h
  · rename_i hp
    obtain ⟨rfl, rfl⟩ := Prod.ext_iff.mp h
    exact .forwarded (by simp [Occurrence.join?, hp]) (by simp) rfl fun _ => rfl
  · rename_i hp
    obtain ⟨rfl, rfl⟩ := Prod.ext_iff.mp h
    exact .forwarded (by simp [Occurrence.join?, hp]) (by simp) rfl fun _ => rfl
  · rename_i session role hp
    obtain ⟨rfl, rfl⟩ := Prod.ext_iff.mp h
    refine .joined ws (session, role) (by simp [Occurrence.join?, hp]) ⟨_, _, was⟩ rfl fun j => ?_
    refine st.slot_set (session, role) j (some ws) _ fun r => ?_
    cases st.channels session <;> rfl
  · rename_i hp
    have hst : st' = st := by
      split at h <;> exact (congrArg Prod.fst h).symm
    subst hst
    exact .forwarded (by simp [Occurrence.join?, hp]) (by simp) rfl fun _ => rfl

theorem onClose_slot (ws : Socket) (sessionId role : String) (j : String × String) :
    (st.onClose ws sessionId role).slot j = if j = (sessionId, role) then none else st.slot j := by
  cases hc : st.channels sessionId with
  | none =>
    have hslot : (st.onClose ws sessionId role).slot j = st.slot j := by
      simp [State.onClose, State.slot, hc]
    rw [hslot]
    split
    · rename_i hj
      simp [State.slot, hj, hc]
    · rfl
  | some ch =>
    have hset := st.slot_set (sessionId, role) j none ch (by simp [hc])
    simpa [State.onClose, State.slot, hc] using hset

theorem Step.of_message {ws : Socket} {raw : String} {sends : List (Socket × String)}
    (h : Step parse st ⟨.message ws raw, sends⟩ st') :
    ∃ sessionId role, st.connections ws = .open sessionId role ∧
      st.onMessage parse ws sessionId role raw = (st', sends) := by
  obtain ⟨_, handled⟩ := h
  simp only [State.handle] at handled
  split at handled
  · rename_i sessionId role was
    exact ⟨sessionId, role, was, Option.some.inj handled⟩
  all_goals cases handled

theorem Step.change {x : Occurrence Socket} (h : Step parse st x st') : Change parse st st' x := by
  obtain ⟨event, sends⟩ := x
  cases event with
  | connection ws =>
    obtain ⟨_, handled⟩ := h
    simp only [State.handle] at handled
    split at handled
    · rename_i was
      obtain ⟨rfl, rfl⟩ := by simpa using handled
      exact .connected ws rfl was rfl fun _ => rfl
    all_goals cases handled
  | message ws raw =>
    obtain ⟨sessionId, role, was, he⟩ := h.of_message
    exact onMessage_change was he
  | close ws =>
    obtain ⟨_, handled⟩ := h
    simp only [State.handle] at handled
    split at handled
    · rename_i sessionId role was
      obtain ⟨rfl, rfl⟩ := by simpa using handled
      exact .closed ws (sessionId, role) rfl was rfl (onClose_slot ws sessionId role)
    all_goals cases handled

end

section
variable {parse} {tr : History Socket} {st st' : State Socket} {x : Occurrence Socket}

/-- One connection changes, and no other socket joins. -/
theorem Agrees.sockets_update (hi : Agrees parse tr st) {ws : Socket} {c : Connection}
    {tr' : History Socket} (connections : st'.connections = Function.update st.connections ws c)
    (fits : Fits parse tr' ws c)
    (same : ∀ w, w ≠ ws → ∀ k, (w, k) ∈ joins parse tr' ↔ (w, k) ∈ joins parse tr) (w : Socket) :
    Fits parse tr' w (st'.connections w) := by
  rw [connections]
  by_cases he : w = ws
  · subst he
    rwa [Function.update_self]
  · rw [Function.update_of_ne he]
    exact (hi.sockets w).congr (same w he)

theorem Agrees.connected (hi : Agrees parse tr st) {ws : Socket} (event : x.event = .connection ws)
    (was : st.connections ws = .unused)
    (connections : st'.connections = Function.update st.connections ws (.open "" ""))
    (slots : ∀ j, st'.slot j = st.slot j) : Agrees parse (tr ++ [⟨st, x, st'⟩]) st' := by
  have join : x.join? parse = none := by simp [Occurrence.join?, event]
  have hj : joins parse (tr ++ [⟨st, x, st'⟩]) = joins parse tr := joins_none join tr
  have unjoined : ∀ k, (ws, k) ∉ joins parse tr := by
    have fits := hi.sockets ws
    rwa [was] at fits
  refine ⟨hi.sockets_update connections ⟨fun k hk => ?_, .inr rfl⟩ (by simp [hj]), fun k w => ?_,
    fun k w hs => ?_⟩
  · rw [hj] at hk
    exact absurd hk (unjoined k)
  · rw [slots]
    exact hi.held_idle join (by simp [event]) k w
  · rw [slots] at hs
    have hw := hi.live k w hs
    have hne : w ≠ ws := by
      rintro rfl
      rw [was] at hw
      cases hw
    rw [connections, Function.update_of_ne hne, hw]

/-- A socket that joins takes its slot, and was in no other. -/
theorem Agrees.joined (hi : Agrees parse tr st) {ws : Socket} {k : String × String}
    (join : x.join? parse = some (ws, k))
    (connections : st'.connections = Function.update st.connections ws (.open k.1 k.2))
    (slots : ∀ j, st'.slot j = if j = k then some ws else st.slot j)
    (first : ∀ j, (ws, j) ∉ joins parse tr) : Agrees parse (tr ++ [⟨st, x, st'⟩]) st' := by
  have hj : ∀ w j, (w, j) ∈ joins parse (tr ++ [⟨st, x, st'⟩]) ↔
      (w, j) ∈ joins parse tr ∨ w = ws ∧ j = k := by
    intro w j
    simp [joins_snoc, join]
  refine ⟨hi.sockets_update connections ⟨fun j hm => ?_, .inl ?_⟩ fun w hne j => ?_, fun j w => ?_,
    fun j w hs => ?_⟩
  · rcases (hj ws j).mp hm with hm | ⟨_, rfl⟩
    · exact absurd hm (first j)
    · rfl
  · exact (hj ws k).mpr (.inr ⟨rfl, rfl⟩)
  · rw [hj]
    exact or_iff_left fun h => hne h.1
  · rw [slots]
    by_cases he : j = k
    · subst he
      have ht : takes parse j ⟨st, x, st'⟩ = true := takes_iff.mpr ⟨ws, join⟩
      rw [if_pos rfl, holder_taken join]
      exact (and_iff_left (undisturbed_taken ht tr)).symm
    · have ht : takes parse j ⟨st, x, st'⟩ = false := by
        simp [takes, join, Ne.symm he]
      have stays : ∀ w, x.event ≠ .close w := by
        intro w hc
        simp [Occurrence.join?, hc] at join
      rw [if_neg he, hi.held, holder_snoc ht, undisturbed_snoc ht]
      exact and_congr_right' (and_iff_left fun w hc => absurd hc (stays w)).symm
  · rw [slots] at hs
    by_cases he : j = k
    · subst he
      rw [if_pos rfl] at hs
      obtain rfl := Option.some.inj hs
      rw [connections, Function.update_self]
    · rw [if_neg he] at hs
      have hne : w ≠ ws := by
        rintro rfl
        exact first j (holder_joined ((hi.held j w).mp hs).1)
      rw [connections, Function.update_of_ne hne]
      exact hi.live j w hs

/-- A socket that closes leaves its slot empty. Other slots do not know it. -/
theorem Agrees.closed (hi : Agrees parse tr st) (roles : Roles parse tr) {ws : Socket}
    {k : String × String} (event : x.event = .close ws) (was : st.connections ws = .open k.1 k.2)
    (connections : st'.connections = Function.update st.connections ws .closed)
    (slots : ∀ j, st'.slot j = if j = k then none else st.slot j) :
    Agrees parse (tr ++ [⟨st, x, st'⟩]) st' := by
  have join : x.join? parse = none := by simp [Occurrence.join?, event]
  have hj : joins parse (tr ++ [⟨st, x, st'⟩]) = joins parse tr := joins_none join tr
  obtain ⟨only, known⟩ := hi.isOpen was
  refine ⟨hi.sockets_update connections trivial (by simp [hj]), fun j w => ?_,
    fun j w hs => ?_⟩
  · have ht : takes parse j ⟨st, x, st'⟩ = false := takes_none join
    rw [slots, holder_snoc ht, undisturbed_snoc ht]
    by_cases he : j = k
    · subst he
      rw [if_pos rfl]
      constructor
      · intro h
        cases h
      · rintro ⟨hh, _, hc⟩
        rcases known with hm | he
        · exact absurd hm (hc ws event)
        · -- no socket joins without a role
          have hw := holder_joined hh
          rw [show j = ("", "") from he] at hw
          rcases roles w "" "" hw with hr | hr <;> simp at hr
    · rw [if_neg he, hi.held]
      refine and_congr_right' (and_iff_left fun w hc hm => he ?_).symm
      obtain rfl : ws = w := by simpa [event] using hc
      exact only j hm
  · rw [slots] at hs
    by_cases he : j = k
    · simp [he] at hs
    · rw [if_neg he] at hs
      have hw := hi.live j w hs
      have hne : w ≠ ws := by
        rintro rfl
        rw [was] at hw
        injection hw with h1 h2
        exact he (Prod.ext h1.symm h2.symm)
      rw [connections, Function.update_of_ne hne, hw]

theorem Agrees.step (hi : Agrees parse tr st) (once : JoinsOnce parse (tr ++ [⟨st, x, st'⟩]))
    (roles : Roles parse tr) (h : Step parse st x st') :
    Agrees parse (tr ++ [⟨st, x, st'⟩]) st' := by
  cases h.change with
  | connected ws event was connections slots => exact hi.connected event was connections slots
  | joined ws k join was connections slots =>
    exact hi.joined join connections slots (once.first join)
  | forwarded join stays connections slots => exact hi.forwarded join stays connections slots
  | closed ws k event was connections slots => exact hi.closed roles event was connections slots

theorem run_agrees (run : Run (Step parse) (startRelay Socket) tr st)
    (once : JoinsOnce parse tr) (roles : Roles parse tr) : Agrees parse tr st := by
  refine run.history (fun tr st => JoinsOnce parse tr → Roles parse tr → Agrees parse tr st)
    (fun _ _ => startRelay_agrees) ?_ once roles
  intro tr st x st' _ ih hstep once roles
  exact (ih once.earlier roles.earlier).step once roles.earlier hstep

/-- A message goes to the socket that the opposite slot of its sender holds. -/
theorem Agrees.sends (hi : Agrees parse tr st) {sender : Socket} {k : String × String}
    (was : st.connections sender = .open k.1 k.2) {raw : String} {msg : Json}
    {sends : List (Socket × String)} (parsed : parse raw = some msg)
    (update : ∀ session role, msg ≠ .join session role)
    (h : Step parse st ⟨.message sender raw, sends⟩ st') :
    sends = if msg = .null then []
      else ((st.slot (k.1, opposite k.2)).map fun w => (w, raw)).toList := by
  obtain ⟨sessionId, role, was', he⟩ := h.of_message
  obtain ⟨rfl, rfl⟩ : k.1 = sessionId ∧ k.2 = role := by simpa [was] using was'
  simp only [State.onMessage, parsed] at he
  cases msg with
  | null => simpa using (congrArg Prod.snd he).symm
  | join session role => exact absurd rfl (update session role)
  | other =>
    cases hc : st.channels k.1 with
    | none =>
      simp only [hc] at he
      simpa [State.slot, hc] using (congrArg Prod.snd he).symm
    | some ch =>
      have hslot : st.slot (k.1, opposite k.2) = ch (opposite k.2) := by simp [State.slot, hc]
      simp only [hc, peer_eq] at he
      rw [← hslot] at he
      have hs := congrArg Prod.snd he
      cases hp : st.slot (k.1, opposite k.2) with
      | none => simpa [hp] using hs.symm
      | some p =>
        have hsend : st.send p raw = [(p, raw)] := by simp [State.send, hi.live _ p hp]
        simpa [hp, hsend] using hs.symm

theorem Agrees.joined_sends (hi : Agrees parse tr st) {sender : Socket} {raw : String} {msg : Json}
    {sends : List (Socket × String)} (parsed : parse raw = some msg)
    (update : ∀ session role, msg ≠ .join session role)
    (message : Step parse st ⟨.message sender raw, sends⟩ st') {session role : String}
    (joined : (sender, session, role) ∈ joins parse tr) :
    (∀ w, Current parse (session, opposite role) tr w →
      (sends = [(w, raw)] ↔ msg ≠ .null ∧ Undisturbed parse (session, opposite role) tr)) ∧
    ∀ d ∈ sends, d.2 = raw ∧ holder parse (session, opposite role) tr = some d.1 := by
  obtain ⟨sessionId, role', was, _⟩ := message.of_message
  have hk := (hi.isOpen was).1 (session, role) joined
  obtain ⟨rfl, rfl⟩ := Prod.mk.inj hk
  have hs := hi.sends (k := (session, role)) was parsed update message
  by_cases hn : msg = .null
  · rw [if_pos hn] at hs
    subst hs
    exact ⟨fun w _ => by simp [hn], by simp⟩
  · rw [if_neg hn] at hs
    refine ⟨fun w hw => ?_, fun d hd => ?_⟩
    · have held : st.slot (session, opposite role) = some w ↔
          Undisturbed parse (session, opposite role) tr :=
        (hi.held _ w).trans (and_iff_right hw.latest)
      rw [and_iff_right hn, ← held, hs]
      simp
    · obtain ⟨w, hw, rfl⟩ : ∃ w, st.slot (session, opposite role) = some w ∧ (w, raw) = d := by
        simpa [hs] using hd
      exact ⟨rfl, ((hi.held _ w).mp hw).1⟩

/-- What a socket says before it joins reaches at most a provider of the
session with the empty name. -/
theorem Agrees.unjoined_sends (hi : Agrees parse tr st) {sender : Socket} {raw : String}
    {msg : Json} {sends : List (Socket × String)} (parsed : parse raw = some msg)
    (update : ∀ session role, msg ≠ .join session role)
    (message : Step parse st ⟨.message sender raw, sends⟩ st')
    (unjoined : ∀ k, (sender, k) ∉ joins parse tr) :
    ∀ d ∈ sends, d.2 = raw ∧ (d.1, "", "provider") ∈ joins parse tr := by
  obtain ⟨sessionId, role, was, _⟩ := message.of_message
  have hk : (sessionId, role) = ("", "") :=
    (hi.isOpen was).2.resolve_left (unjoined _)
  obtain ⟨rfl, rfl⟩ := Prod.mk.inj hk
  have hs := hi.sends (k := ("", "")) was parsed update message
  intro d hd
  by_cases hn : msg = .null
  · simp [hs, hn] at hd
  · rw [if_neg hn] at hs
    obtain ⟨w, hw, rfl⟩ : ∃ w, st.slot ("", "provider") = some w ∧ (w, raw) = d := by
      simpa [hs, opposite] using hd
    exact ⟨rfl, holder_joined ((hi.held _ w).mp hw).1⟩

/-- What is said in a session reaches the latest socket of the opposite role,
once and unchanged, if and only if it is not `null` and no socket of that role
has closed since that one joined. Nobody else is sent anything. -/
theorem relay_routes_iff (run : Run (Step parse) (startRelay Socket) tr st)
    (once : JoinsOnce parse tr) (roles : Roles parse tr) {sender : Socket} {raw : String}
    {msg : Json} {sends : List (Socket × String)} (parsed : parse raw = some msg)
    (update : ∀ session role, msg ≠ .join session role)
    (message : Step parse st ⟨.message sender raw, sends⟩ st') :
    (∀ session role, (sender, session, role) ∈ joins parse tr →
      (∀ w, Current parse (session, opposite role) tr w →
        (sends = [(w, raw)] ↔ msg ≠ .null ∧ Undisturbed parse (session, opposite role) tr)) ∧
      ∀ d ∈ sends, d.2 = raw ∧ holder parse (session, opposite role) tr = some d.1) ∧
    ((∀ k, (sender, k) ∉ joins parse tr) →
      ∀ d ∈ sends, d.2 = raw ∧ (d.1, "", "provider") ∈ joins parse tr) := by
  have hi := run_agrees run once roles
  refine ⟨fun session role joined => ?_, fun unjoined => ?_⟩
  · exact hi.joined_sends parsed update message joined
  · exact hi.unjoined_sends parsed update message unjoined

end

section

def consumerJoins : String := "\x7b\"type\":\"join\",\"session\":\"s\",\"role\":\"consumer\"\x7d"

def providerJoins : String := "\x7b\"type\":\"join\",\"session\":\"s\",\"role\":\"provider\"\x7d"

def tick : String := "\x7b\"nonce\":1\x7d"

/-- `JSON.parse` on these three texts. -/
def parseTexts (raw : String) : Option Json :=
  if raw = consumerJoins then some (.join "s" "consumer")
  else if raw = providerJoins then some (.join "s" "provider")
  else if raw = tick then some .other
  else none

/-- A consumer closes, joins again on a new socket, and the provider joins. -/
def rejoined : State Nat × History Nat :=
  perform parseTexts (startRelay Nat)
    [.connection 0, .message 0 consumerJoins, .close 0, .connection 1, .message 1 consumerJoins,
      .connection 2, .message 2 providerJoins]

/-- The same, but the first socket of the consumer closes last. -/
def closedLate : State Nat × History Nat :=
  perform parseTexts (startRelay Nat)
    [.connection 0, .message 0 consumerJoins, .connection 1, .message 1 consumerJoins,
      .connection 2, .message 2 providerJoins, .close 0]

theorem rejoined_joins : joins parseTexts rejoined.2 =
    [(0, "s", "consumer"), (1, "s", "consumer"), (2, "s", "provider")] := by
  decide +kernel

theorem closedLate_joins : joins parseTexts closedLate.2 =
    [(0, "s", "consumer"), (1, "s", "consumer"), (2, "s", "provider")] := by
  decide +kernel

/-- These joins are of three sockets, in the two roles. -/
theorem premises_of_joins {tr : History Nat} (h : joins parseTexts tr =
    [(0, "s", "consumer"), (1, "s", "consumer"), (2, "s", "provider")]) :
    JoinsOnce parseTexts tr ∧ Roles parseTexts tr := by
  constructor
  · rw [JoinsOnce, h]
    decide
  · intro ws session role hj
    rw [h] at hj
    have : ∀ j ∈ [(0, "s", "consumer"), (1, "s", "consumer"), (2, "s", "provider")],
        j.2.2 = "provider" ∨ j.2.2 = "consumer" := by decide
    exact this _ hj

theorem relay_routes_iff_rejoined :
    (rejoined.1.handle parseTexts (.message 2 tick)).map Prod.snd = some [(1, tick)] := by
  obtain ⟨once, roles⟩ := premises_of_joins rejoined_joins
  obtain ⟨⟨st', sends⟩, handled⟩ :
      ∃ p, rejoined.1.handle parseTexts (.message 2 tick) = some p :=
    Option.isSome_iff_exists.mp (by decide +kernel)
  have run : Run (Step parseTexts) (startRelay Nat) rejoined.2 rejoined.1 := perform_run _ _ _
  have routes := (relay_routes_iff run once roles
    (show parseTexts tick = some .other by decide) (by simp)
    (.handle (by decide +kernel) handled)).1 "s" "provider" (by rw [rejoined_joins]; decide)
  have sent := (routes.1 1 ⟨by decide +kernel, by decide +kernel⟩).mpr
    ⟨by decide, by decide +kernel⟩
  rw [handled, Option.map_some, sent]

/-- The late close takes the slot from the consumer that joined again, and
what the provider says goes nowhere. -/
theorem late_close_unregisters : ¬ ∀ (Socket : Type) [DecidableEq Socket]
    (parse : String → Option Json) (st st' : State Socket) (tr : History Socket)
    (sender w : Socket) (raw : String) (msg : Json) (sends : List (Socket × String))
    (session role : String), Run (Step parse) (startRelay Socket) tr st → JoinsOnce parse tr →
      Roles parse tr → parse raw = some msg → (∀ session role, msg ≠ .join session role) →
        Step parse st ⟨.message sender raw, sends⟩ st' →
          (sender, session, role) ∈ joins parse tr →
            Current parse (session, opposite role) tr w → sends = [(w, raw)] := by
  intro h
  obtain ⟨once, roles⟩ := premises_of_joins closedLate_joins
  obtain ⟨⟨st', sends⟩, handled, dropped⟩ := Option.map_eq_some_iff.mp
    (show (closedLate.1.handle parseTexts (.message 2 tick)).map Prod.snd = some [] by
      decide +kernel)
  have run : Run (Step parseTexts) (startRelay Nat) closedLate.2 closedLate.1 := perform_run _ _ _
  have sent := h Nat parseTexts closedLate.1 st' closedLate.2 2 1 tick .other sends "s" "provider"
    run once roles (by decide) (by simp)
    (.handle (by decide +kernel) handled) (by rw [closedLate_joins]; decide)
    ⟨by decide +kernel, by decide +kernel⟩
  rw [show sends = [] from dropped] at sent
  cases sent

end

end SolMesh.Relay
