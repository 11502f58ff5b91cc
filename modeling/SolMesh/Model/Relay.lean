import Mathlib.Logic.Function.Basic
import SolMesh.Support.Runs

namespace SolMesh.Relay
open Runs

/-- What `JSON.parse` makes of a payload, as far as the relay looks at it: a
message of type `join`, or any value of another kind. -/
inductive Json
  | null
  | join (session role : String)
  | other
  deriving DecidableEq, Repr

/-- The sockets of a session under their roles. -/
abbrev Channel (Socket : Type) := String → Option Socket

/-- A socket with the variables that its handlers close over. -/
inductive Connection
  | unused
  | open (sessionId role : String)
  | closed
  deriving DecidableEq, Repr

structure State (Socket : Type) where
  running : Bool
  connections : Socket → Connection
  channels : String → Option (Channel Socket)

inductive Event (Socket : Type)
  | connection (ws : Socket)
  | message (ws : Socket) (raw : String)
  | close (ws : Socket)
  deriving DecidableEq, Repr

/-- The server listens, and `channels` is empty. -/
def startRelay (Socket : Type) : State Socket where
  running := true
  connections := fun _ => .unused
  channels := fun _ => none

namespace State

variable {Socket : Type} [DecidableEq Socket] (parse : String → Option Json) (st : State Socket)

/-- A socket that is not open drops what it is given. -/
def send (ws : Socket) (data : String) : List (Socket × String) :=
  match st.connections ws with
  | .open _ _ => [(ws, data)]
  | .unused | .closed => []

/-- The handler of a message, with what it sends. It throws on a text that is
not JSON and on `null`, which has no `type`, and that ends the process. -/
def onMessage (ws : Socket) (sessionId role raw : String) :
    State Socket × List (Socket × String) :=
  match parse raw with
  | none | some .null => ({ st with running := false }, [])
  | some (.join session role) =>
    let ch := (st.channels session).getD fun _ => none
    ({ st with
        connections := Function.update st.connections ws (.open session role)
        channels :=
          Function.update st.channels session (some (Function.update ch role (some ws))) }, [])
  | some .other =>
    match st.channels sessionId with
    | none => (st, [])
    | some ch =>
      let peer := if role = "provider" then ch "consumer" else ch "provider"
      (st, peer.elim [] fun p => st.send p raw)

/-- The slot of the socket is cleared, whichever socket it holds. -/
def onClose (ws : Socket) (sessionId role : String) : State Socket :=
  { st with
    connections := Function.update st.connections ws .closed
    channels :=
      match st.channels sessionId with
      | none => st.channels
      | some ch => Function.update st.channels sessionId (some (Function.update ch role none)) }

/-- Every connection is a new socket, and only an open one has further events. -/
def handle : Event Socket → Option (State Socket × List (Socket × String))
  | .connection ws =>
    match st.connections ws with
    | .unused =>
      some ({ st with connections := Function.update st.connections ws (.open "" "") }, [])
    | .open _ _ | .closed => none
  | .message ws raw =>
    match st.connections ws with
    | .open sessionId role => some (st.onMessage parse ws sessionId role raw)
    | .unused | .closed => none
  | .close ws =>
    match st.connections ws with
    | .open sessionId role => some (st.onClose ws sessionId role, [])
    | .unused | .closed => none

end State

/-- An event with what the relay sent on its occasion. -/
structure Occurrence (Socket : Type) where
  event : Event Socket
  sends : List (Socket × String)
  deriving DecidableEq, Repr

inductive Step {Socket : Type} [DecidableEq Socket] (parse : String → Option Json) :
    State Socket → Occurrence Socket → State Socket → Prop
  | handle {st st' : State Socket} {event : Event Socket} {sends : List (Socket × String)}
      (running : st.running = true) (handled : st.handle parse event = some (st', sends)) :
      Step parse st ⟨event, sends⟩ st'

abbrev History (Socket : Type) := List (Transition (State Socket) (Occurrence Socket))

/-- Let the events happen one after the other. One that cannot happen is
passed over. -/
def perform {Socket : Type} [DecidableEq Socket] (parse : String → Option Json)
    (st : State Socket) : List (Event Socket) → State Socket × History Socket
  | [] => (st, [])
  | event :: events =>
    if st.running = true then
      match st.handle parse event with
      | some (st', sends) =>
        ((perform parse st' events).1, ⟨st, ⟨event, sends⟩, st'⟩ :: (perform parse st' events).2)
      | none => perform parse st events
    else (st, [])

theorem perform_run {Socket : Type} [DecidableEq Socket] (parse : String → Option Json)
    (st : State Socket) (events : List (Event Socket)) :
    Run (Step parse) st (perform parse st events).2 (perform parse st events).1 := by
  induction events generalizing st with
  | nil => exact .nil st
  | cons event events ih =>
    unfold perform
    split
    · rename_i running
      split
      · rename_i st' sends handled
        exact (Run.single (.handle running handled)).append (ih st')
      · exact ih st
    · exact .nil st

end SolMesh.Relay
