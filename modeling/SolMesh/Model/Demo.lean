import SolMesh.Model.Relay
import SolMesh.Model.Sdk

namespace SolMesh.Demo
open Bytes Client Runs

inductive Side
  | provider
  | consumer
  deriving DecidableEq, Repr

def Side.role : Side → String
  | provider => "provider"
  | consumer => "consumer"

/-- The session the demo is about, with its name on the relay and its parties. -/
structure Deal where
  session : Pubkey
  sessionId : String
  key : Side → Pubkey

/-- What the handlers read out of a message, after `BigInt` and the decoding of
the hex digits. -/
structure Message where
  nonce : Int
  owed : Int
  units : Int
  ts : Int
  providerSig : List UInt8
  consumerSig : Option (List UInt8)
  deriving DecidableEq, Repr

/-- The texts on the sockets: what `JSON.stringify` writes, what the relay
finds in a text, and what the parties read out of it. -/
structure Wire where
  stringify : Message → String
  join : String → String → String
  json : String → Option Relay.Json
  read : String → Option Message
  json_stringify : ∀ m, json (stringify m) = some .other
  json_join : ∀ session role, json (join session role) = some (.join session role)
  read_stringify : ∀ m, read (stringify m) = some m

/-- The detached signatures of tweetnacl, by the public key that belongs to the
secret one. -/
structure Nacl where
  sign : Pubkey → List UInt8 → List UInt8
  verify : Pubkey → List UInt8 → List UInt8 → Bool

/-- Signatures made with a key are accepted under it. -/
structure Nacl.Works (nacl : Nacl) (key : Pubkey) : Prop where
  length : ∀ msg, (nacl.sign key msg).length = 64
  verified : ∀ msg, nacl.verify key msg (nacl.sign key msg) = true

/-- And the chain's precompile accepts them as well. -/
def Nacl.Accepted (nacl : Nacl) (rt : Runtime) (key : Pubkey) : Prop :=
  ∀ msg, rt.ed25519Verify key.toList msg (nacl.sign key msg) = true

def Message.state (deal : Deal) (m : Message) : Client.StateUpdate where
  session := deal.session
  nonce := m.nonce
  owedToProvider := m.owed
  unitsConsumed := m.units
  timestamp := m.ts

def signState (nacl : Nacl) (key : Pubkey) (s : Client.StateUpdate) : Option (List UInt8) := do
  let msg ← serializeState s
  return nacl.sign key msg

/-- It throws on a signature of the wrong size. -/
def verifyStateSig (nacl : Nacl) (key : Pubkey) (s : Client.StateUpdate) (sig : List UInt8) :
    Option Bool := do
  let msg ← serializeState s
  if sig.length = 64 then some (nacl.verify key msg sig) else none

/-- A state with the signatures of both parties. -/
structure Cosigned where
  state : Client.StateUpdate
  providerSig : List UInt8
  consumerSig : List UInt8
  deriving DecidableEq, Repr

/-- What the demo hands to the client's `settle` in the end. Its signatures have
64 bytes. -/
def Cosigned.settleOpts {rt : Runtime} (deal : Deal) (payer : Signer rt)
    (node asset mplCore : Pubkey) (c : Cosigned) : Option (Sdk.SettleOpts rt) := do
  let providerSig ← bytesArg 64 c.providerSig
  let consumerSig ← bytesArg 64 c.consumerSig
  return {
    payer := payer
    node := node
    asset := asset
    provider := deal.key .provider
    consumer := deal.key .consumer
    session := deal.session
    mplCore := mplCore
    state := c.state
    providerSig := providerSig
    consumerSig := consumerSig
    checkpoint := false }

/-- The provider's variables, with the states it has signed so far. -/
structure Provider where
  n : Nat
  owed : Int
  latest : Option Cosigned
  done : Bool
  signed : List Client.StateUpdate

/-- The states the consumer has signed so far. -/
structure Consumer where
  signed : List Client.StateUpdate

def Provider.start : Provider := ⟨0, 0, none, false, []⟩

def Consumer.start : Consumer := ⟨[]⟩

/-- One pass of the provider's loop, at the time `ts`. -/
def Provider.tick (nacl : Nacl) (deal : Deal) (p : Provider) (ts : Int) :
    Option (Provider × Message) :=
  if p.n < 5 then do
    let n := p.n + 1
    let owed := p.owed + 120000000
    let state : Client.StateUpdate :=
      { session := deal.session
        nonce := n
        owedToProvider := owed
        unitsConsumed := n * 250
        timestamp := ts }
    let providerSig ← signState nacl (deal.key .provider) state
    return ({ p with n := n, owed := owed, signed := p.signed ++ [state] },
      ⟨n, owed, n * 250, ts, providerSig, none⟩)
  else none

/-- The consumer verifies the provider's signature, signs as well and returns
the message. It throws where it does not sign. -/
def Consumer.onMessage (nacl : Nacl) (deal : Deal) (c : Consumer) (m : Message) :
    Option (Consumer × Message) := do
  let state := m.state deal
  let valid ← verifyStateSig nacl (deal.key .provider) state m.providerSig
  if valid then do
    let consumerSig ← signState nacl (deal.key .consumer) state
    return (⟨c.signed ++ [state]⟩, { m with consumerSig := some consumerSig })
  else none

/-- The provider takes what comes as co-signed. `Buffer.from` throws where there
is no signature of the consumer. -/
def Provider.onMessage (deal : Deal) (p : Provider) (m : Message) : Option Provider := do
  let consumerSig ← m.consumerSig
  return { p with
    latest := some ⟨m.state deal, m.providerSig, consumerSig⟩
    done := p.done || decide (5 ≤ m.nonce) }

/-- Both parties with their sockets, whose messages keep their order, and the
relay, which other sockets use as well. -/
structure Net (Socket : Type) where
  provider : Provider
  consumer : Consumer
  relay : Relay.State Socket
  up : Side → List String
  down : Side → List String

/-- What happens in the exchange. Everything but `other` is a move of the
parties or of the relay on their behalf. -/
inductive Move (Socket : Type)
  | join (side : Side)
  | tick (ts : Int)
  | relayed (side : Side)
  | received (side : Side)
  | other (event : Relay.Event Socket)

def Move.own {Socket : Type} : Move Socket → Bool
  | join _ | tick _ | relayed _ | received _ => true
  | other _ => false

section
variable {Socket : Type} [DecidableEq Socket]

def Net.start (Socket : Type) : Net Socket where
  provider := .start
  consumer := .start
  relay := Relay.startRelay Socket
  up := fun _ => []
  down := fun _ => []

/-- What the relay sends arrives behind what is still on its way. -/
def Net.deliver (socket : Side → Socket) (st : Net Socket) (sends : List (Socket × String)) :
    Side → List String :=
  fun side => st.down side ++ (sends.filter fun p => p.1 = socket side).map Prod.snd

/-- Somebody else's socket does not join the parties' session. -/
def Foreign (wire : Wire) (deal : Deal) (socket : Side → Socket) (event : Relay.Event Socket) :
    Prop :=
  match event with
  | .connection ws | .close ws => ∀ side, ws ≠ socket side
  | .message ws raw => (∀ side, ws ≠ socket side) ∧
      ∀ role, wire.json raw ≠ some (.join deal.sessionId role)

/-- The demo in steps: a socket opens and joins, the provider's loop makes a
pass, and a text moves on from the front of its queue. -/
inductive Net.Step (wire : Wire) (nacl : Nacl) (deal : Deal) (socket : Side → Socket) :
    Net Socket → Move Socket → Net Socket → Prop
  | join {st : Net Socket} {side : Side} {relay : Relay.State Socket}
      {sends : List (Socket × String)}
      (step : Relay.Step wire.json st.relay ⟨.connection (socket side), sends⟩ relay) :
      Step wire nacl deal socket st (.join side)
        { st with
          relay := relay
          up := Function.update st.up side (st.up side ++ [wire.join deal.sessionId side.role]) }
  | tick {st : Net Socket} {ts : Int} {p : Provider} {m : Message}
      (ready : ∀ side, st.relay.connections (socket side) ≠ .unused)
      (pass : st.provider.tick nacl deal ts = some (p, m)) :
      Step wire nacl deal socket st (.tick ts)
        { st with
          provider := p
          up := Function.update st.up .provider (st.up .provider ++ [wire.stringify m]) }
  | relayed {st : Net Socket} {side : Side} {raw : String} {rest : List String}
      {relay : Relay.State Socket} {sends : List (Socket × String)}
      (front : st.up side = raw :: rest)
      (step : Relay.Step wire.json st.relay ⟨.message (socket side) raw, sends⟩ relay) :
      Step wire nacl deal socket st (.relayed side)
        { st with
          relay := relay
          up := Function.update st.up side rest
          down := st.deliver socket sends }
  | countersigned {st : Net Socket} {raw : String} {rest : List String} {m reply : Message}
      {c : Consumer} (front : st.down .consumer = raw :: rest) (read : wire.read raw = some m)
      (handled : st.consumer.onMessage nacl deal m = some (c, reply)) :
      Step wire nacl deal socket st (.received .consumer)
        { st with
          consumer := c
          up := Function.update st.up .consumer (st.up .consumer ++ [wire.stringify reply])
          down := Function.update st.down .consumer rest }
  | cosigned {st : Net Socket} {raw : String} {rest : List String} {m : Message} {p : Provider}
      (front : st.down .provider = raw :: rest) (read : wire.read raw = some m)
      (handled : st.provider.onMessage deal m = some p) :
      Step wire nacl deal socket st (.received .provider)
        { st with
          provider := p
          down := Function.update st.down .provider rest }
  | other {st : Net Socket} {event : Relay.Event Socket} {relay : Relay.State Socket}
      {sends : List (Socket × String)} (foreign : Foreign wire deal socket event)
      (step : Relay.Step wire.json st.relay ⟨event, sends⟩ relay) :
      Step wire nacl deal socket st (.other event)
        { st with
          relay := relay
          down := st.deliver socket sends }

end

/-- The parties and the chain, with a network between them that may do as it
likes. -/
structure Wild where
  ledger : Ledger
  provider : Provider
  consumer : Consumer

inductive Deed (rt : Runtime)
  | tick (ts : Int)
  | toConsumer (m : Message)
  | toProvider (m : Message)
  | chain (label : Label rt)

def Deed.label? {rt : Runtime} : Deed rt → Option (Label rt)
  | .chain label => some label
  | .tick _ | .toConsumer _ | .toProvider _ => none

/-- The bytes behind the signatures of a party. -/
def bytesOf (signed : List Client.StateUpdate) : List (List UInt8) :=
  signed.filterMap serializeState

/-- The transaction has a valid signature of the key on these bytes in it. -/
def Shows (rt : Runtime) (ctx : TxContext) (key : Pubkey) (msg : List UInt8) : Prop :=
  ∃ ix ∈ ctx.instructions, ∃ a, a + 64 ≤ ix.data.length ∧
    rt.ed25519Verify key.toList msg (slice ix.data a (a + 64)) = true

/-- No update is shown with the signature of a party that has not signed it. -/
def Unforged (rt : Runtime) (deal : Deal) (w : Wild) (ctx : TxContext) : Prop :=
  ∀ u : SolMesh.StateUpdate, u.domain = SolMesh.stateDomain →
    (Shows rt ctx (deal.key .provider) u.toMessageBytes →
      u.toMessageBytes ∈ bytesOf w.provider.signed) ∧
    (Shows rt ctx (deal.key .consumer) u.toMessageBytes →
      u.toMessageBytes ∈ bytesOf w.consumer.signed)

/-- The network may drop, repeat, reorder and invent messages, and anybody may
use the chain. Only signatures cannot be made without the key. -/
inductive Wild.Step {rt : Runtime} (nacl : Nacl) (deal : Deal) : Wild → Deed rt → Wild → Prop
  | tick {w : Wild} {ts : Int} {p : Provider} {m : Message}
      (pass : w.provider.tick nacl deal ts = some (p, m)) :
      Step nacl deal w (.tick ts) { w with provider := p }
  | toConsumer {w : Wild} {m reply : Message} {c : Consumer}
      (unforged : ∀ msg, serializeState (m.state deal) = some msg →
        nacl.verify (deal.key .provider) msg m.providerSig = true →
          msg ∈ bytesOf w.provider.signed)
      (handled : w.consumer.onMessage nacl deal m = some (c, reply)) :
      Step nacl deal w (.toConsumer m) { w with consumer := c }
  | toProvider {w : Wild} {m : Message} {p : Provider}
      (handled : w.provider.onMessage deal m = some p) :
      Step nacl deal w (.toProvider m) { w with provider := p }
  | chain {w : Wild} {l' : Ledger} {label : Label rt} (step : SolMesh.Step rt w.ledger label l')
      (unforged : ∀ ctx c ts, label = .call ctx c ts → Unforged rt deal w ctx) :
      Step nacl deal w (.chain label) { w with ledger := l' }

/-- Nothing has been signed yet. -/
def Wild.start (l : Ledger) : Wild := ⟨l, .start, .start⟩

end SolMesh.Demo
