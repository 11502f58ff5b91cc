import SolMesh.Proofs.Exchange
import SolMesh.Proofs.SdkSettlement

namespace SolMesh.Demo
open Bytes Client Runs

/-- Bytes of the right number are passed on as they are. -/
theorem bytesArg_some {n : Nat} {bs : List UInt8} (h : bs.length = n) :
    ∃ x, bytesArg n bs = some x ∧ x.toList = bs := by
  have hpow : (2 : Nat) ^ (8 * n) = 256 ^ n := by rw [Nat.pow_mul]
  refine ⟨_, if_pos h, ?_⟩
  rw [FixedBytes.toList, BitVec.toNat_ofNat, hpow, leBytes_mod, ← h, leBytes_ofLe]

section
variable {Socket : Type} [DecidableEq Socket] {wire : Wire} {nacl : Nacl} {deal : Deal}
  {socket : Side → Socket} {st : Net Socket} {tr : List (Transition (Net Socket) (Move Socket))}

omit [DecidableEq Socket] in
/-- The provider is done with the fifth tick and no other. -/
theorem Exchanged.latest_of_done {dropped received : List Client.StateUpdate}
    (h : Exchanged nacl deal dropped received st) (bound : st.provider.signed.length ≤ 5)
    (done : st.provider.done = true) :
    ∃ s, IsTick deal 5 s ∧ st.provider.latest = some (cosigned nacl deal s) := by
  rw [h.done, List.any_eq_true] at done
  obtain ⟨s, hs, hnonce⟩ := done
  have hnonce : 5 ≤ s.nonce := by simpa using hnonce
  obtain ⟨rest, hrest⟩ : dropped ++ received <+: st.provider.signed :=
    ((List.prefix_append_right_inj dropped).mpr h.returned).trans h.countersigned
  obtain ⟨i, hi⟩ := List.mem_iff_getElem?.mp hs
  have hlt := (List.getElem?_eq_some_iff.mp hi).1
  have hall : (dropped ++ received)[dropped.length + i]? = some s := by
    rw [List.getElem?_append_right (Nat.le_add_right _ _), Nat.add_sub_cancel_left, hi]
  have hsigned : st.provider.signed[dropped.length + i]? = some s := by
    rw [← hrest, List.getElem?_append_left (by rw [List.length_append]; omega), hall]
  have htick := h.ticks _ s hsigned
  have hlen : dropped.length + received.length ≤ 5 := by
    rw [← hrest, List.length_append, List.length_append] at bound
    omega
  have hindex := htick.nonce
  have hfour : dropped.length + i = 4 := by omega
  have hlast : received.getLast? = some s := by
    rw [List.getLast?_eq_getElem?, show received.length - 1 = i by omega, hi]
  rw [hfour] at htick
  refine ⟨s, htick, ?_⟩
  rw [h.latest, hlast, Option.map_some]

/-- The demo's options settle the session, with the signatures as they are. -/
theorem Cosigned.settleOpts_some {rt : Runtime} (payer : Signer rt) (node asset mplCore : Pubkey)
    {c : Cosigned} (hp : c.providerSig.length = 64) (hc : c.consumerSig.length = 64) :
    ∃ opts, c.settleOpts deal payer node asset mplCore = some opts ∧ opts.node = node ∧
      opts.asset = asset ∧ opts.provider = deal.key .provider ∧
      opts.consumer = deal.key .consumer ∧ opts.session = deal.session ∧
      opts.mplCore = mplCore ∧ opts.state = c.state ∧ opts.checkpoint = false ∧
      opts.providerSig.toList = c.providerSig ∧ opts.consumerSig.toList = c.consumerSig := by
  obtain ⟨providerSig, hprovider, hpl⟩ := bytesArg_some hp
  obtain ⟨consumerSig, hconsumer, hcl⟩ := bytesArg_some hc
  simp only [Cosigned.settleOpts, hprovider, hconsumer, Option.bind_eq_bind, Option.bind_some,
    Option.pure_def, Option.some.injEq]
  exact ⟨_, rfl, rfl, rfl, rfl, rfl, rfl, rfl, rfl, rfl, hpl, hcl⟩

/-- The session is still open, has nothing of the last tick yet and can pay for
it, to receivers that can take it. -/
structure Awaits (rt : Runtime) (deal : Deal) (l : Ledger) (s : Session) (n : Node) (cfg : Config) : Prop where
  session : (l deal.session).data = .session s
  node : (l s.node).data = .node n
  provider : s.provider = deal.key .provider
  consumer : s.consumer = deal.key .consumer
  status : s.status = .open
  mint : s.mint = none
  behind : s.lastNonce.toNat < 5
  keeps : s.settledToProvider.toNat ≤ 600000000
  covers : 600000000 ≤ s.deposited.toNat
  units : n.totalUnits.toNat + 1250 < 2 ^ 64
  earnings : n.totalSettled.toNat + 600000000 < 2 ^ 64
  room : ∀ r, (l (s.payee cfg.feeVault r)).lamports.toNat + s.unsettled < 2 ^ 64
  receivable : Receivable rt l s cfg 600000000 false

omit [DecidableEq Socket] in
/-- The fifth tick is payable. -/
theorem Awaits.payable {rt : Runtime} {l : Ledger} {s : Session} {n : Node} {cfg : Config}
    {t : Client.StateUpdate} (h : Awaits rt deal l s n cfg) (tick : IsTick deal 5 t) :
    Sdk.Payable none deal.session s cfg n t := by
  have hnonce := tick.nonce
  have howed := tick.owed
  have hunits := tick.units
  have behind := h.behind
  have keeps := h.keeps
  have covers := h.covers
  have units := h.units
  have earnings := h.earnings
  have net : netOf (t.owedToProvider.toNat - s.settledToProvider.toNat) cfg.feeBps ≤ 600000000 := by
    rw [netOf]
    omega
  exact ⟨h.status, h.mint, tick.session, by omega, by omega, by omega, by omega, by omega⟩

/-- Once the provider is done with the exchange, its client can settle the
session in any state of the chain in which it is still open: the last tick is
paid in full and the rest goes back. -/
theorem demo_settles {rt : Runtime} {start l : Ledger} {history : History rt}
    (apart : Apart deal socket) (works : ∀ side, nacl.Works (deal.key side))
    (accepted : ∀ side, nacl.Accepted rt (deal.key side))
    (exchange : Run (Net.Step wire nacl deal socket) (Net.start Socket) tr st)
    (done : st.provider.done = true) (genesis : Genesis start)
    (run : Run (Step rt) start history l) {s : Session} {n : Node} {cfg : Config} {x : Pubkey}
    (awaits : Awaits rt deal l s n cfg) (hc : (l x).data = .config cfg) (payer : Signer rt)
    (discriminator : String → List UInt8) (now : Int64) :
    ∃ c opts ixs l' tr', st.provider.latest = some c ∧ IsTick deal 5 c.state ∧
      c.settleOpts deal payer s.node s.asset cfg.mplCoreProgram = some opts ∧
      Sdk.settle discriminator opts = some ixs ∧
      (Transaction.mk ixs now).exec l = .ok (l', tr') ∧
      Sdk.Paid rt l' tr' deal.session s cfg n c.state false := by
  have hi := run_inv genesis run
  obtain ⟨g, orderly⟩ := run_orderly apart exchange
  have bound : st.provider.signed.length ≤ 5 := by
    rw [orderly.ticking.length]
    exact orderly.ticking.bound
  obtain ⟨t, tick, latest⟩ := orderly.exchanged.latest_of_done bound done
  obtain ⟨u, _, hmsg⟩ := serializeState_exists tick.fits
  have hbytes : bytes t = u.toMessageBytes := by rw [bytes, hmsg, Option.getD_some]
  obtain ⟨opts, hopts, node, asset, provider, consumer, session, mplCore, state, checkpoint,
    providerSig, consumerSig⟩ := Cosigned.settleOpts_some payer s.node s.asset cfg.mplCoreProgram
      (c := cosigned nacl deal t) ((works .provider).length _) ((works .consumer).length _)
  have own : opts.For l deal.session s cfg :=
    ⟨node, asset, provider.trans awaits.provider.symm, consumer.trans awaits.consumer.symm,
      session, mplCore, awaits.room⟩
  have signed : Sdk.Countersigned rt opts.state ⟨opts.provider, opts.providerSig⟩
      ⟨opts.consumer, opts.consumerSig⟩ := by
    rw [cosigned, hbytes] at providerSig consumerSig
    refine ⟨u.toMessageBytes, state ▸ hmsg, ?_, ?_⟩
    · rw [Sdk.Valid, providerSig, provider]
      exact accepted .provider _
    · rw [Sdk.Valid, consumerSig, consumer]
      exact accepted .consumer _
  have payable : Sdk.Payable none deal.session s cfg n opts.state := state ▸ awaits.payable tick
  have receivable : Receivable rt l s cfg opts.state.owedToProvider.toNat opts.checkpoint := by
    have howed : opts.state.owedToProvider = 600000000 := state ▸ tick.owed
    rw [howed, checkpoint]
    exact awaits.receivable
  obtain ⟨ixs, l', tr', made, exec⟩ := (Sdk.settle_executes hi awaits.session awaits.node hc
    own).mpr ⟨signed, payable, receivable⟩
  have paid := Sdk.settle_paid hi awaits.session awaits.node hc own made exec
  rw [state, checkpoint] at paid
  exact ⟨_, opts, ixs, l', tr', latest, tick, hopts, made, exec, paid⟩

end

namespace Settling
open Localnet Transaction

/-- The small chain's signatures. -/
def nacl : Nacl where
  sign key _ := key.toList ++ List.replicate 32 0
  verify key msg sig := Localnet.rt.ed25519Verify key.toList msg sig

def deal : Deal where
  session := Localnet.session 7
  sessionId := "8qbHbw2BbbTHBW1sbeqakYXVKRQM8Ne7pLK7m6CVfeR"
  key
    | .provider => 2
    | .consumer => 3

/-- The parties' connections are the first two. -/
def socket : Side → Nat
  | .provider => 0
  | .consumer => 1

/-- A session of one SOL. -/
def opened : Ledger × History Localnet.rt :=
  submit Localnet.start (deploy ++ [openSol 7 1000000000])

def record : Session :=
  Localnet.opened 7 1000000000 none 0

/-- The consumer gets 0.4 SOL back. -/
theorem demo_settles_opened : ∃ (ixs : List (Instruction Localnet.rt)) (l' : Ledger)
    (tr' : History Localnet.rt), (Transaction.mk ixs 5).exec opened.1 = .ok (l', tr') ∧
      (paidTo (Localnet.session 7) .consumer tr' : Int) = 400000000 := by
  have works : ∀ side, nacl.Works (deal.key side) := fun side =>
    ⟨fun _ => by simp [nacl, FixedBytes.length_toList], fun _ => by simp [nacl, Localnet.rt]⟩
  have accepted : ∀ side, nacl.Accepted Localnet.rt (deal.key side) := by
    intro side msg
    simp [nacl, Localnet.rt]
  have apart : Apart deal socket := ⟨(by decide), (by decide)⟩
  obtain ⟨tr, st, t, exchange, completed⟩ := run_completed text apart works
  have run : Run (Step Localnet.rt) Localnet.start opened.2 opened.1 := submit_run _ _
  have awaits : Awaits Localnet.rt deal opened.1 record registeredNode deployedConfig := by
    refine ⟨by decide +kernel, by decide +kernel, rfl, rfl, rfl, rfl, by decide, by decide,
      by decide, by decide, by decide, fun role => ?_, fun role => ?_⟩
    · cases role <;> decide +kernel
    · cases role <;> exact mayHold_wallet (by decide +kernel) (by decide +kernel)
  have hc : (opened.1 Localnet.config).data = .config deployedConfig := by decide +kernel
  obtain ⟨c, _, ixs, l', tr', _, tick, _, _, exec, paid⟩ := demo_settles apart works accepted
    exchange completed.done start_genesis run awaits hc Localnet.provider (fun _ => []) 5
  have refund := paid.refund
  rw [tick.owed] at refund
  exact ⟨ixs, l', tr', exec, refund⟩

end Settling

end SolMesh.Demo
