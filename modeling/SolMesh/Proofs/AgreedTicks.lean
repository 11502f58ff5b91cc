import SolMesh.Model.Demo
import SolMesh.Proofs.Justification
import SolMesh.Proofs.MessageParity

namespace SolMesh
open Bytes Outcome Client Runs

namespace Demo

/-- The state of pass number `i` of the provider's loop. -/
structure IsTick (deal : Deal) (i : Nat) (s : Client.StateUpdate) : Prop where
  session : s.session = deal.session
  nonce : s.nonce = i
  owed : s.owedToProvider = 120000000 * i
  units : s.unitsConsumed = 250 * i
  fits : s.Fits

/-- The provider's variables say how many passes its loop has made. -/
structure Provider.Ticking (deal : Deal) (p : Provider) : Prop where
  bound : p.n ≤ 5
  owed : p.owed = 120000000 * p.n
  length : p.signed.length = p.n
  ticks : ∀ i s, p.signed[i]? = some s → IsTick deal (i + 1) s

/-- The state that the next pass signs. -/
def Provider.next (deal : Deal) (p : Provider) (ts : Int) : Client.StateUpdate where
  session := deal.session
  nonce := (p.n + 1 : Nat)
  owedToProvider := p.owed + 120000000
  unitsConsumed := (p.n + 1 : Nat) * 250
  timestamp := ts

section
variable {nacl : Nacl} {deal : Deal} {p p' : Provider} {c c' : Consumer} {m reply : Message}
  {ts : Int}

theorem Provider.tick_some : p.tick nacl deal ts = some (p', m) ↔
    p.n < 5 ∧ ∃ msg, serializeState (p.next deal ts) = some msg ∧
      p' = { p with
        n := p.n + 1
        owed := p.owed + 120000000
        signed := p.signed ++ [p.next deal ts] } ∧
      m = ⟨(p.n + 1 : Nat), p.owed + 120000000, (p.n + 1 : Nat) * 250, ts,
        nacl.sign (deal.key .provider) msg, none⟩ := by
  unfold Provider.tick
  split
  · rename_i hlt
    simp only [signState, Option.bind_eq_bind, Option.bind_eq_some_iff, Option.pure_def,
      Option.some.injEq, Prod.mk.injEq]
    constructor
    · intro h
      obtain ⟨sig, ⟨msg, hmsg, rfl⟩, rfl, rfl⟩ := h
      exact ⟨hlt, msg, hmsg, rfl, rfl⟩
    · intro h
      obtain ⟨_, msg, hmsg, rfl, rfl⟩ := h
      exact ⟨_, ⟨msg, hmsg, rfl⟩, rfl, rfl⟩
  · rename_i hge
    constructor
    · intro h
      contradiction
    · intro h
      exact absurd h.1 hge

theorem Provider.start_ticking (deal : Deal) : Provider.start.Ticking deal :=
  ⟨by decide, rfl, rfl, by simp [Provider.start]⟩

/-- Every pass adds the next state. -/
theorem Provider.Ticking.tick (h : p.Ticking deal) (ht : p.tick nacl deal ts = some (p', m)) :
    p'.Ticking deal := by
  obtain ⟨hlt, msg, hmsg, rfl, _⟩ := Provider.tick_some.mp ht
  have howed := h.owed
  have hlen := h.length
  refine ⟨hlt, ?_, by simp [hlen], ?_⟩
  · simp only [howed]
    omega
  · intro i s hs
    rcases Nat.lt_trichotomy i p.signed.length with hi | hi | hi
    · rw [List.getElem?_append_left hi] at hs
      exact h.ticks i s hs
    · rw [hi, List.getElem?_concat_length, Option.some.injEq] at hs
      subst hs
      refine ⟨rfl, ?_, ?_, ?_, fits_of_serializeState hmsg⟩
      · simp only [Provider.next, hi, hlen]
      · simp only [Provider.next, howed, hi, hlen]
        omega
      · simp only [Provider.next, hi, hlen]
        omega
    · rw [List.getElem?_eq_none (by simp; omega)] at hs
      cases hs

theorem Provider.onMessage_some : p.onMessage deal m = some p' ↔
    ∃ sig, m.consumerSig = some sig ∧
      p' = { p with
        latest := some ⟨m.state deal, m.providerSig, sig⟩
        done := p.done || decide (5 ≤ m.nonce) } := by
  simp only [Provider.onMessage, Option.bind_eq_bind, Option.bind_eq_some_iff, Option.pure_def,
    Option.some.injEq]
  exact exists_congr fun _ => and_congr_right fun _ => eq_comm

/-- What comes in changes nothing of the loop. -/
theorem Provider.Ticking.onMessage (h : p.Ticking deal) (hm : p.onMessage deal m = some p') :
    p'.Ticking deal := by
  obtain ⟨_, _, rfl⟩ := Provider.onMessage_some.mp hm
  exact ⟨h.bound, h.owed, h.length, h.ticks⟩

/-- The consumer signs exactly what carries a valid signature of the provider. -/
theorem Consumer.onMessage_some : c.onMessage nacl deal m = some (c', reply) ↔
    ∃ msg, serializeState (m.state deal) = some msg ∧ m.providerSig.length = 64 ∧
      nacl.verify (deal.key .provider) msg m.providerSig = true ∧
      c' = ⟨c.signed ++ [m.state deal]⟩ ∧
      reply = { m with consumerSig := some (nacl.sign (deal.key .consumer) msg) } := by
  simp only [Consumer.onMessage, verifyStateSig, signState, Option.bind_eq_bind,
    Option.bind_eq_some_iff, Option.pure_def, Option.ite_none_right_eq_some, Option.some.injEq,
    Prod.mk.injEq]
  constructor
  · intro h
    obtain ⟨_, ⟨msg, hmsg, hlen, rfl⟩, hvalid, _, ⟨msg', hmsg', rfl⟩, rfl, rfl⟩ := h
    obtain rfl : msg = msg' := by simpa [hmsg] using hmsg'
    exact ⟨msg, hmsg, hlen, hvalid, rfl, rfl⟩
  · intro h
    obtain ⟨msg, hmsg, hlen, hvalid, rfl, rfl⟩ := h
    exact ⟨_, ⟨msg, hmsg, hlen, rfl⟩, hvalid, _, ⟨msg, hmsg, rfl⟩, rfl, rfl⟩

end

theorem mem_bytesOf {signed : List Client.StateUpdate} {msg : List UInt8} :
    msg ∈ bytesOf signed ↔ ∃ s ∈ signed, serializeState s = some msg :=
  List.mem_filterMap

/-- A state whose bytes were signed was signed. -/
theorem mem_of_bytesOf {signed : List Client.StateUpdate} {s : Client.StateUpdate}
    {msg : List UInt8} (h : msg ∈ bytesOf signed) (hs : serializeState s = some msg) :
    s ∈ signed := by
  obtain ⟨t, ht, htmsg⟩ := mem_bytesOf.mp h
  rwa [serializeState_inj hs htmsg]

section
variable {rt : Runtime} {nacl : Nacl} {deal : Deal} {w w' : Wild}
  {tr : List (Transition Wild (Deed rt))}

/-- The chain's part of what has happened. -/
def onLedger (tr : List (Transition Wild (Deed rt))) : History rt :=
  project Wild.ledger Deed.label? tr

theorem run_onLedger (run : Run (Wild.Step nacl deal) w tr w') :
    Run (SolMesh.Step rt) w.ledger (onLedger tr) w'.ledger := by
  refine run.project Wild.ledger Deed.label? ?_ ?_
  · intro a e b d h hn
    cases h with
    | chain step _ =>
      cases hn
      exact step
    | tick | toConsumer | toProvider => cases hn
  · intro a e b h hn
    cases h with
    | chain => cases hn
    | tick | toConsumer | toProvider => rfl

/-- What was not forged then is not forged when more has been signed. -/
theorem Unforged.mono {ctx : TxContext} (h : Unforged rt deal w ctx)
    (hp : ∀ s ∈ w.provider.signed, s ∈ w'.provider.signed)
    (hc : ∀ s ∈ w.consumer.signed, s ∈ w'.consumer.signed) : Unforged rt deal w' ctx := by
  intro u hu
  obtain ⟨provider, consumer⟩ := h u hu
  constructor
  · intro hshow
    obtain ⟨s, hs, hmsg⟩ := mem_bytesOf.mp (provider hshow)
    exact mem_bytesOf.mpr ⟨s, hp s hs, hmsg⟩
  · intro hshow
    obtain ⟨s, hs, hmsg⟩ := mem_bytesOf.mp (consumer hshow)
    exact mem_bytesOf.mpr ⟨s, hc s hs, hmsg⟩

/-- The consumer signs after the provider, and both before the chain. -/
structure Agreed (deal : Deal) (tr : List (Transition Wild (Deed rt))) (w : Wild) : Prop where
  ticking : w.provider.Ticking deal
  countersigned : ∀ s ∈ w.consumer.signed, s ∈ w.provider.signed
  unforged : ∀ x ∈ onLedger tr, ∀ ctx c ts, x.label = .call ctx c ts → Unforged rt deal w ctx

/-- A step off the chain, by which more may be signed. -/
theorem Agreed.offChain {d : Deed rt} (h : Agreed deal tr w) (hd : d.label? = none)
    (ticking : w'.provider.Ticking deal) (hc : ∀ s ∈ w'.consumer.signed, s ∈ w'.provider.signed)
    (hp : ∀ s ∈ w.provider.signed, s ∈ w'.provider.signed)
    (hcs : ∀ s ∈ w.consumer.signed, s ∈ w'.consumer.signed) :
    Agreed deal (tr ++ [⟨w, d, w'⟩]) w' := by
  refine ⟨ticking, hc, ?_⟩
  have hsame : onLedger (tr ++ [⟨w, d, w'⟩]) = onLedger tr := by simp [onLedger, project, hd]
  rw [hsame]
  intro x hx ctx c ts hl
  exact (h.unforged x hx ctx c ts hl).mono hp hcs

theorem Agreed.step {d : Deed rt} (h : Agreed deal tr w) (hstep : Wild.Step nacl deal w d w') :
    Agreed deal (tr ++ [⟨w, d, w'⟩]) w' := by
  cases hstep with
  | @tick ts p m pass =>
    obtain ⟨_, _, _, hp, _⟩ := Provider.tick_some.mp pass
    have grows : ∀ s ∈ w.provider.signed, s ∈ p.signed := by
      intro s hs
      rw [hp]
      exact List.mem_append_left _ hs
    exact h.offChain rfl (h.ticking.tick pass) (fun s hs => grows s (h.countersigned s hs)) grows
      fun s hs => hs
  | @toConsumer m reply c unforged handled =>
    obtain ⟨msg, hmsg, _, hvalid, rfl, _⟩ := Consumer.onMessage_some.mp handled
    have hsigned := mem_of_bytesOf (unforged msg hmsg hvalid) hmsg
    refine h.offChain rfl h.ticking ?_ (fun s hs => hs) fun s hs => List.mem_append_left _ hs
    exact forall_mem_snoc h.countersigned hsigned
  | @toProvider m p handled =>
    have ticking := h.ticking.onMessage handled
    obtain ⟨_, _, rfl⟩ := Provider.onMessage_some.mp handled
    exact h.offChain rfl ticking h.countersigned (fun s hs => hs) fun s hs => hs
  | @chain l' label step unforged =>
    refine ⟨h.ticking, h.countersigned, ?_⟩
    have hmore : onLedger (tr ++ [⟨w, .chain label, { w with ledger := l' }⟩]) =
        onLedger tr ++ [⟨w.ledger, label, l'⟩] := by
      simp [onLedger, project, Deed.label?]
    rw [hmore]
    refine forall_mem_snoc (fun x hx ctx c ts hl => ?_) fun ctx c ts hl => ?_
    · exact (h.unforged x hx ctx c ts hl).mono (fun s hs => hs) fun s hs => hs
    · exact (unforged ctx c ts hl).mono (fun s hs => hs) fun s hs => hs

theorem run_agreed {start : Ledger} (run : Run (Wild.Step nacl deal) (Wild.start start) tr w) :
    Agreed deal tr w := by
  refine run.history (fun tr w => Agreed deal tr w) ?_ fun _ h hs => h.step hs
  exact ⟨Provider.start_ticking deal, by simp [Wild.start, Consumer.start],
    by simp [onLedger, project]⟩

/-- What a transaction presents it shows. -/
theorem shows_of_presented {ctx : TxContext} {key : Pubkey} {msg : List UInt8}
    (h : Presented rt ctx key msg) : Shows rt ctx key msg := by
  obtain ⟨_, _, ix, hix, _, sigAt, _, _, hsig, _, _, _, _, hv⟩ := h
  exact ⟨ix, List.mem_of_getElem? hix, sigAt, hsig, hv⟩

/-- Whatever the chain has accepted for the session, both parties have signed. -/
theorem Agreed.accepted {start : Ledger} {s : Session} (h : Agreed deal tr w)
    (genesis : Genesis start) (run : Run (SolMesh.Step rt) start (onLedger tr) w.ledger)
    (hs : (w.ledger deal.session).data = .session s) (hc : s.consumer = deal.key .consumer) :
    ∀ u ∈ acceptedFor deal.session (life deal.session (onLedger tr)),
      ∃ t ∈ w.consumer.signed, t.Same u := by
  intro u hu
  obtain ⟨x, hx, ctx, c, ts, hl, _, _, cosigned⟩ := accepted_cosigned genesis run hs u hu
  have hcons := cosigned.consumer
  rw [hc] at hcons
  have hbytes := (h.unforged x (mem_life hx) ctx c ts hl u cosigned.domain).2
    (shows_of_presented hcons)
  obtain ⟨t, ht, hmsg⟩ := mem_bytesOf.mp hbytes
  obtain ⟨v, same, hv⟩ := serializeState_exists (fits_of_serializeState hmsg)
  rw [hmsg, Option.some.injEq] at hv
  obtain rfl := SolMesh.StateUpdate.toMessageBytes_inj hv
  exact ⟨t, ht, same⟩

/-- What the chain has on record is a pass of the provider's loop, that of the
session's nonce, and the money has gone where that pass sends it. -/
structure Reached (rt : Runtime) (k : Pubkey) (p : Provider) (s : Session) (tr : History rt) :
    Prop where
  made : s.lastNonce.toNat ≤ p.n
  units : s.pendingUnits.toNat = 250 * s.lastNonce.toNat
  pending : s.status = .closing → s.pendingPayout.toNat = 120000000 * s.lastNonce.toNat
  settled : s.status ≠ .closing → s.settledToProvider.toNat = 120000000 * s.lastNonce.toNat
  earned : paidTo k .provider tr + paidTo k .fee tr = s.settledToProvider.toNat
  refunded : s.status.terminal = true →
    paidTo k .consumer tr + 120000000 * s.lastNonce.toNat = s.deposited.toNat

/-- The update accepted last fixes the numbers of the channel. -/
theorem Agreed.numbers {s : Session} {a : Channel.State SolMesh.StateUpdate}
    (h : Agreed deal tr w) (agree : s.Matches a)
    (known : ∀ u, a.last = some u → ∃ t ∈ w.consumer.signed, t.Same u) :
    s.lastNonce.toNat ≤ w.provider.n ∧ a.due = 120000000 * s.lastNonce.toNat ∧
      s.pendingUnits.toNat = 250 * s.lastNonce.toNat := by
  have hnonce := agree.nonce
  have hunits := agree.units
  cases hl : a.last with
  | none =>
    rw [Channel.State.nonce_none hl] at hnonce
    rw [hl, Option.elim_none] at hunits
    rw [Channel.State.due_none hl, ← hnonce, ← hunits]
    exact ⟨Nat.zero_le _, rfl, rfl⟩
  | some u =>
    obtain ⟨t, ht, same⟩ := known u hl
    obtain ⟨i, hi⟩ := List.mem_iff_getElem?.mp (h.countersigned t ht)
    have tick := h.ticking.ticks i t hi
    have hlt := (List.getElem?_eq_some_iff.mp hi).1
    rw [h.ticking.length] at hlt
    have hn : u.nonce.toNat = i + 1 := by
      have hc := same.nonce.trans tick.nonce
      omega
    have ho := same.owedToProvider.trans tick.owed
    have hu := same.unitsConsumed.trans tick.units
    rw [Channel.State.nonce_some hl] at hnonce
    have hnonce : u.nonce.toNat = s.lastNonce.toNat := hnonce
    rw [hl, Option.elim_some] at hunits
    have hdue : a.due = u.owedToProvider.toNat := Channel.State.due_some hl
    rw [← hunits, hdue, ← hnonce, hn]
    exact ⟨hlt, by omega, by omega⟩

/-- Whatever the relay does and whoever uses the chain, as long as signatures
cannot be forged the chain only ever accepts states for the session that the
provider's loop made and the consumer signed after it: what it has on record
and has paid out is 0.12 SOL and 250 units for each pass. -/
theorem only_agreed_ticks {start : Ledger} (genesis : Genesis start)
    (run : Run (Wild.Step nacl deal) (Wild.start start) tr w) (s : Session)
    (hs : (w.ledger deal.session).data = .session s) (hc : s.consumer = deal.key .consumer) :
    w.provider.n ≤ 5 ∧
      (∀ u ∈ acceptedFor deal.session (life deal.session (onLedger tr)),
        ∃ t ∈ w.consumer.signed, t ∈ w.provider.signed ∧ t.Same u ∧
          IsTick deal u.nonce.toNat t) ∧
      Reached rt deal.session w.provider s (life deal.session (onLedger tr)) := by
  have h := run_agreed run
  have chain : Run (SolMesh.Step rt) start (onLedger tr) w.ledger := run_onLedger run
  have accepted := h.accepted genesis chain hs hc
  obtain ⟨a, ctr, htr⟩ := run_tracked genesis chain deal.session s hs
  have valid := Channel.run_valid htr.run
  have books := Channel.run_conserved htr.run
  have hearned := htr.earned
  have hrefunded := htr.refunded
  have hpay := books.payouts
  have hsettled := htr.agree.settled
  have hphase := htr.agree.phase
  rw [earned_eq] at hearned
  obtain ⟨made, hdue, units⟩ := h.numbers htr.agree fun u hu =>
    accepted u (List.mem_of_getLast? ((htr.last chain).trans hu))
  refine ⟨h.ticking.bound, fun u hu => ?_, made, units, fun hst => ?_, fun hst => ?_, by omega,
    fun hst => ?_⟩
  · obtain ⟨t, ht, same⟩ := accepted u hu
    have hsigned := h.countersigned t ht
    obtain ⟨i, hi⟩ := List.mem_iff_getElem?.mp hsigned
    have tick := h.ticking.ticks i t hi
    have hn : u.nonce.toNat = i + 1 := by
      have hboth := same.nonce.trans tick.nonce
      omega
    exact ⟨t, ht, hsigned, same, hn ▸ tick⟩
  · rw [← htr.agree.pending hst, hdue]
  · have hopen : a.phase ≠ .closing := by
      rw [hphase]
      cases hstatus : s.status with
      | closing => exact absurd hstatus hst
      | «open» | settled | cancelled | expired => simp [SessionStatus.phase]
    rw [← hsettled, valid.paid hopen, hdue]
  · have hclosed : a.phase = .closed := by
      rw [hphase]
      exact (SessionStatus.phase_closed _).mpr hst
    have hall := books.closed hclosed
    have hpaid := valid.paid (by simp [hclosed])
    omega

/-- Events of the chain while the parties wait. -/
def waiting (p : Provider) (c : Consumer) (tr : History rt) : List (Transition Wild (Deed rt)) :=
  tr.map fun x => ⟨⟨x.before, p, c⟩, .chain x.label, ⟨x.after, p, c⟩⟩

theorem run_waiting {l l' : Ledger} {tr : History rt} {p : Provider} {c : Consumer}
    (run : Run (SolMesh.Step rt) l tr l')
    (unforged : ∀ x ∈ tr, ∀ ctx call ts, x.label = .call ctx call ts →
      Unforged rt deal ⟨x.before, p, c⟩ ctx) :
    Run (Wild.Step nacl deal) ⟨l, p, c⟩ (waiting p c tr) ⟨l', p, c⟩ := by
  induction run with
  | nil => exact .nil _
  | @snoc l' l'' tr label run last ih =>
    have earlier := ih fun x hx => unforged x (List.mem_append_left _ hx)
    have latest := unforged ⟨l', label, l''⟩ (by simp)
    rw [waiting, List.map_append, ← waiting]
    exact earlier.snoc (.chain last latest)

end

namespace Signing
open Localnet Transaction

/-- The small chain again, where a signature of a state for session 7 repeats
the numbers of the state in front of the key. -/
def rt : Runtime :=
  { Localnet.rt with
    ed25519Verify := fun pk msg sig =>
      msg.take 40 = SolMesh.stateDomain.toList ++ (session 7).toList ∧ sig = msg.drop 40 ++ pk }

def nacl : Nacl where
  sign key msg := msg.drop 40 ++ key.toList
  verify key msg sig := rt.ed25519Verify key.toList msg sig

def deal : Deal where
  session := session 7
  sessionId := "7"
  key
    | .provider => 2
    | .consumer => 3

def signer (s : Signer Localnet.rt) : Signer rt := ⟨s.key, s.property⟩

def call (now : Int64) (signatures : List (Instruction rt)) (c : Call rt) : Transaction rt :=
  ⟨signatures ++ [⟨programId, [], [.call c]⟩], now⟩

def deploy : List (Transaction rt) :=
  [call 0 [] (.initializeConfig ⟨config, feeVault, signer authority⟩ 50 3 mplCore),
   call 0 [] (.registerNode ⟨config, node, signer asset, signer provider, mplCore⟩ "demo-node"
     "https://solmesh.test/n.json" 1000 "us-east" 0),
   call 0 [] (.openSession ⟨config, node, session 7, signer consumer⟩ 7 1000000000 3600 1)]

/-- The session is open. -/
def opened : Ledger × History rt := submit start deploy

/-- The parties after one tick. -/
def tickState : Client.StateUpdate := ⟨session 7, 1, 120000000, 250, 0⟩

def ticked : Provider := ⟨1, 120000000, none, false, [tickState]⟩

def tickMessage : Message :=
  ⟨1, 120000000, 250, 0, nacl.sign 2 ((serializeState tickState).getD []), none⟩

def agreed : Consumer := ⟨[tickState]⟩

def signature (key : Pubkey) : Instruction rt :=
  let msg := (serializeState tickState).getD []
  ⟨ed25519ProgramId, ed25519Header 72 ++ (key.toList ++ (nacl.sign key msg ++ msg)), []⟩

/-- The co-signed tick is settled. -/
def settled : Ledger × History rt :=
  submit opened.1 [call 5 [signature 2, signature 3] (.settleSession
    ⟨config, node, session 7, 2, 3, 16, feeVault, signer stranger, mplCore, ixSysvarId⟩
    ⟨SolMesh.stateDomain, session 7, 1, 120000000, 250, 0⟩)]

/-- The record it leaves. -/
def record : Session :=
  { Localnet.opened 7 1000000000 none 0 with
    settledToProvider := 120000000
    lastNonce := 1
    pendingUnits := 250
    expiry := 3600
    status := .settled }

/-- Wherever the key stands in an instruction, the numbers in front of it were
signed. -/
def shown (key : Pubkey) (signed : List Client.StateUpdate) (ctx : TxContext) : Bool :=
  ctx.instructions.all fun ix => (List.range ix.data.length).all fun a =>
    slice ix.data (a + 32) (a + 64) ≠ key.toList ||
      SolMesh.stateDomain.toList ++ (session 7).toList ++ slice ix.data a (a + 32) ∈
        bytesOf signed

theorem signed_of_shown {key : Pubkey} {signed : List Client.StateUpdate} {ctx : TxContext}
    {msg : List UInt8} (h : shown key signed ctx = true) (hs : Shows rt ctx key msg) :
    msg ∈ bytesOf signed := by
  obtain ⟨ix, hix, a, ha, hv⟩ := hs
  simp only [rt, decide_eq_true_eq] at hv
  obtain ⟨hdomain, hsig⟩ := hv
  have hlook := List.all_eq_true.mp (List.all_eq_true.mp h ix hix) a (List.mem_range.mpr (by omega))
  have hlen : (msg.drop 40).length = 32 := by
    have hsize := congrArg List.length hsig
    rw [slice_length ha, List.length_append, key.length_toList] at hsize
    omega
  have hrest : slice ix.data a (a + 32) = msg.drop 40 := by
    have hcut : slice ix.data a (a + 32) = (slice ix.data a (a + 64)).take 32 := by
      simp [slice, List.take_drop, List.take_take]
    rw [hcut, hsig, List.take_left' hlen]
  have hkey : slice ix.data (a + 32) (a + 64) = key.toList := by
    have hcut : slice ix.data (a + 32) (a + 64) = (slice ix.data a (a + 64)).drop 32 := by
      simp [slice, List.drop_drop]
    rw [hcut, hsig, List.drop_left' hlen]
  simp only [hkey, hrest, ne_eq, not_true_eq_false, decide_false, Bool.false_or,
    decide_eq_true_eq, ← hdomain, List.take_append_drop] at hlook
  exact hlook

def clean (p : Provider) (c : Consumer) (label : Label rt) : Bool :=
  match label with
  | .call ctx _ _ => shown 2 p.signed ctx && shown 3 c.signed ctx
  | .external | .commit => true

theorem unforged_of_clean {p : Provider} {c : Consumer} {tr : History rt}
    (h : tr.all (fun x => clean p c x.label) = true) :
    ∀ x ∈ tr, ∀ ctx call ts, x.label = .call ctx call ts →
      Unforged rt deal ⟨x.before, p, c⟩ ctx := by
  intro x hx ctx call ts hl u _
  have hclean := List.all_eq_true.mp h x hx
  rw [hl] at hclean
  obtain ⟨provider, consumer⟩ := Bool.and_eq_true_iff.mp hclean
  exact ⟨signed_of_shown provider, signed_of_shown consumer⟩

/-- One pass is countersigned and settled: the consumer gets the rest back. -/
theorem only_agreed_ticks_settled : ∃ (w : Wild) (tr : List (Transition Wild (Deed rt))),
    Run (Wild.Step nacl deal) (Wild.start start) tr w ∧
      paidTo deal.session .consumer (life deal.session (onLedger tr)) +
        120000000 * record.lastNonce.toNat = record.deposited.toNat := by
  have opening : Run (SolMesh.Step rt) start opened.2 opened.1 := submit_run _ _
  have settling : Run (SolMesh.Step rt) opened.1 settled.2 settled.1 := submit_run _ _
  have before : Run (Wild.Step nacl deal) (Wild.start start)
      (waiting .start .start opened.2) ⟨opened.1, .start, .start⟩ :=
    run_waiting opening (unforged_of_clean (by decide +kernel))
  have tick : Wild.Step nacl deal ⟨opened.1, .start, .start⟩ (.tick 0 : Deed rt)
      ⟨opened.1, ticked, .start⟩ :=
    .tick (Provider.tick_some.mpr ⟨by decide, _, rfl, rfl, rfl⟩)
  have sign : Wild.Step nacl deal ⟨opened.1, ticked, .start⟩ (.toConsumer tickMessage : Deed rt)
      ⟨opened.1, ticked, agreed⟩ := by
    refine .toConsumer (fun msg hmsg _ => ?_)
      (Consumer.onMessage_some.mpr ⟨_, rfl, by decide +kernel, by decide +kernel, rfl, rfl⟩)
    exact mem_bytesOf.mpr ⟨tickState, List.mem_singleton_self _, hmsg⟩
  have after : Run (Wild.Step nacl deal) ⟨opened.1, ticked, agreed⟩
      (waiting ticked agreed settled.2) ⟨settled.1, ticked, agreed⟩ :=
    run_waiting settling (unforged_of_clean (by decide +kernel))
  have run := ((before.append (Run.single tick)).append (Run.single sign)).append after
  have reached := (only_agreed_ticks start_genesis run record (by decide +kernel) rfl).2.2
  have ended : record.status.terminal = true := by decide
  exact ⟨_, _, run, reached.refunded ended⟩

end Signing

end Demo

end SolMesh
