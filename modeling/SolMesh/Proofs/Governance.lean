import SolMesh.Proofs.Records
import SolMesh.Support.Stewardship

namespace SolMesh
open Outcome Runs

/-- What the authority decides. -/
structure Rules where
  feeBps : UInt16
  challengeWindowSecs : Int64
  mplCoreProgram : Pubkey
  paused : Bool
  deriving DecidableEq

inductive Amendment
  | update (feeBps : Option UInt16) (challengeWindowSecs : Option Int64)
  | pause (paused : Bool)
  deriving DecidableEq

namespace Amendment

def fee? : Amendment → Option UInt16
  | .update feeBps _ => feeBps
  | .pause _ => none

def window? : Amendment → Option Int64
  | .update _ challengeWindowSecs => challengeWindowSecs
  | .pause _ => none

def paused? : Amendment → Option Bool
  | .update _ _ => none
  | .pause paused => some paused

end Amendment

namespace Rules

/-- The fee is at most a tenth, and a dispute has a window. -/
def Fair (r : Rules) : Prop :=
  r.feeBps.toNat ≤ 1000 ∧ 0 < r.challengeWindowSecs.toInt

instance (r : Rules) : Decidable r.Fair :=
  inferInstanceAs (Decidable (_ ∧ _))

def revised (r : Rules) (a : Amendment) : Rules :=
  { feeBps := a.fee?.getD r.feeBps
    challengeWindowSecs := a.window?.getD r.challengeWindowSecs
    mplCoreProgram := r.mplCoreProgram
    paused := a.paused?.getD r.paused }

/-- An amendment replaces what it names, and is refused where the outcome would
not be fair. -/
def amend (a : Amendment) (r : Rules) : Option Rules :=
  if (r.revised a).Fair then some (r.revised a) else none

theorem amend_ok {a : Amendment} {r r' : Rules} :
    amend a r = some r' ↔ (r.revised a).Fair ∧ r.revised a = r' := by
  simp [amend]

end Rules

def Config.rules (c : Config) : Rules where
  feeBps := c.feeBps
  challengeWindowSecs := c.challengeWindowSecs
  mplCoreProgram := c.mplCoreProgram
  paused := c.paused

theorem ConfigOk.fair {rt : Runtime} {x : Pubkey} {c : Config} (h : ConfigOk rt x c) :
    c.rules.Fair :=
  ⟨h.fee, h.window⟩

/-- The address of the program's config. -/
def Runtime.configAddress (rt : Runtime) : Pubkey :=
  ((rt.find .config).map Prod.fst).getD 0

theorem Runtime.configAddress_of_find {rt : Runtime} {k : Pubkey} {b : UInt8}
    (h : rt.find .config = some (k, b)) : rt.configAddress = k := by
  simp [configAddress, h]

/-- What a config grants, and to whom. -/
def AccountData.charter : AccountData → Stewardship.Register Pubkey Rules
  | .config c => some (c.authority, c.rules)
  | _ => none

/-- The rules in force on a ledger. -/
def inForce (rt : Runtime) (l : Ledger) : Stewardship.Register Pubkey Rules :=
  (l rt.configAddress).data.charter

theorem charter_some {d : AccountData} {p : Pubkey} {r : Rules} (h : d.charter = some (p, r)) :
    ∃ c, d = .config c ∧ c.authority = p ∧ c.rules = r := by
  cases d with
  | config c =>
    simp only [AccountData.charter, Option.some.injEq, Prod.mk.injEq] at h
    exact ⟨c, rfl, h⟩
  | _ => cases h

abbrev Decree := Stewardship.Deed Pubkey Amendment Rules

/-- What a call decrees, and who signed it. -/
def Call.decree? {rt : Runtime} : Call rt → Option Decree
  | .initializeConfig a feeBps window mplCore =>
    some (.found a.authority.key ⟨feeBps, window, mplCore, false⟩)
  | .updateConfig a feeBps window => some (.amend a.authority.key (.update feeBps window))
  | .setPaused a paused => some (.amend a.authority.key (.pause paused))
  | _ => none

def Label.decree? {rt : Runtime} : Label rt → Option Decree
  | .call _ c _ => c.decree?
  | .external | .commit => none

/-- The decrees of a history, in order. -/
def decrees {rt : Runtime} (tr : History rt) : List Decree :=
  tr.filterMap fun x => x.label.decree?

theorem charter_of_plain {d : AccountData} (h : d.plain = true) : d.charter = none := by
  cases d <;> first | rfl | cases h

theorem Unaltered.charter {d d' : AccountData} (h : Unaltered d d') : d'.charter = d.charter := by
  cases h with
  | same eq => rw [eq]
  | plain before after => rw [charter_of_plain before, charter_of_plain after]
  | tracked n n' before after => rw [before, after]; rfl

/-- What decrees nothing leaves the rules in force as they are. -/
theorem Step.no_decree {rt : Runtime} {l l' : Ledger} {label : Label rt} (hi : Inv rt l)
    (h : Step rt l label l') (hd : label.decree? = none) (x : Pubkey) :
    (l' x).data.charter = (l x).data.charter := by
  have admin : label.administers = false := by
    cases label with
    | external | commit => rfl
    | call ctx c ts => cases c <;> first | rfl | cases hd
  by_cases listed : label.lists = some x
  · obtain ⟨before, n, after⟩ := h.listed listed
    rw [after]
    cases hx : (l x).data with
    | config c => exact absurd hx (before c)
    | _ => rfl
  · exact (h.unaltered hi admin listed).charter

theorem Config.withFeeBps_ok {c c' : Config} {feeBps : Option UInt16}
    (h : c.withFeeBps feeBps = .ok c') : c' = { c with feeBps := feeBps.getD c.feeBps } := by
  cases feeBps with
  | none => exact (pure_ok.mp h).symm
  | some f =>
    simp only [Config.withFeeBps, bind_ok, require_ok, pure_ok] at h
    obtain ⟨_, _, rfl⟩ := h
    rfl

theorem Config.withChallengeWindow_ok {c c' : Config} {window : Option Int64}
    (h : c.withChallengeWindow window = .ok c') :
    c' = { c with challengeWindowSecs := window.getD c.challengeWindowSecs } := by
  cases window with
  | none => exact (pure_ok.mp h).symm
  | some w =>
    simp only [Config.withChallengeWindow, bind_ok, require_ok, pure_ok] at h
    obtain ⟨_, _, rfl⟩ := h
    rfl

theorem RegistryOk.at_address {rt : Runtime} {l : Ledger} (h : RegistryOk rt l) {x : Pubkey}
    {c : Config} (hc : (l x).data = .config c) : rt.configAddress = x :=
  Runtime.configAddress_of_find (h.config x c hc).1.address

/-- A config rewritten by its authority, within the limits. -/
theorem amends_of_config {rt : Runtime} {l : Ledger} {k p : Pubkey} {c c' : Config}
    {a : Amendment} (hi : Inv rt l) (hi' : Inv rt (l.setData k (.config c')))
    (hc : (l k).data = .config c) (signed : c.authority = p) (kept : c'.authority = p)
    (revised : c'.rules = c.rules.revised a) :
    Stewardship.Step Rules.Fair Rules.amend (inForce rt l) (.amend p a)
      (inForce rt (l.setData k (.config c'))) := by
  have hat := hi.at_address hc
  have hc' : ((l.setData k (.config c')) k).data = .config c' := Ledger.setData_self _ _ _
  have fair := (hi'.config k c' hc').1.fair
  have before : inForce rt l = some (p, c.rules) := by
    rw [inForce, hat, hc, ← signed]
    rfl
  have after : inForce rt (l.setData k (.config c')) = some (p, c'.rules) := by
    rw [inForce, hat, hc', ← kept]
    rfl
  rw [before, after]
  refine .amend (Rules.amend_ok.mpr ⟨?_, revised.symm⟩)
  rwa [← revised]

theorem initializeConfigHandler_founds {rt : Runtime} {l l' : Ledger} {a : InitializeConfig rt}
    {feeBps : UInt16} {window : Int64} {mplCore : Pubkey} {ts : List Transfer}
    (h : initializeConfigHandler rt l a feeBps window mplCore = .ok (l', ts)) :
    Stewardship.Step Rules.Fair Rules.amend (inForce rt l)
      (.found a.authority.key ⟨feeBps, window, mplCore, false⟩) (inForce rt l') := by
  simp only [initializeConfigHandler, bind_ok, findSeeds_ok, require_ok, pure_ok, Prod.mk.injEq,
    exitAccount_writable] at h
  obtain ⟨bump, hfind, l₁, h₁, _, _, _, hfee, _, hwindow, rfl, rfl⟩ := h
  have hat := Runtime.configAddress_of_find hfind
  have before : inForce rt l = none := by
    rw [inForce, hat, (initAccount_ok h₁).fresh]
    rfl
  rw [before, inForce, hat, Ledger.setData_self]
  exact .found _ ⟨UInt16.le_iff_toNat_le.mp hfee, Int64.lt_iff_toInt_lt.mp hwindow⟩

theorem updateConfigHandler_amends {rt : Runtime} {l l' : Ledger} {a : AdminConfig rt}
    {feeBps : Option UInt16} {window : Option Int64} {ts : List Transfer} (hi : Inv rt l)
    (hi' : Inv rt l') (h : updateConfigHandler rt l a feeBps window = .ok (l', ts)) :
    Stewardship.Step Rules.Fair Rules.amend (inForce rt l)
      (.amend a.authority.key (.update feeBps window)) (inForce rt l') := by
  simp only [updateConfigHandler, bind_ok, pure_ok, Prod.mk.injEq, exitAccount_writable] at h
  obtain ⟨c, hload, c₁, h₁, c₂, h₂, rfl, rfl⟩ := h
  obtain ⟨hc, signed, _⟩ := AdminConfig.load_ok.mp hload
  obtain rfl := Config.withFeeBps_ok h₁
  obtain rfl := Config.withChallengeWindow_ok h₂
  exact amends_of_config hi hi' hc signed signed rfl

theorem setPausedHandler_amends {rt : Runtime} {l l' : Ledger} {a : AdminConfig rt}
    {paused : Bool} {ts : List Transfer} (hi : Inv rt l) (hi' : Inv rt l')
    (h : setPausedHandler rt l a paused = .ok (l', ts)) :
    Stewardship.Step Rules.Fair Rules.amend (inForce rt l) (.amend a.authority.key (.pause paused))
      (inForce rt l') := by
  simp only [setPausedHandler, bind_ok, pure_ok, Prod.mk.injEq, exitAccount_writable] at h
  obtain ⟨c, hload, rfl, rfl⟩ := h
  obtain ⟨hc, signed, _⟩ := AdminConfig.load_ok.mp hload
  exact amends_of_config hi hi' hc signed signed rfl

theorem Step.decrees {rt : Runtime} {l l' : Ledger} {label : Label rt} {d : Decree}
    (hi : Inv rt l) (h : Step rt l label l') (hd : label.decree? = some d) :
    Stewardship.Step Rules.Fair Rules.amend (inForce rt l) d (inForce rt l') := by
  have hi' := h.inv hi
  cases h with
  | external | commit => cases hd
  | @call ctx c _ _ ts hp ok =>
    cases c with
    | initializeConfig a f w m =>
      cases hd
      exact initializeConfigHandler_founds ok
    | updateConfig a f w =>
      cases hd
      exact updateConfigHandler_amends hi hi' ok
    | setPaused a p =>
      cases hd
      exact setPausedHandler_amends hi hi' ok
    | _ => cases hd

/-- The rules in force go through the decrees of a history, one after the other. -/
theorem run_rules {rt : Runtime} {l l' : Ledger} {tr : History rt} (hi : Inv rt l)
    (run : Run (Step rt) l tr l') : Run (Stewardship.Step Rules.Fair Rules.amend) (inForce rt l)
      (project (inForce rt) Label.decree? tr) (inForce rt l') :=
  (run.within hi Step.inv).project (inForce rt) Label.decree?
    (fun h hd => h.2.decrees h.1 hd) fun h hd => h.2.no_decree h.1 hd _

/-- What is in force is governed by its founder alone. -/
theorem run_governed {rt : Runtime} {start l : Ledger} {tr : History rt}
    (genesis : Genesis start) (run : Run (Step rt) start tr l) :
    (decrees tr = [] ∧ inForce rt l = none) ∨ ∃ founder founding amendments rules,
      decrees tr = .found founder founding :: amendments.map (.amend founder) ∧
        Stewardship.replay Rules.amend amendments founding = some rules ∧
        inForce rt l = some (founder, rules) := by
  have empty : inForce rt start = none :=
    charter_of_plain (AccountData.plain_of_unowned (genesis _))
  have governed := run_rules (genesis_inv genesis) run
  rw [empty] at governed
  have shown := project_labels (inForce rt) Label.decree? tr
  rcases Stewardship.run_replayed governed with ⟨hnil, hn⟩ | ⟨p, r, as, r', hl, _, hr, hs⟩
  · refine .inl ⟨?_, hn⟩
    rw [decrees, ← shown, hnil]
    rfl
  · exact .inr ⟨p, r, as, r', shown.symm.trans hl, hr, hs⟩

/-- The program's authority stays who it is. -/
theorem run_authority {rt : Runtime} {l l' : Ledger} {tr : History rt} {x : Pubkey} {c : Config}
    (hi : Inv rt l) (run : Run (Step rt) l tr l') (hc : (l x).data = .config c) :
    ∃ c', (l' x).data = .config c' ∧ c'.authority = c.authority := by
  have hat := hi.at_address hc
  have before : inForce rt l = some (c.authority, c.rules) := by
    rw [inForce, hat, hc]
    rfl
  have governed := run_rules hi run
  rw [before] at governed
  obtain ⟨r, hr⟩ := Stewardship.run_steward governed
  obtain ⟨c', hc', howner, _⟩ := charter_some hr
  exact ⟨c', hat ▸ hc', howner⟩

theorem mem_decrees {rt : Runtime} {tr : History rt} {p : Pubkey} {r : Rules}
    (h : Stewardship.Deed.found p r ∈ decrees tr) : ¬ rt.IsPda p := by
  obtain ⟨⟨_, label, _⟩, _, hd⟩ := List.mem_filterMap.mp h
  cases label with
  | external | commit => cases hd
  | call ctx c ts =>
    cases c with
    | initializeConfig a f w m =>
      cases hd
      exact a.authority.property
    | _ => cases hd

/-- The program has no config before `initialize_config`, and from then on
exactly one, at its canonical address. It always belongs to the key that signed
then, and shows what that key's own later calls have made of it, call after
call: nobody else changes a fee, a window or the pause. -/
theorem config_replayed {rt : Runtime} {start l : Ledger} {tr : History rt}
    (genesis : Genesis start) (run : Run (Step rt) start tr l) :
    (decrees tr = [] ∧ ∀ x c, (l x).data ≠ .config c) ∨
      ∃ founder founding amendments config c,
        decrees tr = .found founder founding :: amendments.map (.amend founder) ∧
        ¬ rt.IsPda founder ∧
        Stewardship.replay Rules.amend amendments founding = some c.rules ∧
        (l config).data = .config c ∧ (∀ x d, (l x).data = .config d → x = config) ∧
        rt.find .config = some (config, c.bump) ∧ c.feeVault = rt.feeVault ∧
        c.authority = founder ∧ c.mplCoreProgram = founding.mplCoreProgram ∧
        c.feeBps = (amendments.filterMap Amendment.fee?).getLast?.getD founding.feeBps ∧
        c.challengeWindowSecs = (amendments.filterMap Amendment.window?).getLast?.getD
          founding.challengeWindowSecs ∧
        c.paused = (amendments.filterMap Amendment.paused?).getLast?.getD founding.paused ∧
        c.rules.Fair := by
  have hi := run_inv genesis run
  rcases run_governed genesis run with ⟨hnil, hnone⟩ | ⟨founder, founding, as, r, hd, hr, hs⟩
  · refine .inl ⟨hnil, fun x c hc => ?_⟩
    rw [inForce, hi.at_address hc, hc] at hnone
    cases hnone
  · obtain ⟨c, hc, howner, rfl⟩ := charter_some hs
    have ok := (hi.config _ c hc).1
    obtain ⟨b, hb⟩ := ok.feeVault
    have signed : ¬ rt.IsPda founder := mem_decrees (hd ▸ List.mem_cons_self)
    have only : ∀ x d, (l x).data = .config d → x = rt.configAddress :=
      fun x d hx => (hi.at_address hx).symm
    have core : c.mplCoreProgram = founding.mplCoreProgram := by
      refine Stewardship.replay_keeps (P := fun r : Rules =>
        r.mplCoreProgram = founding.mplCoreProgram) ?_ rfl hr
      intro a r r' kept he
      obtain ⟨_, rfl⟩ := Rules.amend_ok.mp he
      exact kept
    refine .inr ⟨founder, founding, as, _, c, hd, signed, hr, hc, only, ok.address,
      (Runtime.feeVault_of_find hb).symm, howner, core, ?_, ?_, ?_, ok.fair⟩
    · refine Stewardship.replay_last (f := Rules.feeBps) ?_ hr
      intro a r r' he
      obtain ⟨_, rfl⟩ := Rules.amend_ok.mp he
      rfl
    · refine Stewardship.replay_last (f := Rules.challengeWindowSecs) ?_ hr
      intro a r r' he
      obtain ⟨_, rfl⟩ := Rules.amend_ok.mp he
      rfl
    · refine Stewardship.replay_last (f := Rules.paused) ?_ hr
      intro a r r' he
      obtain ⟨_, rfl⟩ := Rules.amend_ok.mp he
      rfl

section
open Localnet Transaction

/-- The authority doubles the fee and pauses; a stranger's attempt fails. -/
def governedRun : Ledger × History Localnet.rt :=
  submit Localnet.start (deploy ++
    [submitted 1 (.updateConfig ⟨config, authority⟩ (some 100) none),
     submitted 2 (.updateConfig ⟨config, stranger⟩ (some 0) none),
     submitted 3 (.setPaused ⟨config, authority⟩ true)])

theorem config_replayed_governed : ∃ c, (governedRun.1 config).data = .config c ∧
    c.authority = 1 ∧ c.feeBps = 100 ∧ c.challengeWindowSecs = 3 ∧ c.paused = true := by
  have run : Run (Step Localnet.rt) Localnet.start governedRun.2 governedRun.1 := submit_run _ _
  have made : decrees governedRun.2 = [.found 1 ⟨50, 3, mplCore, false⟩,
      .amend 1 (.update (some 100) none), .amend 1 (.pause true)] := by decide +kernel
  rcases config_replayed start_genesis run with ⟨hnil, _⟩ |
    ⟨founder, founding, as, x, c, hd, _, _, hc, _, hx, _, howner, _, hfee, hwindow, hpaused, _⟩
  · rw [made] at hnil
    cases hnil
  · rw [made] at hd
    obtain ⟨hfound, hrest⟩ := List.cons.inj hd
    cases hfound
    have amended : [.update (some 100) none, .pause true] = as :=
      List.map_injective_iff.mpr (fun a b h => by cases h; rfl) hrest
    subst amended
    obtain rfl : config = x := find_some hx
    exact ⟨c, hc, howner, hfee, hwindow, hpaused⟩

end

end SolMesh
