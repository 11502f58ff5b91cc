import SolMesh.Model.Ed25519

namespace SolMesh
open Outcome Words

/-- Validate a co-signed update against a session, and establish that both
parties' signatures over its exact bytes are in the transaction. -/
def verifyCosignedState (ctx : TxContext) (session : Session) (sessionKey : Pubkey)
    (state : StateUpdate) : Outcome Unit := do
  require (state.hasValidDomain = true) (.custom .domainMismatch)
  require (state.domain = stateDomain) (.custom .domainMismatch)
  require (state.session = sessionKey) (.custom .signerMismatch)
  require (state.owedToProvider ≤ session.deposited) (.custom .owedExceedsDeposit)
  require (session.settledToProvider ≤ state.owedToProvider) (.custom .owedDecreased)
  let msg := state.toMessageBytes
  verifyEd25519Signature ctx session.provider msg
  verifyEd25519Signature ctx session.consumer msg

/-- Move lamports out of an account of the program. Both balances are borrowed
at once, so the two accounts must differ. -/
def pdaTransferLamports (l : Ledger) (src dst : Pubkey) (amount : UInt64) : Outcome Ledger :=
  if amount = 0 then return l
  else do
    require (src ≠ dst) (.runtime .accountBorrowFailed)
    let x ← okOr (checkedSub (l src).lamports amount) (.custom .mathOverflow)
    let y ← okOr (checkedAdd (l dst).lamports amount) (.custom .mathOverflow)
    return (l.setLamports src x).setLamports dst y

/-- The product is taken in 128 bits; the quotient is cast back to 64. -/
def feeFor (payout : UInt64) (feeBps : UInt16) : Outcome UInt64 := do
  let product := payout.toNat * feeBps.toNat
  require (product < 2 ^ 128) (.custom .mathOverflow)
  require (bpsDenominator.toNat ≠ 0) (.custom .mathOverflow)
  return UInt64.ofNat (product / bpsDenominator.toNat)

/-- Reputation for a clean settlement, scaled by the units consumed. -/
def reputationReward (units : UInt64) : UInt32 :=
  let bonus := (min (units / repUnitScale) repMaxBonus.toUInt64).toUInt32
  repBaseReward + bonus

inductive Role
  | provider
  | fee
  | consumer
  deriving DecidableEq, Repr

/-- A payout as an instruction performed it: from which account of which
session to whom. An amount of 0 moves nothing. -/
structure Transfer where
  session : Pubkey
  role : Role
  source : Pubkey
  dest : Pubkey
  amount : UInt64
  deriving DecidableEq, Repr

/-- What a successful instruction leaves: the accounts and its payouts. -/
abbrev Effect := Ledger × List Transfer

end SolMesh
