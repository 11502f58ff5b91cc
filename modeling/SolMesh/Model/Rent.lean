import SolMesh.Model.Spl

namespace SolMesh

/-- The account size of an SPL mint. -/
def mintSpace : Nat := 82

/-- How many bytes of data an account carries. An asset has no fixed size: the
Core program keeps what it owns rent exempt itself. -/
def AccountData.length? : AccountData → Option Nat
  | .system => some 0
  | .config _ => some Config.space
  | .node _ => some Node.space
  | .session _ => some Session.space
  | .token _ => some tokenAccountSpace
  | .mint => some mintSpace
  | .core _ | .burned => none
  | .foreign length => some length

/-- How the runtime sees an account's balance. -/
inductive RentState
  | uninitialized
  | rentPaying (lamports : UInt64) (length : Nat)
  | rentExempt
  deriving DecidableEq, Repr

def rentState (rt : Runtime) (a : Account) : RentState :=
  if a.lamports = 0 then .uninitialized
  else
    match a.data.length? with
    | none => .rentExempt
    | some n => if rt.minimumBalance n ≤ a.lamports then .rentExempt else .rentPaying a.lamports n

/-- Over a transaction an account may become empty or rent exempt. Below rent
exemption it must have been already, at the same size and with no fewer
lamports. -/
def RentState.allows (pre post : RentState) : Bool :=
  match pre, post with
  | _, .uninitialized | _, .rentExempt => true
  | .rentPaying lamports length, .rentPaying lamports' length' =>
    length' = length && lamports' ≤ lamports
  | _, .rentPaying .. => false

/-- The rule, for the accounts that a transaction may write. -/
def rentKept (rt : Runtime) (l l' : Ledger) (writable : List Pubkey) : Bool :=
  writable.all fun k => (rentState rt (l k)).allows (rentState rt (l' k))

end SolMesh
