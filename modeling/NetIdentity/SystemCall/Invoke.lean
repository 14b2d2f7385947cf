import NetIdentity.Action

/-!
# What the system program does

The effect of each call on the ledger. A call that fails half way leaves what it has done: an account that
was created for a payer who then cannot pay keeps its data.
-/

namespace NetIdentity

namespace SystemCall

open NetIdentity.Action

/-- Only an account without data that still belongs to the system program is given data. -/
def runAllocate (address : Address) (space : Nat) : Action Unit := do
  let target ← account address
  if target.data ≠ [] ∨ target.owner ≠ Address.systemProgram then throw (.runtime (.custom 0))
  else put address { target with data := List.replicate space 0 }

def runAssign (address owner : Address) : Action Unit := do
  let target ← account address
  put address { target with owner := owner }

/-- An account with data does not pay, and nobody pays more than he has. The lamports are taken before they
are given. -/
def runTransfer (source target : Address) (lamports : UInt64) : Action Unit := do
  let payer ← account source
  if payer.data ≠ [] then throw (.runtime .invalidArgument)
  else if payer.lamports < lamports then throw (.runtime (.custom 1))
  else
    put source { payer with lamports := payer.lamports - lamports }
    let payee ← account target
    if UInt64.size ≤ payee.lamports.toNat + lamports.toNat then throw (.runtime .arithmeticOverflow)
    else put target { payee with lamports := payee.lamports + lamports }

/-- An account is created only where there are no lamports yet. -/
def runCreateAccount (payer target : Address) (lamports : UInt64) (space : Nat) (owner : Address) :
    Action Unit := do
  let account ← account target
  if 0 < account.lamports then throw (.runtime (.custom 0))
  else
    runAllocate target space
    runAssign target owner
    runTransfer payer target lamports

def run : SystemCall → Action Unit
  | .createAccount payer target lamports space owner => runCreateAccount payer target lamports space owner
  | .transfer source target lamports => runTransfer source target lamports
  | .allocate address space => runAllocate address space
  | .assign address owner => runAssign address owner

/-- Make a call. It is noted once the runtime lets it through, whatever comes of it. -/
def invoke (inUse : Option Address) (signer : Option SignerSeeds) (passed : List Mention)
    (call : SystemCall) : Action Unit := do
  ask (call.authorize inUse signer passed)
  note call
  call.run

end SystemCall

end NetIdentity
