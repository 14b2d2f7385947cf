import NetIdentity.Environment
import NetIdentity.Record.Stored
import NetIdentity.SystemCall.Invoke

/-!
# The record's account

A program has one place for its record: the address derived from a fixed seed. The record is there once the
account at that address belongs to the program and holds data; lamports that somebody sent there before do
not count. From then on the account is never made again, and every write keeps the size of its data.

Reading depends on nothing but the owner and the data of the account. Writing goes through the runtime, so
it fails while somebody else is using the data (`inUse`), and the system calls by which the account is made
may be refused.
-/

namespace NetIdentity

namespace Store

open NetIdentity.Action

def seed : Bytes := utf8 "config"

/-- Where a program keeps its record, and the canonical bump of that address. -/
def location? (program : Address) : Option (Address × UInt8) :=
  Address.findDerived? [seed] program

def isCreated (program : Address) (account : Account) : Bool :=
  account.owner = program ∧ account.data ≠ []

def load (program : Address) (account : Account) : Except Fault (Option Record) :=
  if isCreated program account then
    match Record.read account.data with
    | .ok r => .ok (some r)
    | .error fault => .error fault
  else .ok none

def loadInitialized (program : Address) (account : Account) : Except Fault Record :=
  match load program account with
  | .ok (some r) => .ok r
  | .ok none => .error .notInitialized
  | .error fault => .error fault

/-- Write a record over the data of an account. What fits is written even when not all of it does. -/
def write (inUse : Option Address) (address : Address) (r : Record) : Action Unit := do
  if inUse = some address then throw (.runtime .dataInUse)
  else
    let target ← account address
    let (data, verdict) := Record.writeOver target.data r
    put address { target with data := data }
    check verdict

def save (inUse : Option Address) (program address : Address) (r : Record) : Action Unit := do
  if isCreated program (← account address) then write inUse address r
  else throw (.fault .notInitialized)

/-- Make the account where there are no lamports: the payer puts in what the data needs. -/
def createUnfunded (inUse : Option Address) (program : Address) (signer : SignerSeeds)
    (target payer : Mention) (minimum : UInt64) : Action Unit :=
  (SystemCall.createAccount payer.address target.address minimum Record.space program).invoke inUse
    (some signer) [payer, target]

/-- The payer adds what is missing, if anything is. -/
def topUp (inUse : Option Address) (target payer : Mention) (missing : UInt64) : Action Unit :=
  if 0 < missing then
    (SystemCall.transfer payer.address target.address missing).invoke inUse none [payer, target]
  else pure ()

/-- Make the account where lamports have been sent before: the payer adds what is missing, then the account
is given its data and its owner. -/
def createFunded (inUse : Option Address) (program : Address) (signer : SignerSeeds)
    (target payer : Mention) (missing : UInt64) : Action Unit := do
  topUp inUse target payer missing
  (SystemCall.allocate target.address Record.space).invoke inUse (some signer) [target]
  (SystemCall.assign target.address program).invoke inUse (some signer) [target]

def makeAccount (inUse : Option Address) (program : Address) (signer : SignerSeeds)
    (target payer : Mention) (minimum lamports : UInt64) : Action Unit :=
  if lamports = 0 then createUnfunded inUse program signer target payer minimum
  else
    createFunded inUse program signer target payer (if minimum ≤ lamports then 0 else minimum - lamports)

/-- Make the record's account at `target` and write the first record. The program signs for the account by
its seed and the given bump. -/
def create (env : Environment) (inUse : Option Address) (program : Address) (target payer : Mention)
    (bump : UInt8) (r : Record) : Action Unit := do
  let before ← account target.address
  if isCreated program before then throw (.fault .alreadyInitialized)
  else
    let minimum ← ask (env.minimumBalance Record.space)
    makeAccount inUse program ⟨program, [seed, [bump]]⟩ target payer minimum before.lamports
    write inUse target.address r

end Store

end NetIdentity
