import NetIdentity.Address.Derived
import NetIdentity.Fault
import NetIdentity.Ledger

/-!
# Calls to the system program

Only the system program makes accounts, and only it moves lamports out of accounts that belong to it. A
program that needs this calls it with some of the accounts it was itself passed.

Whoever pays without holding data is taken to belong to the system program. The owner of a payer is not
looked at: if such an account has been given to another program, the runtime takes no lamports out of it, and
what is said here about its payments does not apply.

Before the system program runs, the runtime looks at the call: nobody else may be using the data of an
account that the call will change, and every account has to be passed with the flags that the call needs.
A program signs for an address derived from its own by giving the seeds. `authorize` says which refusal
comes first.
-/

namespace NetIdentity

inductive SystemCall where
  /-- Make an account with so many lamports, taken from the payer, and so much data. -/
  | createAccount (payer target : Address) (lamports : UInt64) (space : Nat) (owner : Address)
  | transfer (source target : Address) (lamports : UInt64)
  | allocate (address : Address) (space : Nat)
  | assign (address owner : Address)
deriving DecidableEq

namespace SystemCall

/-- The accounts of a call, each with the flags that the call needs. -/
def parties : SystemCall → List Mention
  | .createAccount payer target _ _ _ => [⟨payer, true, true⟩, ⟨target, true, true⟩]
  | .transfer source target _ => [⟨source, true, true⟩, ⟨target, false, true⟩]
  | .allocate address _ => [⟨address, true, true⟩]
  | .assign address _ => [⟨address, true, true⟩]

end SystemCall

/-- Seeds by which a program signs for an address derived from its own. -/
structure SignerSeeds where
  program : Address
  seeds : List Bytes

/-- Seeds that derive no address are refused. -/
def SignerSeeds.signed (derived : Option Address) : Except RuntimeError (Option Address) :=
  match derived with
  | some address => .ok (some address)
  | none => .error .invalidSeeds

/-- The address that the seeds sign for. Without seeds there is none. -/
def SignerSeeds.address? : Option SignerSeeds → Except RuntimeError (Option Address)
  | none => .ok none
  | some signer => signed (Address.derived? signer.seeds signer.program)

namespace SystemCall

/-- How an account is passed to a call: the first mention of it counts, and an account that is not
mentioned has no flags. -/
def passedAs (passed : List Mention) (address : Address) : Mention :=
  (passed.find? fun mention => mention.address == address).getD ⟨address, false, false⟩

def authorizeParty (signed : Option Address) (passed : List Mention) (party : Mention) :
    Except RuntimeError Unit :=
  let mention := passedAs passed party.address
  if party.writable ∧ ¬ mention.writable then .error .immutable
  else if party.signer ∧ ¬ mention.signer ∧ signed ≠ some party.address then .error .missingSignature
  else .ok ()

def authorizeParties (signed : Option Address) (passed : List Mention) :
    List Mention → Except RuntimeError Unit
  | [] => .ok ()
  | party :: rest => do
      authorizeParty signed passed party
      authorizeParties signed passed rest

/-- Whether the runtime lets a call through. Somebody may be reading the data of the account `inUse`. -/
def authorize (inUse : Option Address) (signer : Option SignerSeeds) (passed : List Mention)
    (call : SystemCall) : Except RuntimeError Unit :=
  if call.parties.any fun party => party.writable && inUse == some party.address then .error .dataInUse
  else do
    let signed ← SignerSeeds.address? signer
    authorizeParties signed passed call.parties

end SystemCall

end NetIdentity
