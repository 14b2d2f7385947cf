import NetIdentity.Command
import NetIdentity.Program

/-!
# The accounts of a command

Every command declares the accounts it works on, in order. First all of them are taken: one may be missing,
may lack a signature, or may not be the program it is taken for. Then the rules are checked account by
account: the record has to be the record of this program, and what will be changed has to be writable.
Accounts beyond the declared ones are ignored.
-/

namespace NetIdentity

namespace Program

def takeAccount (slot : Slot) : List Mention → Except Fault (Mention × List Mention)
  | [] => .error (.missingAccount slot)
  | mention :: rest => .ok (mention, rest)

def takeSigner (slot : Slot) (mentions : List Mention) : Except Fault (Mention × List Mention) := do
  let (mention, rest) ← takeAccount slot mentions
  if mention.signer then .ok (mention, rest) else .error (.notSigned slot)

def takeSystemProgram (ledger : Ledger) (mentions : List Mention) :
    Except Fault (Mention × List Mention) := do
  let (mention, rest) ← takeAccount .systemProgram mentions
  if mention.address ≠ Address.systemProgram then
    .error (.wrongSystemProgram mention.address Address.systemProgram)
  else if ¬ (ledger mention.address).executable then .error .systemProgramNotExecutable
  else .ok (mention, rest)

def checkRecordAddress (record : Mention) : Except Fault Unit :=
  if record.address = recordAddress then .ok ()
  else .error (.wrongRecordAddress record.address recordAddress)

def checkWritable (slot : Slot) (mention : Mention) : Except Fault Unit :=
  if mention.writable then .ok () else .error (.notWritable slot)

/-- The record and the payer of `establish`. -/
def establishAccounts (ledger : Ledger) (mentions : List Mention) : Except Fault (Mention × Mention) := do
  let (record, rest) ← takeAccount .record mentions
  let (payer, rest) ← takeSigner .signer rest
  let _ ← takeSystemProgram ledger rest
  checkRecordAddress record
  checkWritable .record record
  checkWritable .signer payer
  return (record, payer)

def roleSlot : Role → Slot
  | .admin => .admin
  | .feeHandler => .feeHandler

def amendmentAccounts (role : Role) (mentions : List Mention) : Except Fault (Mention × Mention) := do
  let (record, rest) ← takeAccount .record mentions
  let (signer, _) ← takeSigner (roleSlot role) rest
  checkRecordAddress record
  checkWritable .record record
  return (record, signer)

def queryAccounts (mentions : List Mention) : Except Fault Mention := do
  let (record, _) ← takeAccount .record mentions
  checkRecordAddress record
  return record

end Program

end NetIdentity
