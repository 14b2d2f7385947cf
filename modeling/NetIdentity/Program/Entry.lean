import NetIdentity.Program.Handlers

/-!
# The entry point

An instruction is bytes for a program and a list of accounts. It goes through four gates: it is meant for
this program, its data selects a command, the argument of the command can be read, and the accounts are the
right ones. Then the command runs. Each gate has its own faults, and a later gate is not looked at before an
earlier one has let the instruction through.

Data that starts with the mark of the framework goes another way: the framework answers it. No command is
selected by that mark, so it does not matter that it is looked at first.

`Report` is all that can be seen from outside: the answer or the failure, the log, the calls to the system
program, and the ledger as the call left it.
-/

namespace NetIdentity

structure Instruction where
  program : Address
  data : Bytes
  accounts : List Mention
deriving DecidableEq

/-- The data starts with the mark of the framework. -/
def Instruction.ForFramework (instruction : Instruction) : Prop :=
  instruction.data.take 8 = Framework.mark

instance (instruction : Instruction) : Decidable instruction.ForFramework :=
  inferInstanceAs (Decidable (_ = _))

namespace Command

/-- The accounts of a command as a client lists them. -/
def mentions (record signer systemProgram : Address) : Command → List Mention
  | .establish _ => [⟨record, false, true⟩, ⟨signer, true, true⟩, ⟨systemProgram, false, false⟩]
  | .amend _ => [⟨record, false, true⟩, ⟨signer, true, false⟩]
  | .query _ => [⟨record, false, false⟩]

/-- The instruction by which a signer sends a command to the program. -/
def instruction (command : Command) (signer : Address) : Instruction where
  program := Program.id
  data := command.data
  accounts := command.mentions Program.recordAddress signer Address.systemProgram

end Command

namespace Program

open NetIdentity.Action

def execute (env : Environment) (mentions : List Mention) : Command → Action (Option Bytes)
  | .establish networkId => do
      let (record, payer) ← check (establishAccounts (← get).ledger mentions)
      establish env record payer networkId
      return none
  | .amend amendment => do
      let (record, signer) ← check (amendmentAccounts amendment.role mentions)
      amend env record.address signer.address amendment
      return none
  | .query query => do
      let record ← check (queryAccounts mentions)
      let answer ← check (query.answer (← account record.address))
      return some answer

def run (env : Environment) (instruction : Instruction) : Action (Option Bytes) := do
  if instruction.program ≠ id then throw (.fault .wrongProgram)
  else if instruction.ForFramework then
    env.framework.answer id env.rent instruction.accounts (instruction.data.drop 8)
    return none
  else
    let selector ← check (Selector.read instruction.data)
    log (.instruction selector.title)
    let command ← check (Command.read selector instruction.data)
    execute env instruction.accounts command

end Program

structure Report where
  result : Except Failure (Option Bytes)
  log : List LogEntry
  calls : List SystemCall
  /-- The ledger as the call left it, also when it failed. -/
  ledger : Ledger

/-- Submit an instruction to the program. The log of a call that fails ends with its failure. -/
def Program.submit (env : Environment) (ledger : Ledger) (instruction : Instruction) : Report :=
  match Program.run env instruction (Progress.start ledger) with
  | .ok answer done => ⟨.ok answer, done.log, done.calls, done.ledger⟩
  | .error failure done => ⟨.error failure, done.log ++ [.failure failure], done.calls, done.ledger⟩

end NetIdentity
