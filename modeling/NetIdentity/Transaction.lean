import NetIdentity.Program.Entry

/-!
# Transactions

A transaction is a list of instructions that take effect together: they run in order on the same ledger,
and when one of them fails, the rest do not run and none of them has changed anything.

The receipt lists the accounts that a transaction has changed. Only accounts that its instructions mention
can be among them, so they are looked for there.
-/

namespace NetIdentity

abbrev Transaction := List Instruction

structure Receipt where
  reports : List Report
  committed : Bool
  changed : List (Address × Account)

/-- The accounts that differ between two ledgers among the given ones, ordered by how their addresses are
shown. -/
def Ledger.changes (before after : Ledger) (addresses : List Address) : List (Address × Account) :=
  let changed := addresses.filter fun address => before address ≠ after address
  (changed.mergeSort fun a b => a.base58 ≤ b.base58).map fun address => (address, after address)

namespace Transaction

/-- Run the instructions in order until one fails. The ledger is there when none has. -/
def run (env : Environment) (ledger : Ledger) : Transaction → List Report × Option Ledger
  | [] => ([], some ledger)
  | instruction :: rest =>
      let report := Program.submit env ledger instruction
      match report.result with
      | .error _ => ([report], none)
      | .ok _ =>
          let (reports, final) := run env report.ledger rest
          (report :: reports, final)

def mentioned (transaction : Transaction) : List Address :=
  ((transaction.flatMap Instruction.accounts).map Mention.address).eraseDups

/-- Submit a transaction: its receipt, and the ledger after it. -/
def submit (env : Environment) (ledger : Ledger) (transaction : Transaction) : Receipt × Ledger :=
  match transaction.run env ledger with
  | (reports, some after) => (⟨reports, true, ledger.changes after transaction.mentioned⟩, after)
  | (reports, none) => (⟨reports, false, []⟩, ledger)

end Transaction

end NetIdentity
