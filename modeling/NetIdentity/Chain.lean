import NetIdentity.Transaction

/-!
# Chains

A chain is the ledger together with the clock and the rent. Between transactions the clock and the rent may
change, and other programs may change other accounts.

`Chain.run` goes through a whole history and keeps what can be seen of each step.
-/

namespace NetIdentity

structure Chain where
  ledger : Ledger
  env : Environment

inductive Step where
  | setClock (clock : Option Int64)
  | setRent (rent : Option Rent)
  /-- Somebody else changes an account. -/
  | setAccount (address : Address) (account : Account)
  | transaction (transaction : Transaction)

namespace Chain

def fresh : Chain := ⟨Ledger.fresh, Environment.default⟩

/-- Take a step. Only a transaction gives a receipt. -/
def step (chain : Chain) : Step → Option Receipt × Chain
  | .setClock clock => (none, { chain with env := { chain.env with clock := clock } })
  | .setRent rent => (none, { chain with env := { chain.env with rent := rent } })
  | .setAccount address account => (none, { chain with ledger := chain.ledger.set address account })
  | .transaction transaction =>
      let (receipt, ledger) := transaction.submit chain.env chain.ledger
      (some receipt, { chain with ledger := ledger })

/-- Take steps in order, and keep the receipt of each. -/
def run (chain : Chain) : List Step → List (Option Receipt) × Chain
  | [] => ([], chain)
  | s :: rest =>
      let (receipt, next) := chain.step s
      let (receipts, final) := next.run rest
      (receipt :: receipts, final)

end Chain

end NetIdentity
