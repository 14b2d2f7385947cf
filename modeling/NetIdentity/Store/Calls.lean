import NetIdentity.Store

/-!
# Histories of a store

The operations of the store, called one after another on the same accounts. Nothing is rolled back: what a
call that fails has done is what the next one finds. During some of the calls somebody else is reading the
record's data; they can still read, but not write.
-/

namespace NetIdentity

namespace Store

/-- Where the calls work: the program that keeps the record, the accounts passed to it, and the values of
the chain. -/
structure Site where
  program : Address
  target : Mention
  payer : Mention
  env : Environment

inductive Call where
  | isCreated
  | load
  | loadInitialized
  | save (r : Record)
  | create (bump : UInt8) (r : Record)
deriving DecidableEq

inductive Answer where
  | created (yes : Bool)
  | found (r : Option Record)
  | record (r : Record)
  | done
deriving DecidableEq

structure Outcome where
  result : Except Failure Answer
  calls : List SystemCall
  /-- The ledger as the call left it, also when it failed. -/
  ledger : Ledger

namespace Site

/-- The account whose data somebody else is reading, if anybody is. -/
def inUse (site : Site) (read : Bool) : Option Address :=
  if read then some site.target.address else none

def perform (site : Site) (read : Bool) : Call → Action Answer
  | .isCreated => do
      return .created (Store.isCreated site.program (← Action.account site.target.address))
  | .load => do
      return .found (← Action.check (Store.load site.program (← Action.account site.target.address)))
  | .loadInitialized => do
      return .record
        (← Action.check (Store.loadInitialized site.program (← Action.account site.target.address)))
  | .save r => do
      Store.save (site.inUse read) site.program site.target.address r
      return .done
  | .create bump r => do
      Store.create site.env (site.inUse read) site.program site.target site.payer bump r
      return .done

def call (site : Site) (ledger : Ledger) (read : Bool) (c : Call) : Outcome :=
  match site.perform read c (Progress.start ledger) with
  | .ok answer done => ⟨.ok answer, done.calls, done.ledger⟩
  | .error failure done => ⟨.error failure, done.calls, done.ledger⟩

def run (site : Site) (ledger : Ledger) : List (Bool × Call) → List Outcome
  | [] => []
  | (read, c) :: rest =>
      let outcome := site.call ledger read c
      outcome :: site.run outcome.ledger rest

end Site

end Store

end NetIdentity
