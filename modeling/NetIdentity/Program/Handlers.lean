import NetIdentity.Event
import NetIdentity.Program.Accounts

/-!
# What the commands do

`establish` makes the record, an amendment replaces one of its fields, and a query reads it. A change is
announced twice: as an event for programs that watch the log, and as a message for people who read it.

All that a query says is a function of the record's account (`Query.answer`).
-/

namespace NetIdentity

namespace Amendment

def event (amendment : Amendment) (record : Address) (before : Record) (time : Int64) : Event :=
  match amendment with
  | .admin successor => .adminUpdated record before.admin successor time
  | .feeHandler successor => .feeHandlerUpdated record before.feeHandler successor time
  | .protocolFee fee => .protocolFeeUpdated record before.protocolFee fee time

def announcement (amendment : Amendment) (before : Record) : String :=
  match amendment with
  | .admin successor =>
      "xcall admin changed from " ++ before.admin.base58 ++ " to " ++ successor.base58
  | .feeHandler successor =>
      "Protocol fee handler changed from " ++ before.feeHandler.base58 ++ " to " ++ successor.base58
  | .protocolFee fee => "Protocol fee set to " ++ toString fee.toNat ++ " lamports"

end Amendment

namespace Program

open NetIdentity.Action

/-- Record the identity: whoever pays for the record holds both roles. -/
def establish (env : Environment) (record payer : Mention) (networkId : String) : Action Unit := do
  check (NetworkId.validate networkId)
  let now ← ask env.time
  Store.create env none id record payer recordBump
    (Record.initial payer.address networkId now recordBump)
  log (.event (Event.initialized record.address payer.address networkId now).payload)
  log (.message
    ("xcall initialized for network " ++ networkId ++ " with admin " ++ payer.address.base58))

/-- Amend the record, if the signer holds the role that decides. -/
def amend (env : Environment) (record signer : Address) (amendment : Amendment) : Action Unit := do
  let before ← check (Store.loadInitialized id (← account record))
  check (amendment.role.require before signer)
  let now ← ask env.time
  Store.save none id record (amendment.apply before)
  log (.event (amendment.event record before now).payload)
  log (.message (amendment.announcement before))

/-- The address of the program on the network that its record names. -/
def networkAddress (r : Record) : NetworkAddress :=
  NetworkAddress.join r.networkId id.base58

end Program

/-- The answer to a query, read off the account of the record. Only the identity can be asked for before
there is a record. -/
def Query.answer (query : Query) (account : Account) : Except Fault Bytes :=
  match query with
  | .identity => (Store.load Program.id account).map encode
  | .admin => (Store.loadInitialized Program.id account).map fun r => encode r.admin
  | .protocolFee => (Store.loadInitialized Program.id account).map fun r => encode r.protocolFee
  | .feeHandler => (Store.loadInitialized Program.id account).map fun r => encode r.feeHandler
  | .networkAddress =>
      (Store.loadInitialized Program.id account).map fun r => encode (Program.networkAddress r)

end NetIdentity
