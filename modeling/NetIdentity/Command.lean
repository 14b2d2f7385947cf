import NetIdentity.Record
import NetIdentity.Sha256

/-!
# Commands

What can be asked of the program: to record the identity, to amend the record, or to answer a query. On
the wire a command is eight bytes that select it, followed by its argument if it takes one. Bytes after the
argument are ignored.

Selecting and reading are two steps, since a call whose argument cannot be read has already been logged
under its title.
-/

namespace NetIdentity

inductive Query where
  | identity
  | admin
  | protocolFee
  | feeHandler
  /-- The program's own address, on the network that the record names. -/
  | networkAddress
deriving Repr, DecidableEq

inductive Command where
  | establish (networkId : String)
  | amend (amendment : Amendment)
  | query (query : Query)
deriving DecidableEq

inductive Field where
  | admin
  | protocolFee
  | feeHandler
deriving Repr, DecidableEq

def Amendment.field : Amendment → Field
  | .admin _ => .admin
  | .feeHandler _ => .feeHandler
  | .protocolFee _ => .protocolFee

/-- A command without its argument. -/
inductive Selector where
  | establish
  | amend (field : Field)
  | query (query : Query)
deriving Repr, DecidableEq

namespace Selector

def all : List Selector :=
  [ .establish, .amend .admin, .amend .protocolFee, .amend .feeHandler, .query .identity, .query .admin,
    .query .protocolFee, .query .feeHandler, .query .networkAddress ]

theorem mem_all (selector : Selector) : selector ∈ all := by
  rcases selector with _ | field | query
  · decide
  · cases field <;> decide
  · cases query <;> decide

/-- The name that clients know the selector by. -/
def name : Selector → String
  | .establish => "initialize"
  | .amend .admin => "set_admin"
  | .amend .protocolFee => "set_protocol_fee"
  | .amend .feeHandler => "set_protocol_fee_handler"
  | .query .identity => "get_identity"
  | .query .admin => "get_admin"
  | .query .protocolFee => "get_protocol_fee"
  | .query .feeHandler => "get_protocol_fee_handler"
  | .query .networkAddress => "get_network_address"

def title : Selector → String
  | .establish => "Initialize"
  | .amend .admin => "SetAdmin"
  | .amend .protocolFee => "SetProtocolFee"
  | .amend .feeHandler => "SetProtocolFeeHandler"
  | .query .identity => "GetIdentity"
  | .query .admin => "GetAdmin"
  | .query .protocolFee => "GetProtocolFee"
  | .query .feeHandler => "GetProtocolFeeHandler"
  | .query .networkAddress => "GetNetworkAddress"

def discriminator : Selector → Bytes
  | .establish => [0xaf, 0xaf, 0x6d, 0x1f, 0x0d, 0x98, 0x9b, 0xed]
  | .amend .admin => [0xfb, 0xa3, 0x00, 0x34, 0x5b, 0xc2, 0xbb, 0x5c]
  | .amend .protocolFee => [0xad, 0xef, 0x53, 0xf2, 0x88, 0x2b, 0x90, 0xd9]
  | .amend .feeHandler => [0x4d, 0x43, 0x98, 0x72, 0x47, 0x6f, 0x7d, 0xe7]
  | .query .identity => [0xef, 0x94, 0x90, 0x0d, 0xf2, 0xd8, 0x37, 0xd5]
  | .query .admin => [0x88, 0xf3, 0x40, 0x6a, 0xcd, 0x51, 0xd3, 0xc1]
  | .query .protocolFee => [0xc4, 0xff, 0x23, 0x2e, 0xf0, 0x2c, 0x26, 0x35]
  | .query .feeHandler => [0x43, 0x05, 0xfd, 0xdf, 0x90, 0x75, 0x08, 0x5f]
  | .query .networkAddress => [0x1e, 0xe1, 0x12, 0x75, 0xad, 0xe9, 0xc1, 0x4f]

theorem discriminator_eq_digest (selector : Selector) :
    selector.discriminator = (Sha256.hash (utf8 ("global:" ++ selector.name))).take 8 := by
  rcases selector with _ | field | query
  · decide +kernel
  · cases field <;> decide +kernel
  · cases query <;> decide +kernel

@[simp] theorem length_discriminator (selector : Selector) : selector.discriminator.length = 8 := by
  rcases selector with _ | field | query
  · rfl
  · cases field <;> rfl
  · cases query <;> rfl

theorem discriminator_inj {s t : Selector} : s.discriminator = t.discriminator ↔ s = t := by
  have distinct : ∀ s ∈ all, ∀ t ∈ all, s.discriminator = t.discriminator → s = t := by decide +kernel
  exact ⟨distinct s (mem_all s) t (mem_all t), fun h => h ▸ rfl⟩

/-- The front of data by which an event is sent as an instruction. -/
def eventMark : Bytes := [0xe4, 0x45, 0xa5, 0x2e, 0x51, 0xcb, 0x9a, 0x1d]

def ofData? (data : Bytes) : Option Selector :=
  all.find? fun selector => data.take 8 = selector.discriminator

/-- The selector at the front of the data, or what is wrong with the data. -/
def read (data : Bytes) : Except Fault Selector :=
  match ofData? data with
  | some selector => .ok selector
  | none => .error (if data.take 8 = eventMark then .eventInstruction else .unknownInstruction)

/-- Data selects exactly what its first eight bytes stand for. -/
theorem ofData?_eq_some_iff {data : Bytes} {selector : Selector} :
    ofData? data = some selector ↔ data.take 8 = selector.discriminator :=
  Bytes.find?_mark_eq_some_iff mem_all discriminator_inj

end Selector

namespace Command

def selector : Command → Selector
  | .establish _ => .establish
  | .amend amendment => .amend amendment.field
  | .query q => .query q

def argument : Command → Bytes
  | .establish networkId => encode networkId
  | .amend (.admin successor) => encode successor
  | .amend (.feeHandler successor) => encode successor
  | .amend (.protocolFee fee) => encode fee
  | .query _ => []

def data (command : Command) : Bytes := command.selector.discriminator ++ command.argument

def decoder : Selector → Decoder Command
  | .establish => do return .establish (← decode)
  | .amend .admin => do return .amend (.admin (← decode))
  | .amend .feeHandler => do return .amend (.feeHandler (← decode))
  | .amend .protocolFee => do return .amend (.protocolFee (← decode))
  | .query q => return .query q

/-- The command that was selected, with its argument from what follows the selecting bytes. -/
def read (selector : Selector) (data : Bytes) : Except Fault Command :=
  match decoder selector (data.drop 8) with
  | .ok (command, _) => .ok command
  | .error _ => .error .undecodableArgument

end Command

end NetIdentity
