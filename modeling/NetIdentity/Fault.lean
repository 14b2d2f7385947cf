import NetIdentity.Address

/-!
# Failures

Two parties refuse calls. The program finds *faults*: in the data of an instruction, in the accounts that
come with it, in what is stored, and in what is asked for. The runtime and its system program report errors
of their own, and the runtime also reports that the program has not come to an end. `Failure` is either of
them.

Each cause is a constructor that holds what the cause is about; its number, its name and its text are
functions of the cause. The runtime knows only its own errors, so a fault leaves the program as the custom
error with the fault's number (`Failure.exit`).
-/

namespace NetIdentity

inductive Slot where
  | record
  | signer
  | systemProgram
  | admin
  | feeHandler
deriving Repr, DecidableEq

def Slot.name : Slot → String
  | .record => "config"
  | .signer => "signer"
  | .systemProgram => "system_program"
  | .admin => "admin"
  | .feeHandler => "fee_handler"

def logLine (what code : String) (number : Nat) (message : String) : String :=
  s!"{what}. Error Code: {code}. Error Number: {number}. Error Message: {message}."

/-! ## Errors of the runtime -/

inductive RuntimeError where
  | custom (number : Nat)
  | invalidArgument
  | missingSignature
  | dataInUse
  | invalidSeeds
  | unsupportedSysvar
  | arithmeticOverflow
  | immutable
  /-- The program has stopped in the middle of a computation. There is nobody left to report why. -/
  | aborted
deriving Repr, DecidableEq

namespace RuntimeError

def name : RuntimeError → String
  | .custom _ => "Custom"
  | .invalidArgument => "InvalidArgument"
  | .missingSignature => "MissingRequiredSignature"
  | .dataInUse => "AccountBorrowFailed"
  | .invalidSeeds => "InvalidSeeds"
  | .unsupportedSysvar => "UnsupportedSysvar"
  | .arithmeticOverflow => "ArithmeticOverflow"
  | .immutable => "Immutable"
  | .aborted => "ProgramFailedToComplete"

def hex (n : Nat) : String :=
  "0x" ++ String.ofList (Nat.toDigits 16 n)

def message : RuntimeError → String
  | .custom number => "Custom program error: " ++ hex number
  | .invalidArgument => "The arguments provided to a program instruction were invalid"
  | .missingSignature => "A signature was required but not found"
  | .dataInUse => "Failed to borrow a reference to account data, already borrowed"
  | .invalidSeeds => "Provided seeds do not result in a valid address"
  | .unsupportedSysvar => "Unsupported sysvar"
  | .arithmeticOverflow => "Program arithmetic overflowed"
  | .immutable => "Account is immutable"
  | .aborted => "Program failed to complete"

/-- Errors of the runtime itself are numbered in the upper half of a 64-bit word. The lower half is for
custom numbers; since zero means success there, the custom error zero has a place in the upper half. A
program that has stopped hands out no number, and zero stands for that here. -/
def number : RuntimeError → Nat
  | .custom number => if number = 0 then UInt32.size else number
  | .invalidArgument => 2 * UInt32.size
  | .missingSignature => 8 * UInt32.size
  | .dataInUse => 12 * UInt32.size
  | .invalidSeeds => 14 * UInt32.size
  | .unsupportedSysvar => 17 * UInt32.size
  | .arithmeticOverflow => 24 * UInt32.size
  | .immutable => 25 * UInt32.size
  | .aborted => 0

def label : RuntimeError → String
  | .custom number => "Custom(" ++ toString number ++ ")"
  | error => error.name

end RuntimeError

/-! ## Faults -/

inductive Fault where
  /-- The identity is recorded once, and it has been. -/
  | alreadyInitialized
  | notInitialized
  /-- A network id is empty or would be taken apart inside an address. -/
  | invalidNetworkId
  | networkIdTooLong
  | notAdmin (admin signer : Address)
  | notFeeHandler (feeHandler signer : Address)
  | invalidNetworkAddress
  | unknownInstruction
  /-- The data names an instruction, but its argument cannot be read. -/
  | undecodableArgument
  /-- The data is an event sent as an instruction, which this program does not take. -/
  | eventInstruction
  | notWritable (slot : Slot)
  | wrongRecordAddress (given expected : Address)
  /-- Stored data is too short to tell what it is. -/
  | noDiscriminator
  /-- Stored data is something else than a record. -/
  | wrongDiscriminator
  /-- Stored data starts like a record and cannot be read as one. -/
  | undecodableRecord
  | recordTooLarge
  | missingAccount (slot : Slot)
  | wrongSystemProgram (given expected : Address)
  | systemProgramNotExecutable
  | notSigned (slot : Slot)
  | wrongProgram
  /-- A fault that the framework has found in an instruction of its own, in the framework's words. -/
  | framework (code : Nat) (name message : String) (account? : Option String)
      (compared? : Option (Address × Address))
deriving DecidableEq

namespace Fault

def code : Fault → Nat
  | .unknownInstruction => 101
  | .undecodableArgument => 102
  | .eventInstruction => 1500
  | .notWritable _ => 2000
  | .wrongRecordAddress _ _ => 2006
  | .noDiscriminator => 3001
  | .wrongDiscriminator => 3002
  | .undecodableRecord => 3003
  | .recordTooLarge => 3004
  | .missingAccount _ => 3005
  | .wrongSystemProgram _ _ => 3008
  | .systemProgramNotExecutable => 3009
  | .notSigned _ => 3010
  | .wrongProgram => 4100
  | .alreadyInitialized => 6000
  | .notInitialized => 6001
  | .invalidNetworkId => 6002
  | .networkIdTooLong => 6003
  | .notAdmin _ _ => 6004
  | .notFeeHandler _ _ => 6005
  | .invalidNetworkAddress => 6006
  | .framework code _ _ _ _ => code

def name : Fault → String
  | .unknownInstruction => "InstructionFallbackNotFound"
  | .undecodableArgument => "InstructionDidNotDeserialize"
  | .eventInstruction => "EventInstructionStub"
  | .notWritable _ => "ConstraintMut"
  | .wrongRecordAddress _ _ => "ConstraintSeeds"
  | .noDiscriminator => "AccountDiscriminatorNotFound"
  | .wrongDiscriminator => "AccountDiscriminatorMismatch"
  | .undecodableRecord => "AccountDidNotDeserialize"
  | .recordTooLarge => "AccountDidNotSerialize"
  | .missingAccount _ => "AccountNotEnoughKeys"
  | .wrongSystemProgram _ _ => "InvalidProgramId"
  | .systemProgramNotExecutable => "InvalidProgramExecutable"
  | .notSigned _ => "AccountNotSigner"
  | .wrongProgram => "DeclaredProgramIdMismatch"
  | .alreadyInitialized => "AlreadyInitialized"
  | .notInitialized => "NotInitialized"
  | .invalidNetworkId => "InvalidNetworkId"
  | .networkIdTooLong => "NetworkIdTooLong"
  | .notAdmin _ _ => "OnlyAdmin"
  | .notFeeHandler _ _ => "OnlyFeeHandler"
  | .invalidNetworkAddress => "InvalidNetworkAddress"
  | .framework _ name _ _ _ => name

def message : Fault → String
  | .unknownInstruction => "Fallback functions are not supported"
  | .undecodableArgument => "The program could not deserialize the given instruction"
  | .eventInstruction => "The program was compiled without \x60event-cpi\x60 feature"
  | .notWritable _ => "A mut constraint was violated"
  | .wrongRecordAddress _ _ => "A seeds constraint was violated"
  | .noDiscriminator => "No discriminator was found on the account"
  | .wrongDiscriminator => "Account discriminator did not match what was expected"
  | .undecodableRecord => "Failed to deserialize the account"
  | .recordTooLarge => "Failed to serialize the account"
  | .missingAccount _ => "Not enough account keys given to the instruction"
  | .wrongSystemProgram _ _ => "Program ID was not as expected"
  | .systemProgramNotExecutable => "Program account is not executable"
  | .notSigned _ => "The given account did not sign"
  | .wrongProgram => "The declared program id does not match the actual program id"
  | .alreadyInitialized => "Already initialized: The network identity has already been recorded"
  | .notInitialized => "Not initialized: The network identity has not been recorded yet"
  | .invalidNetworkId => "Invalid network id: Network id must be non-empty and must not contain '/'"
  | .networkIdTooLong => "Network id too long: Network id exceeds maximum allowed length"
  | .notAdmin _ _ => "Only admin: Only the admin can perform this action"
  | .notFeeHandler _ _ => "Only fee handler: Only the protocol fee handler can perform this action"
  | .invalidNetworkAddress => "Invalid network address: Expected '<network id>/<account>'"
  | .framework _ _ message _ _ => message

/-- The account that a fault is about, by the name it is known under. Data of the wrong kind is reported
for the kind that was expected. -/
def account? : Fault → Option String
  | .notWritable slot => some slot.name
  | .wrongRecordAddress _ _ => some Slot.record.name
  | .wrongDiscriminator => some "Config"
  | .missingAccount slot => some slot.name
  | .wrongSystemProgram _ _ => some Slot.systemProgram.name
  | .systemProgramNotExecutable => some Slot.systemProgram.name
  | .notSigned slot => some slot.name
  | .framework _ _ _ account? _ => account?
  | _ => none

def compared? : Fault → Option (Address × Address)
  | .notAdmin admin signer => some (admin, signer)
  | .notFeeHandler feeHandler signer => some (feeHandler, signer)
  | .wrongRecordAddress given expected => some (given, expected)
  | .wrongSystemProgram given expected => some (given, expected)
  | .framework _ _ _ _ compared? => compared?
  | _ => none

/-- Whether the fault is raised by a rule of this program, and not by reading the call or the accounts. -/
def isRule : Fault → Bool
  | .alreadyInitialized | .notInitialized | .invalidNetworkId | .networkIdTooLong | .notAdmin _ _
  | .notFeeHandler _ _ | .invalidNetworkAddress => true
  | _ => false

def origin (fault : Fault) : String :=
  match fault.account? with
  | some account => "caused by account: " ++ account
  | none => if fault.isRule then "thrown" else "occurred"

/-- What the log says: one line for the fault, then the addresses that were compared. -/
def report (fault : Fault) : List String :=
  let line := logLine ("AnchorError " ++ fault.origin) fault.name fault.code fault.message
  match fault.compared? with
  | some (left, right) => [line, "Left:", left.base58, "Right:", right.base58]
  | none => [line]

end Fault

/-! ## Either of them -/

inductive Failure where
  | fault (fault : Fault)
  | runtime (error : RuntimeError)
deriving DecidableEq

namespace Failure

def exit : Failure → RuntimeError
  | .fault f => .custom f.code
  | .runtime e => e

def report : Failure → List String
  | .fault f => f.report
  | .runtime .aborted => []
  | .runtime e => [logLine "ProgramError occurred" e.label e.number e.message]

end Failure

end NetIdentity
