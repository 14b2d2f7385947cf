import NetIdentity.Codec
import NetIdentity.Sha256

/-!
# Events

Every change of the record is announced in the log, so that an observer who reads nothing else knows what
the record says. An event names the record's account, what was there before, what is there now, and the
time.

In the log an event is eight bytes for its kind and then its fields in order; `read` is how an observer
gets it back.
-/

namespace NetIdentity

inductive Event where
  /-- The record has been made, and `admin` holds both roles. -/
  | initialized (record admin : Address) (networkId : String) (time : Int64)
  | adminUpdated (record previous new : Address) (time : Int64)
  | protocolFeeUpdated (record : Address) (previous new : UInt64) (time : Int64)
  | feeHandlerUpdated (record previous new : Address) (time : Int64)
deriving DecidableEq

namespace Event

inductive Kind where
  | initialized
  | adminUpdated
  | protocolFeeUpdated
  | feeHandlerUpdated
deriving Repr, DecidableEq

/-- The name that observers know the kind by. -/
def Kind.name : Kind → String
  | .initialized => "XcallInitialized"
  | .adminUpdated => "AdminUpdated"
  | .protocolFeeUpdated => "ProtocolFeeUpdated"
  | .feeHandlerUpdated => "FeeHandlerUpdated"

def Kind.discriminator : Kind → Bytes
  | .initialized => [0x48, 0x62, 0x9e, 0x28, 0x8f, 0x9c, 0x1a, 0x0b]
  | .adminUpdated => [0x45, 0x52, 0x31, 0xab, 0x2b, 0x03, 0x50, 0xa1]
  | .protocolFeeUpdated => [0xac, 0x38, 0x53, 0x71, 0xdb, 0x45, 0x45, 0x69]
  | .feeHandlerUpdated => [0xdf, 0xb7, 0x70, 0xae, 0x74, 0x01, 0xc1, 0x4f]

theorem Kind.discriminator_eq_digest (kind : Kind) :
    kind.discriminator = (Sha256.hash (utf8 ("event:" ++ kind.name))).take 8 := by
  cases kind <;> decide +kernel

def kind : Event → Kind
  | .initialized _ _ _ _ => .initialized
  | .adminUpdated _ _ _ _ => .adminUpdated
  | .protocolFeeUpdated _ _ _ _ => .protocolFeeUpdated
  | .feeHandlerUpdated _ _ _ _ => .feeHandlerUpdated

def content : Event → Bytes
  | .initialized record admin networkId time =>
      encode record ++ (encode admin ++ (encode networkId ++ encode time))
  | .adminUpdated record previous new time =>
      encode record ++ (encode previous ++ (encode new ++ encode time))
  | .protocolFeeUpdated record previous new time =>
      encode record ++ (encode previous ++ (encode new ++ encode time))
  | .feeHandlerUpdated record previous new time =>
      encode record ++ (encode previous ++ (encode new ++ encode time))

def payload (event : Event) : Bytes := event.kind.discriminator ++ event.content

def decoder : Kind → Decoder Event
  | .initialized => do return .initialized (← decode) (← decode) (← decode) (← decode)
  | .adminUpdated => do return .adminUpdated (← decode) (← decode) (← decode) (← decode)
  | .protocolFeeUpdated => do return .protocolFeeUpdated (← decode) (← decode) (← decode) (← decode)
  | .feeHandlerUpdated => do return .feeHandlerUpdated (← decode) (← decode) (← decode) (← decode)

def Kind.all : List Kind := [.initialized, .adminUpdated, .protocolFeeUpdated, .feeHandlerUpdated]

def read? (payload : Bytes) : Option Event := do
  let kind ← Kind.all.find? fun kind => payload.take 8 = kind.discriminator
  ((decoder kind).all (payload.drop 8)).toOption

end Event

end NetIdentity
