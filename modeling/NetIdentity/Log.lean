import NetIdentity.Fault

/-!
# The log

What a call says while it runs: its title, messages for people, events for other programs, and at the end,
if it failed, why. Entries are kept as what they are; `LogEntry.transcript` is how a log is shown.
-/

namespace NetIdentity

inductive LogEntry where
  | instruction (title : String)
  | message (text : String)
  | event (payload : Bytes)
  | failure (failure : Failure)
deriving DecidableEq

namespace LogEntry

def lines : LogEntry → List String
  | .instruction title => ["Instruction: " ++ title]
  | .message text => [text]
  | .event payload => ["data: " ++ payload.toHex]
  | .failure f => f.report

/-- A log is shown line by line. A text that holds line breaks takes several lines. -/
def transcript (log : List LogEntry) : List String :=
  (String.intercalate "\n" (log.flatMap lines)).splitOn "\n"

end LogEntry

end NetIdentity
