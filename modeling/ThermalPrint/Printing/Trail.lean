import ThermalPrint.Error
import ThermalPrint.Receipt.Refusal

/-!
What happens while receipts are printed: entries of the log, blocks that are offered to the device,
and receipts that are handed in meanwhile.
-/

namespace ThermalPrint

inductive LogLevel where
  | debug
  | info
  | warning
  | error
  deriving DecidableEq, Repr

def LogLevel.name : LogLevel → String
  | .debug => "DEBUG"
  | .info => "INFO"
  | .warning => "WARN"
  | .error => "ERROR"

inductive LogEntry where
  | received (items : Nat)
  | rejected (refusal : Refusal)
  /-- A receipt is turned away because the printer is in use. -/
  | busy (items : Nat)
  /-- The printer is taken although a use of it ended in a panic. -/
  | takenAfterPanic
  | printing (items : Nat)
  | item (index : Nat) (kind : Kind) (bytes : Nat)
  | printed
  | failed (error : Error)
  deriving DecidableEq, Repr

namespace LogEntry

def level : LogEntry → LogLevel
  | received _ | printing _ | printed => .info
  | rejected _ | busy _ | takenAfterPanic => .warning
  | item .. => .debug
  | failed _ => .error

def text : LogEntry → String
  | received items => s!"Received job with {items} items"
  | rejected refusal => "Rejecting job: " ++ refusal.message
  | busy items => s!"Printer is busy, rejecting job with {items} items"
  | takenAfterPanic => "A previous job panicked while printing, taking the printer anyway"
  | printing items => s!"Printing job with {items} items"
  | item index kind bytes => s!"Item {index} ({Choice.name kind}), {bytes} bytes"
  | printed => "Job printed"
  | failed error => "Print failed: " ++ error.message

def line (entry : LogEntry) : String :=
  entry.level.name ++ " " ++ entry.text

end LogEntry

inductive Outcome where
  /-- All items were printed and the paper was cut. -/
  | success
  /-- The receipt was refused before the printer was touched. -/
  | refused (refusal : Refusal)
  | busy
  | failed (error : Error)
  deriving DecidableEq, Repr

def busyMessage : String :=
  "Another print job is currently in progress"

inductive Event where
  | logged (entry : LogEntry)
  /-- A block is given to the device. -/
  | offered (block : Bytes)
  /-- A receipt that was handed in from inside the device has been answered. -/
  | answered (outcome : Outcome)
  deriving DecidableEq, Repr

/-- What has happened, in order. -/
abbrev Trail := List Event

namespace Trail

def log (trail : Trail) : List LogEntry :=
  trail.filterMap fun
    | .logged entry => some entry
    | _ => none

def blocks (trail : Trail) : List Bytes :=
  trail.filterMap fun
    | .offered block => some block
    | _ => none

def outcomes (trail : Trail) : List Outcome :=
  trail.filterMap fun
    | .answered outcome => some outcome
    | _ => none

end Trail

end ThermalPrint
