import ThermalPrint.Printing.Trail

/-!
Devices. A device is asked to take blocks of bytes, one after the other, and each time may accept
the block, fail, or panic. A device may also hand in other receipts while it is at work.
-/

namespace ThermalPrint

inductive Ending where
  | done
  | failed (error : Error)
  | panicked
  deriving DecidableEq, Repr

/-- How a device answers when it is given a block. -/
structure Reply where
  /-- The JSON texts of the receipts that it hands in meanwhile, one after the other. -/
  texts : List String
  ending : Ending
  deriving DecidableEq, Repr

structure Device (σ : Type) where
  write : Bytes → σ → Reply × σ

structure Desk (σ : Type) where
  state : σ
  trail : Trail

def Desk.note {σ : Type} (desk : Desk σ) (event : Event) : Desk σ :=
  { desk with trail := desk.trail ++ [event] }

def Desk.log {σ : Type} (desk : Desk σ) (entry : LogEntry) : Desk σ :=
  desk.note (.logged entry)

/-! ### Devices that follow a schedule -/

inductive Fault where
  /-- The device takes some bytes only. -/
  | short (taken : Nat)
  | error (error : Error)
  | panic
  /-- The device takes all bytes and then hands in a receipt. -/
  | handIn (text : String)
  deriving DecidableEq, Repr

/-- The bytes that a device has taken in each call so far. -/
abbrev Takings := List Bytes

/-- The device that meets the fault of a schedule, by the number of the call, and is without fault
in all other calls. -/
def Device.scheduled (fault? : Nat → Option Fault) : Device Takings where
  write block takings :=
    match fault? takings.length with
    | none => (⟨[], .done⟩, takings ++ [block])
    | some (.short taken) =>
      (⟨[], .failed (.shortWrite taken block.length)⟩, takings ++ [block.take taken])
    | some (.error error) => (⟨[], .failed error⟩, takings ++ [[]])
    | some .panic => (⟨[], .panicked⟩, takings ++ [[]])
    | some (.handIn text) => (⟨[text], .done⟩, takings ++ [block])

end ThermalPrint
