import ThermalPrint.Printing.Guard
import ThermalPrint.Receipt.Decode

/-!
The gate before a printer. One holder at a time gets the guard of the printer; whoever comes
meanwhile is turned away and never waits. A panic of the holder gives the printer free and leaves a
mark on the gate, which is reported each time the printer is taken.
-/

namespace ThermalPrint

structure Gate where
  isTaken : Bool
  /-- A holder has panicked. -/
  isMarked : Bool
  deriving DecidableEq, Repr

namespace Gate

def fresh : Gate := ⟨false, false⟩

/-- The gate after it has been taken, unless it is taken already. -/
def take? (gate : Gate) : Option Gate :=
  if gate.isTaken then none else some { gate with isTaken := true }

def leave (gate : Gate) : Gate :=
  { gate with isTaken := false }

def leaveInPanic (_gate : Gate) : Gate :=
  ⟨false, true⟩

theorem isTaken_of_take? {gate taken : Gate} (success : gate.take? = some taken) :
    gate.isTaken = false ∧ taken.isTaken = true := by
  unfold take? at success
  split at success
  · simp at success
  · rename_i free
    simp only [Option.some.injEq] at success
    exact ⟨by simpa using free, by simp [← success]⟩

end Gate

/-- The desk after the gate has been taken: a mark on the gate is reported. -/
def Desk.taken {σ : Type} (desk : Desk σ) (gate : Gate) : Desk σ :=
  if gate.isMarked then desk.log .takenAfterPanic else desk

/-- How a receipt was dealt with, and what the gate and the desk are like afterwards. -/
structure Handling (σ : Type) where
  attempt : Attempt
  gate : Gate
  desk : Desk σ

namespace Handling

variable {σ : Type}

def ofEnding (gate : Gate) : Ending × Desk σ → Handling σ
  | (.done, desk) => ⟨.answered .success, gate.leave, desk⟩
  | (.failed error, desk) => ⟨.answered (.failed error), gate.leave, desk.log (.failed error)⟩
  | (.panicked, desk) => ⟨.panicked, gate.leaveInPanic, desk⟩

/-- Hands on what has been decoded, and answers what has been refused. -/
def ofDecoded (gate : Gate) (submit : Receipt → Desk σ → Handling σ)
    (decoded : Except Refusal Receipt) (desk : Desk σ) : Handling σ :=
  match decoded with
  | .ok receipt => submit receipt (desk.log (.received receipt.length))
  | .error refusal => ⟨.answered (.refused refusal), gate, desk.log (.rejected refusal)⟩

end Handling

structure Printer (σ : Type) where
  profile : Profile
  device : Device σ

namespace Printer

variable {σ : Type}

/-- Prints a decoded receipt, if the printer is free. What the device hands in meanwhile meets the
taken gate, and so cannot get at the device again: this is why the recursion ends. -/
def submit (printer : Printer σ) (gate : Gate) (receipt : Receipt) (desk : Desk σ) :
    Handling σ :=
  match _taking : gate.take? with
  | none => ⟨.answered .busy, gate, desk.log (.busy receipt.length)⟩
  | some taken =>
    let guard : Guard σ :=
      { profile := printer.profile
        device := printer.device
        meanwhile := fun text desk =>
          let handling := Handling.ofDecoded taken
            (fun receipt desk => printer.submit taken receipt desk) (Receipt.parse text) desk
          (handling.attempt, handling.desk) }
    .ofEnding taken (guard.execute receipt (desk.taken gate))
termination_by if gate.isTaken then 0 else 1
decreasing_by
  have := Gate.isTaken_of_take? _taking
  simp [this]

/-- Decodes the JSON text of a receipt and prints it. A text that is refused is refused even if the
printer is in use. -/
def printText (printer : Printer σ) (gate : Gate) (text : String) (desk : Desk σ) :
    Handling σ :=
  .ofDecoded gate (printer.submit gate) (Receipt.parse text) desk

def printValue (printer : Printer σ) (gate : Gate) (value : Json) (desk : Desk σ) :
    Handling σ :=
  .ofDecoded gate (printer.submit gate) (Receipt.decode value) desk

def guard (printer : Printer σ) (taken : Gate) : Guard σ where
  profile := printer.profile
  device := printer.device
  meanwhile := fun text desk =>
    let handling := printer.printText taken text desk
    (handling.attempt, handling.desk)

end Printer

end ThermalPrint
