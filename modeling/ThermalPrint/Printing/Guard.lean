import ThermalPrint.Printing.Device
import ThermalPrint.Receipt.Render

/-!
Using a printer. Whoever holds the guard of a printer may write to it. A receipt is rendered as a
whole before its first block is written, so that a faulty item leaves the paper untouched, and the
first fault of the device ends the receipt.
-/

namespace ThermalPrint

def Ending.ofFailure : Failure → Ending
  | .error error => failed error
  | .panic => panicked

inductive Attempt where
  | answered (outcome : Outcome)
  | panicked
  deriving DecidableEq, Repr

structure Guard (σ : Type) where
  profile : Profile
  device : Device σ
  /-- What comes of a text that is handed in while the guard is held. -/
  meanwhile : String → Desk σ → Attempt × Desk σ

/-- Items with the blocks that print them, the first of them at a position. -/
def renderFrom (profile : Profile) (index : Nat) :
    List Item → Except Failure (List (Kind × Bytes))
  | [] => .ok []
  | item :: rest =>
    match item.render profile with
    | .error failure => .error (failure.ofItem index item.kind)
    | .ok block =>
      match renderFrom profile (index + 1) rest with
      | .error failure => .error failure
      | .ok blocks => .ok ((item.kind, block) :: blocks)

def Receipt.blocks (profile : Profile) (receipt : Receipt) :
    Except Failure (List (Kind × Bytes)) :=
  renderFrom profile 0 receipt.items

namespace Guard

variable {σ : Type}

/-- Does one thing after another, if the first one is done. -/
def andThen (first : Ending × Desk σ) (next : Desk σ → Ending × Desk σ) : Ending × Desk σ :=
  match first with
  | (.done, desk) => next desk
  | stopped => stopped

/-- Answers texts that are handed in, one after the other, until there is a panic. -/
def answerAll (guard : Guard σ) : List String → Desk σ → Ending × Desk σ
  | [], desk => (.done, desk)
  | text :: rest, desk =>
    match guard.meanwhile text desk with
    | (.answered outcome, desk) => guard.answerAll rest (desk.note (.answered outcome))
    | (.panicked, desk) => (.panicked, desk)

def write (guard : Guard σ) (block : Bytes) (desk : Desk σ) : Ending × Desk σ :=
  let (reply, state) := guard.device.write block desk.state
  let desk := { desk with state := state }.note (.offered block)
  andThen (guard.answerAll reply.texts desk) fun desk => (reply.ending, desk)

def command (guard : Guard σ) (commands : List Command) (desk : Desk σ) : Ending × Desk σ :=
  guard.write (Command.bytesOfAll commands) desk

def initialState : List Command :=
  [.reset, .selectCodeTable .page437, .smoothing true]

def start (guard : Guard σ) (desk : Desk σ) : Ending × Desk σ :=
  guard.command initialState desk

def cut (guard : Guard σ) (desk : Desk σ) : Ending × Desk σ :=
  guard.command [.cut] desk

def print (guard : Guard σ) (item : Item) (desk : Desk σ) : Ending × Desk σ :=
  match item.render guard.profile with
  | .error failure => (.ofFailure failure, desk)
  | .ok block => guard.write block desk

def writeBlocks (guard : Guard σ) (index : Nat) :
    List (Kind × Bytes) → Desk σ → Ending × Desk σ
  | [], desk => (.done, desk)
  | (kind, block) :: rest, desk =>
    andThen (guard.write block (desk.log (.item index kind block.length)))
      (guard.writeBlocks (index + 1) rest)

def execute (guard : Guard σ) (receipt : Receipt) (desk : Desk σ) : Ending × Desk σ :=
  match receipt.blocks guard.profile with
  | .error failure => (.ofFailure failure, desk)
  | .ok blocks =>
    andThen (guard.writeBlocks 0 blocks (desk.log (.printing blocks.length))) fun desk =>
      andThen (guard.cut desk) fun desk => (.done, desk.log .printed)

/-- Prints items one after the other, each rendered only when it is its turn, and cuts the
paper. -/
def printEach (guard : Guard σ) : List Item → Desk σ → Ending × Desk σ
  | [], desk => guard.cut desk
  | item :: rest, desk => andThen (guard.print item desk) (guard.printEach rest)

end Guard

end ThermalPrint
