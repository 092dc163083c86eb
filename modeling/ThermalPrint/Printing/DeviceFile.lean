import ThermalPrint.Printing.Gate

/-!
Device files. The system may take a part of what it is offered, ask to try again, or make the writer
wait, so a block is written in a loop.
-/

namespace ThermalPrint

inductive SystemAnswer where
  /-- It has taken some of the bytes. -/
  | took (count : Nat)
  | interrupted
  /-- It cannot take any now; the writer has waited, and may have given up. -/
  | waited (fault : Option FileFault)
  | failed (fault : FileFault)
  deriving DecidableEq, Repr

structure WriteProgress where
  taken : Bytes
  /-- How the loop has ended, if it has. -/
  result : Option (Except Error Unit)

/-- Offers the rest of a block again and again until all of it is taken or the system gives up.
`taken` are the bytes that the system has taken before, and `expected` is the length of the
block. -/
def writeLoop (expected : Nat) (taken : Bytes) :
    (rest : Bytes) → (answers : List SystemAnswer) → WriteProgress
  | [], _ => ⟨taken, some (.ok ())⟩
  | _ :: _, [] => ⟨taken, none⟩
  | rest@(_ :: _), answer :: answers =>
    match answer with
    | .took 0 => ⟨taken, some (.error (.shortWrite taken.length expected))⟩
    | .took count => writeLoop expected (taken ++ rest.take count) (rest.drop count) answers
    | .interrupted | .waited none => writeLoop expected taken rest answers
    | .waited (some fault) | .failed fault => ⟨taken, some (.error (.file fault))⟩

def writeAll (block : Bytes) (answers : List SystemAnswer) : WriteProgress :=
  writeLoop block.length [] block answers

namespace SystemAnswer

/-- The number of bytes that the system says it has taken. -/
def count : SystemAnswer → Nat
  | took count => count
  | interrupted | waited _ | failed _ => 0

/-- The error with which a writer gives up after an answer, if it gives up. -/
def error? (written expected : Nat) : SystemAnswer → Option Error
  | took 0 => some (.shortWrite written expected)
  | took (_ + 1) | interrupted | waited none => none
  | waited (some fault) | failed fault => some (.file fault)

end SystemAnswer

/-- What the system is offered, and what it answers. -/
structure Offer where
  bytes : Bytes
  answer : SystemAnswer
  deriving DecidableEq, Repr

/-- What the system takes of an offer, which is the first part of it. -/
def Offer.taken (offer : Offer) : Bytes :=
  offer.bytes.take offer.answer.count

structure WriteRun where
  offers : List Offer
  /-- How the run has ended, if it has. -/
  result : Option (Except Error Unit)

def WriteRun.after (run : WriteRun) (offer : Offer) : WriteRun :=
  { run with offers := offer :: run.offers }

/-- The offers of a writer that keeps nothing but the number of bytes it has written. It offers all
of the block that comes after them, until there is no more. -/
def offerFrom (block : Bytes) : (written : Nat) → (answers : List SystemAnswer) → WriteRun
  | written, [] => ⟨[], if written < block.length then none else some (.ok ())⟩
  | written, answer :: answers =>
    if written < block.length then
      let offer : Offer := ⟨block.drop written, answer⟩
      match answer.error? written block.length with
      | some error => ⟨[offer], some (.error error)⟩
      | none => (offerFrom block (written + answer.count) answers).after offer
    else ⟨[], some (.ok ())⟩

structure OpenFile where
  content : Bytes
  position : Nat
  deriving DecidableEq, Repr

namespace OpenFile

/-- Writes bytes over what is there, and moves on. -/
def put (file : OpenFile) (bytes : Bytes) : OpenFile :=
  ⟨file.content.take file.position ++ bytes ++ file.content.drop (file.position + bytes.length),
    file.position + bytes.length⟩

end OpenFile

inductive FileTarget where
  | regular (content : Bytes)
  | missing
  | directory
  /-- A file that never has room. -/
  | full
  deriving DecidableEq, Repr

namespace FileTarget

/-- Opens a file for writing at its start, and keeps what is in it. -/
def open? : FileTarget → Except Error OpenFile
  | regular content => .ok ⟨content, 0⟩
  | missing => .error (.file .notFound)
  | directory => .error (.file .isDirectory)
  | full => .ok ⟨[], 0⟩

def answers (target : FileTarget) (block : Bytes) : List SystemAnswer :=
  match target with
  | full => [.failed .noSpace]
  | _ => [.took block.length]

def device (target : FileTarget) : Device OpenFile where
  write block file :=
    let progress := writeAll block (target.answers block)
    let ending : Ending :=
      match progress.result with
      | some (.error error) => .failed error
      | _ => .done
    (⟨[], ending⟩, file.put progress.taken)

end FileTarget

namespace Printer

variable {σ : Type}

def printTexts (printer : Printer σ) (gate : Gate) (desk : Desk σ) :
    List String → List Attempt × Gate × Desk σ
  | [] => ([], gate, desk)
  | text :: rest =>
    let handling := printer.printText gate text desk
    let (attempts, gate, desk) := printer.printTexts handling.gate handling.desk rest
    (handling.attempt :: attempts, gate, desk)

def serve (printer : Printer σ) (state : σ) (texts : List String) :
    Ending × List Attempt × Desk σ :=
  let (ending, desk) := (printer.guard { Gate.fresh with isTaken := true }).start ⟨state, []⟩
  let (attempts, _, desk) := printer.printTexts .fresh desk texts
  (ending, attempts, desk)

end Printer

end ThermalPrint
