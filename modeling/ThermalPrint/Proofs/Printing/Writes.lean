import ThermalPrint.Printing.Gate
import ThermalPrint.Proofs.Printing.Calls

/-!
# What is written

A receipt is rendered as a whole before anything is written. If an item does not render, nothing is
written at all; otherwise the blocks of the items and the cut are offered in order, and the first
call that does not succeed is the last one.
-/

namespace ThermalPrint

variable {σ : Type}

/-- A guard under which a text that is handed in is answered without a call of the device. -/
def Guard.IsQuiet (guard : Guard σ) : Prop :=
  ∀ (text : String) (desk : Desk σ),
    (guard.meanwhile text desk).1 = .answered (.whileTaken text) ∧
      Carried guard.device desk [] (guard.meanwhile text desk).2

/-- A use of the printer makes the calls for a list of blocks, and ends as they do. -/
def Performs (device : Device σ) (before : Desk σ) (blocks : List Bytes)
    (result : Ending × Desk σ) : Prop :=
  ∃ calls, Served blocks calls result.1 ∧ Carried device before calls result.2

namespace Performs

variable {device : Device σ} {desk : Desk σ} {blocks more : List Bytes}
  {result : Ending × Desk σ}

theorem nothing (device : Device σ) (desk : Desk σ) : Performs device desk [] (.done, desk) :=
  ⟨[], .all, .refl device desk⟩

theorem of_log {entry : LogEntry} (performs : Performs device (desk.log entry) blocks result) :
    Performs device desk blocks result := by
  obtain ⟨calls, served, carried⟩ := performs
  exact ⟨calls, served, carried.of_log⟩

theorem andThen {next : Desk σ → Ending × Desk σ} (first : Performs device desk blocks result)
    (second : ∀ middle, Performs device middle more (next middle)) :
    Performs device desk (blocks ++ more) (Guard.andThen result next) := by
  obtain ⟨ending, middle⟩ := result
  obtain ⟨calls, served, carried⟩ := first
  cases ending with
  | done =>
    obtain ⟨further, servedNext, carriedNext⟩ := second middle
    exact ⟨calls ++ further, served.append servedNext, carried.trans carriedNext⟩
  | failed error => exact ⟨calls, served.extend (by simp), carried⟩
  | panicked => exact ⟨calls, served.extend (by simp), carried⟩

end Performs

theorem Command.bytesOfAll_cut : Command.bytesOfAll [.cut] = Command.cut.bytes := by
  simp [Command.bytesOfAll]

namespace Guard

variable {guard : Guard σ}

theorem andThen_of_ne_done {ending : Ending} (stopped : ending ≠ .done) (desk : Desk σ)
    (next : Desk σ → Ending × Desk σ) : andThen (ending, desk) next = (ending, desk) := by
  cases ending with
  | done => exact absurd rfl stopped
  | failed error => rfl
  | panicked => rfl

/-- All texts that a device hands in are answered. -/
theorem answerAll_of_isQuiet (quiet : guard.IsQuiet) (texts : List String) (desk : Desk σ) :
    ∃ after, guard.answerAll texts desk = (.done, after) ∧ Answered desk texts after := by
  induction texts generalizing desk with
  | nil => exact ⟨desk, rfl, .nothing desk⟩
  | cons text texts inductionHypothesis =>
    obtain ⟨isAnswer, carried⟩ := quiet text desk
    rcases handled : guard.meanwhile text desk with ⟨attempt, middle⟩
    rw [handled] at isAnswer carried
    obtain rfl : attempt = .answered (.whileTaken text) := isAnswer
    obtain ⟨after, answersRest, answeredRest⟩ :=
      inductionHypothesis (middle.note (.answered (.whileTaken text)))
    refine ⟨after, ?_, .cons carried answeredRest⟩
    simp only [answerAll, handled]
    exact answersRest

theorem performs_write (quiet : guard.IsQuiet) (block : Bytes) (desk : Desk σ) :
    Performs guard.device desk [block] (guard.write block desk) := by
  rcases replied : guard.device.write block desk.state with ⟨reply, state⟩
  obtain ⟨after, answersAll, answered⟩ :=
    answerAll_of_isQuiet quiet reply.texts ({ desk with state := state }.note (.offered block))
  have written : guard.write block desk = (reply.ending, after) := by
    simp only [write, replied, answersAll, andThen]
  rw [written]
  exact ⟨[⟨block, reply⟩], .single ⟨block, reply⟩, .offered replied answered⟩

theorem performs_writeBlocks (quiet : guard.IsQuiet) (index : Nat)
    (blocks : List (Kind × Bytes)) (desk : Desk σ) :
    Performs guard.device desk (blocks.map Prod.snd) (guard.writeBlocks index blocks desk) := by
  induction blocks generalizing index desk with
  | nil => exact .nothing guard.device desk
  | cons head rest inductionHypothesis =>
    obtain ⟨kind, block⟩ := head
    have first : Performs guard.device desk [block]
        (guard.write block (desk.log (.item index kind block.length))) :=
      (performs_write quiet block _).of_log
    exact first.andThen (inductionHypothesis (index + 1))

theorem performs_cut (quiet : guard.IsQuiet) (desk : Desk σ) :
    Performs guard.device desk [Command.bytesOfAll [.cut]] (guard.cut desk) :=
  performs_write quiet _ desk

theorem performs_start (quiet : guard.IsQuiet) (desk : Desk σ) :
    Performs guard.device desk [Command.bytesOfAll initialState] (guard.start desk) :=
  performs_write quiet _ desk

/-- The end of a receipt: the cut, and a note in the log. -/
theorem performs_finish (quiet : guard.IsQuiet) (desk : Desk σ) :
    Performs guard.device desk [Command.bytesOfAll [.cut]]
      (andThen (guard.cut desk) fun desk => (.done, desk.log .printed)) := by
  have noted : ∀ middle, Performs guard.device middle [] (.done, middle.log .printed) :=
    fun middle => ⟨[], .all, (Carried.refl guard.device middle).log .printed⟩
  exact (performs_cut quiet desk).andThen noted

theorem performs_execute (quiet : guard.IsQuiet) (receipt : Receipt)
    {blocks : List (Kind × Bytes)} (rendered : receipt.blocks guard.profile = .ok blocks)
    (desk : Desk σ) :
    Performs guard.device desk (blocks.map Prod.snd ++ [Command.bytesOfAll [.cut]])
      (guard.execute receipt desk) := by
  unfold execute
  rw [rendered]
  have items : Performs guard.device desk (blocks.map Prod.snd)
      (guard.writeBlocks 0 blocks (desk.log (.printing blocks.length))) :=
    (performs_writeBlocks quiet 0 blocks _).of_log
  exact items.andThen (performs_finish quiet)

end Guard

namespace Printer

variable {printer : Printer σ} {gate : Gate}

theorem submit_of_taken (taken : gate.isTaken = true) (receipt : Receipt) (desk : Desk σ) :
    printer.submit gate receipt desk =
      ⟨.answered .busy, gate, desk.log (.busy receipt.length)⟩ := by
  have refused : gate.take? = none := by simp [Gate.take?, taken]
  rw [submit]
  split
  · rfl
  · rename_i other accepted
    rw [refused] at accepted
    contradiction

theorem submit_of_free (free : gate.isTaken = false) (receipt : Receipt) (desk : Desk σ) :
    printer.submit gate receipt desk =
      .ofEnding { gate with isTaken := true }
        ((printer.guard { gate with isTaken := true }).execute receipt (desk.taken gate)) := by
  have accepted : gate.take? = some { gate with isTaken := true } := by simp [Gate.take?, free]
  rw [submit]
  split
  · rename_i refused
    rw [accepted] at refused
    contradiction
  · rename_i other taken
    rw [accepted] at taken
    cases taken
    rfl

/-- While the gate is taken, a text that is handed in is refused if it does not decode and turned
away if it does. -/
theorem guard_isQuiet (printer : Printer σ) (taken : gate.isTaken = true) :
    (printer.guard gate).IsQuiet := by
  intro text desk
  simp only [guard, printText, Handling.ofDecoded, Outcome.whileTaken]
  cases Receipt.parse text with
  | ok receipt =>
    simp only [submit_of_taken taken]
    exact ⟨trivial, ((Carried.refl _ desk).log _).log _⟩
  | error refusal => exact ⟨rfl, (Carried.refl _ desk).log _⟩

end Printer

end ThermalPrint
