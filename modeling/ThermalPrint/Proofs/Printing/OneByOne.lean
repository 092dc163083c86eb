import ThermalPrint.Proofs.Printing.Execution

/-!
# Items one by one

The items of a receipt may as well be printed one by one, each rendered when it is its turn, with a
cut behind the last one. As long as all items render, the device cannot tell the difference: it is
asked to write the same blocks in the same order, and what it replies depends on nothing else. Only
where an item does not render do the two ways part: the items before it have then been printed.
-/

namespace ThermalPrint

variable {σ : Type}

namespace Guard

theorem andThen_assoc (first : Ending × Desk σ) (next later : Desk σ → Ending × Desk σ) :
    andThen (andThen first next) later = andThen first fun desk => andThen (next desk) later := by
  obtain ⟨ending, desk⟩ := first
  cases ending <;> rfl

theorem andThen_ofFailure (failure : Failure) (desk : Desk σ) (next : Desk σ → Ending × Desk σ) :
    andThen (.ofFailure failure, desk) next = (.ofFailure failure, desk) := by
  cases failure <;> rfl

/-- Prints items one after the other, and does not cut the paper. -/
def printAll (guard : Guard σ) : List Item → Desk σ → Ending × Desk σ
  | [], desk => (.done, desk)
  | item :: rest, desk => andThen (guard.print item desk) (guard.printAll rest)

variable {guard : Guard σ}

theorem printEach_append (front rest : List Item) (desk : Desk σ) :
    guard.printEach (front ++ rest) desk =
      andThen (guard.printAll front desk) (guard.printEach rest) := by
  induction front generalizing desk with
  | nil => rfl
  | cons item front inductionHypothesis =>
    rw [List.cons_append, printEach, printAll, andThen_assoc, funext inductionHypothesis]

theorem printEach_eq (items : List Item) (desk : Desk σ) :
    guard.printEach items desk = andThen (guard.printAll items desk) guard.cut := by
  have whole : guard.printEach (items ++ []) desk =
      andThen (guard.printAll items desk) (guard.printEach []) :=
    printEach_append items [] desk
  rw [List.append_nil] at whole
  exact whole

theorem printEach_of_failure {item : Item} {failure : Failure}
    (failed : item.render guard.profile = .error failure) (rest : List Item) (desk : Desk σ) :
    guard.printEach (item :: rest) desk = (.ofFailure failure, desk) := by
  rw [printEach, print, failed]
  exact andThen_ofFailure failure desk _

theorem performs_print (quiet : guard.IsQuiet) {item : Item} {block : Bytes}
    (rendered : item.render guard.profile = .ok block) (desk : Desk σ) :
    Performs guard.device desk [block] (guard.print item desk) := by
  rw [print, rendered]
  exact performs_write quiet block desk

theorem performs_printAll (quiet : guard.IsQuiet) {items : List Item} {blocks : List Bytes}
    (rendered : items.map (Item.render guard.profile) = blocks.map .ok) (desk : Desk σ) :
    Performs guard.device desk blocks (guard.printAll items desk) := by
  induction items generalizing blocks desk with
  | nil =>
    obtain rfl : blocks = [] := by simpa using rendered.symm
    exact .nothing guard.device desk
  | cons item items inductionHypothesis =>
    obtain ⟨block, blocks, rfl, own, others⟩ := List.map_eq_cons_iff.mp rendered.symm
    exact (performs_print quiet own.symm desk).andThen (inductionHypothesis others.symm)

theorem performs_printEach (quiet : guard.IsQuiet) {items : List Item} {blocks : List Bytes}
    (rendered : items.map (Item.render guard.profile) = blocks.map .ok) (desk : Desk σ) :
    Performs guard.device desk (blocks ++ [Command.cut.bytes]) (guard.printEach items desk) := by
  rw [printEach_eq, ← Command.bytesOfAll_cut]
  exact (performs_printAll quiet rendered desk).andThen (performs_cut quiet)

end Guard

/-- If all items of a receipt render, printing it makes the calls that printing its items one by one
and then the cut makes, with the same blocks and the same replies, and it ends in the same way. If
an item does not render, printing the receipt leaves everything as it is, while one by one the items
before it are printed, up to a call that is not successful, and it is turned down at last with the
reason that is its own. -/
theorem execute_eq_printEach (printer : Printer σ) (isMarked : Bool) (receipt : Receipt)
    (desk : Desk σ) :
    let guard := printer.guard ⟨true, isMarked⟩
    let whole := guard.execute receipt desk
    let each := guard.printEach receipt.items desk
    (∀ blocks : List Bytes, receipt.items.map (Item.render printer.profile) = blocks.map .ok →
      each.1 = whole.1 ∧ each.2.state = whole.2.state ∧
      ∃ calls, Served (blocks ++ [Command.cut.bytes]) calls whole.1 ∧
        Carried printer.device desk calls whole.2 ∧ Carried printer.device desk calls each.2) ∧
    (∀ (front rest : List Item) (item : Item) (blocks : List Bytes) (failure : Failure),
      receipt.items = front ++ item :: rest →
      front.map (Item.render printer.profile) = blocks.map .ok →
      item.render printer.profile = .error failure →
        whole = (failure.endingOfItem front.length item.kind, desk) ∧
        ∃ calls reached, Served blocks calls reached ∧ calls.map Call.block <+: blocks ∧
          Carried printer.device desk calls each.2 ∧
          each.1 = if reached = .done then .ofFailure failure else reached) := by
  intro guard whole each
  have quiet : guard.IsQuiet := printer.guard_isQuiet rfl
  constructor
  · intro blocks rendered
    obtain ⟨entries, renderedAll, rfl⟩ := renderFrom_of_rendered 0 rendered
    obtain ⟨calls, served, carried⟩ := Guard.performs_execute quiet receipt renderedAll desk
    obtain ⟨eachCalls, eachServed, eachCarried⟩ := Guard.performs_printEach quiet rendered desk
    rw [Command.bytesOfAll_cut] at served
    obtain ⟨rfl, sameEnding, sameState⟩ :=
      served.unique carried.states eachServed eachCarried.states
    exact ⟨sameEnding, sameState, eachCalls, served, carried, eachCarried⟩
  · intro front rest item blocks failure items rendered failed
    have first : receipt.FailsFirst printer.profile front.length item failure :=
      ⟨front, rest, blocks, items, rfl, rendered, failed⟩
    refine ⟨guard.execute_of_failsFirst first desk, ?_⟩
    obtain ⟨calls, served, carried⟩ := Guard.performs_printAll quiet rendered desk
    have parted : each = Guard.andThen (guard.printAll front desk) fun desk =>
        (.ofFailure failure, desk) := by
      simp only [each, items, Guard.printEach_append]
      rw [funext (Guard.printEach_of_failure failed rest)]
    generalize guard.printAll front desk = before at served carried parted
    obtain ⟨reached, middle⟩ := before
    refine ⟨calls, reached, served, served.isPrefix, ?_, ?_⟩
    · rw [parted]
      cases reached <;> exact carried
    · rw [parted]
      cases reached <;> rfl

/-- Two feeds on a device that takes one block only, and a barcode with too few digits between
them. -/
theorem feeds_one_by_one :
    let printer : Printer Takings :=
      ⟨.ofFile "unused", .scheduled fun call => if call = 0 then none else some (.short 2)⟩
    let guard := printer.guard ⟨true, false⟩
    let start : Desk Takings := ⟨[], []⟩
    let feeds : Receipt := ⟨[.feed 1, .feed 2]⟩
    let parted : Receipt := ⟨[.feed 1, .barcode "12" .ean8, .feed 2]⟩
    let flaw : Error := .barcode .ean8 "12" .wrongDigitCount
    (feeds.items.map (Item.render printer.profile) =
        [[0x1B, 0x64, 1], [0x1B, 0x64, 2]].map .ok ∧
      (guard.printEach feeds.items start).1 = (guard.execute feeds start).1 ∧
      (guard.execute feeds start).1 = .failed (.shortWrite 2 3)) ∧
    ((Item.barcode "12" .ean8).render printer.profile = .error (.error flaw) ∧
      guard.execute parted start = (.failed (.render 1 .barcode flaw), start) ∧
      (guard.printEach parted.items start).1 = .failed flaw) := by
  intro printer guard start feeds parted flaw
  have rendered : feeds.items.map (Item.render printer.profile) =
      [[0x1B, 0x64, 1], [0x1B, 0x64, 2]].map .ok := rfl
  have failed : (Item.barcode "12" .ean8).render printer.profile = .error (.error flaw) := rfl
  obtain ⟨sameEnding, _⟩ := (execute_eq_printEach printer false feeds start).1 _ rendered
  obtain ⟨untouched, _⟩ := (execute_eq_printEach printer false parted start).2
    [.feed 1] [.feed 2] _ [[0x1B, 0x64, 1]] _ rfl rfl failed
  exact ⟨⟨rendered, sameEnding, rfl⟩, failed, untouched, rfl⟩

end ThermalPrint
