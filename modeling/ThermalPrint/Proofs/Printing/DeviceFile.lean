import ThermalPrint.Printing.DeviceFile
import ThermalPrint.Proofs.Printing.Outcomes

/-!
# What a device file holds

A file that is opened at its start and never refuses a write holds the blocks of the calls made of
it, over what was there before. So after a list of texts it holds the receipts that were printed,
one after the other, and the rest of what it held.
-/

namespace ThermalPrint

/-- A file over whose content some bytes have been written from its start on. -/
def OpenFile.overwritten (content bytes : Bytes) : OpenFile :=
  ⟨bytes ++ content.drop bytes.length, bytes.length⟩

theorem OpenFile.put_overwritten (content bytes more : Bytes) :
    (overwritten content bytes).put more = overwritten content (bytes ++ more) := by
  simp [put, overwritten, List.drop_append]

/-- A regular file takes a block at once. -/
theorem FileTarget.write_regular (content block : Bytes) (file : OpenFile) :
    (regular content).device.write block file = (⟨[], .done⟩, file.put block) := by
  have written : writeAll block [.took block.length] = ⟨block, some (.ok ())⟩ := by
    cases block with
    | nil => rfl
    | cons byte rest => simp [writeAll, writeLoop]
  simp only [device, answers, written]

theorem Device.Calls.overwrites {content : Bytes} {first last : OpenFile} {calls : List Call}
    (made : (FileTarget.regular content).device.Calls first calls last) {bytes : Bytes}
    (start : first = .overwritten content bytes) :
    last = .overwritten content (bytes ++ (calls.map Call.block).flatten) ∧
      ∀ call ∈ calls, call.Succeeds := by
  induction made generalizing bytes with
  | none state => simp [start]
  | next replied _ inductionHypothesis =>
    rw [FileTarget.write_regular, start, OpenFile.put_overwritten] at replied
    cases replied
    obtain ⟨ends, succeed⟩ := inductionHypothesis rfl
    rw [List.forall_mem_cons]
    exact ⟨by simp [ends], rfl, succeed⟩

theorem Served.done_of_succeed {blocks : List Bytes} {calls : List Call} {ending : Ending}
    (served : Served blocks calls ending) (succeed : ∀ call ∈ calls, call.Succeeds) :
    ending = .done := by
  by_contra stopped
  obtain ⟨front, last, rfl, _, fails, _⟩ := served.last_of_ne_done stopped
  exact fails (succeed last (by simp))

/-- The bytes that texts bring to the paper: the blocks of the items and the cut of each text that
is printed, in order. A text is printed exactly if it decodes and its items render. -/
inductive Printed (profile : Profile) : List String → List Attempt → Bytes → Prop where
  | nothing : Printed profile [] [] []
  | success {text : String} {receipt : Receipt} {blocks : List Bytes} {texts : List String}
      {attempts : List Attempt} {bytes : Bytes} :
      Receipt.parse text = .ok receipt → receipt.Renders profile blocks →
      Printed profile texts attempts bytes →
      Printed profile (text :: texts) (.answered .success :: attempts)
        (blocks.flatten ++ Command.cut.bytes ++ bytes)
  | failure {text : String} {attempt : Attempt} {texts : List String} {attempts : List Attempt}
      {bytes : Bytes} : attempt ≠ .answered .success →
      (∀ receipt blocks, Receipt.parse text = .ok receipt → ¬receipt.Renders profile blocks) →
      Printed profile texts attempts bytes →
      Printed profile (text :: texts) (attempt :: attempts) bytes

/-- What comes of a text at a free gate: it is printed as a whole, or brings no byte. -/
theorem Course.overwrites {printer : Printer OpenFile} {gate : Gate} {before : Desk OpenFile}
    {decoded : Except Refusal Receipt} {calls : List Call} {handling : Handling OpenFile}
    {content bytes : Bytes} (course : Course printer gate before decoded calls handling)
    (file : printer.device = (FileTarget.regular content).device) (free : gate.isTaken = false)
    (start : before.state = .overwritten content bytes) :
    handling.gate.isTaken = false ∧
      ((∃ receipt blocks, decoded = .ok receipt ∧ receipt.Renders printer.profile blocks ∧
          handling.attempt = .answered .success ∧ handling.desk.state =
            .overwritten content (bytes ++ (blocks.flatten ++ Command.cut.bytes))) ∨
        handling.attempt ≠ .answered .success ∧
          (∀ receipt blocks, decoded = .ok receipt → ¬receipt.Renders printer.profile blocks) ∧
          handling.desk.state = .overwritten content bytes) := by
  have made := course.carried.states
  rw [file] at made
  obtain ⟨ends, succeed⟩ := made.overwrites start
  cases course with
  | refused refusal => exact ⟨free, .inr ⟨by simp, by simp, by simpa using ends⟩⟩
  | turnedAway receipt taken => simp [free] at taken
  | @unrendered receipt failure after _ failed carried =>
    refine ⟨Handling.isTaken_ofEnding _ _, .inr ⟨?_, ?_, by simpa using ends⟩⟩
    · rw [Ne, Handling.attempt_ofEnding_eq_success_iff]
      cases failure <;> simp [Ending.ofFailure]
    · rintro other blocks ⟨⟩ renders
      obtain ⟨entries, rendered, _⟩ := Receipt.renders_iff.mp renders
      rw [failed] at rendered
      cases rendered
  | @offered receipt blocks calls result _ rendered served carried =>
    -- Only a call that fails ends a receipt before its cut, and this file fails none.
    have done : result.1 = .done := served.done_of_succeed succeed
    have blocksOfCalls := (served.done_iff.mp done).1
    refine ⟨Handling.isTaken_ofEnding _ _, .inl ⟨receipt, blocks, rfl, rendered, ?_, ?_⟩⟩
    · exact Handling.attempt_ofEnding_eq_success_iff.mpr done
    · rw [ends, blocksOfCalls]
      simp

theorem Printer.printTexts_overwrites (profile : Profile) (content : Bytes) (texts : List String)
    (gate : Gate) (desk : Desk OpenFile) (bytes : Bytes) (free : gate.isTaken = false)
    (start : desk.state = .overwritten content bytes) :
    let result :=
      (Printer.mk profile (FileTarget.regular content).device).printTexts gate desk texts
    ∃ more, Printed profile texts result.1 more ∧
      result.2.2.state = .overwritten content (bytes ++ more) := by
  induction texts generalizing gate desk bytes with
  | nil => exact ⟨[], .nothing, by simpa [printTexts] using start⟩
  | cons text texts inductionHypothesis =>
    let printer : Printer OpenFile := ⟨profile, (FileTarget.regular content).device⟩
    obtain ⟨calls, course⟩ := printer.exists_course gate (Receipt.parse text) desk
    obtain ⟨freeAfter, comes⟩ := course.overwrites rfl free start
    rcases comes with ⟨receipt, blocks, decoded, renders, success, after⟩ |
      ⟨unsuccessful, notRendered, after⟩
    · obtain ⟨more, printed, last⟩ := inductionHypothesis _ _ _ freeAfter after
      have attempt : (printer.printText gate text desk).attempt = .answered .success := success
      refine ⟨blocks.flatten ++ Command.cut.bytes ++ more, ?_, ?_⟩
      · simp only [printTexts]
        rw [attempt]
        exact .success decoded renders printed
      · rw [← List.append_assoc]
        exact last
    · obtain ⟨more, printed, last⟩ := inductionHypothesis _ _ _ freeAfter after
      exact ⟨more, .failure unsuccessful notRendered printed, last⟩

/-- A regular file that is opened with some content receives exactly the receipts that are printed.
After the start and a list of texts it holds what sets the printer up and then the bytes of each
text that was printed, over what it held from its start on. A text that is refused or does not
render brings no byte, and those after it follow at once. -/
theorem file_receives_printed (profile : Profile) (content : Bytes) (texts : List String) :
    ∃ opened, (FileTarget.regular content).open? = .ok opened ∧
      let result := (Printer.mk profile (FileTarget.regular content).device).serve opened texts
      result.1 = .done ∧ ∃ printed, Printed profile texts result.2.1 printed ∧
        let stream := Command.bytesOfAll Guard.initialState ++ printed
        result.2.2.state = ⟨stream ++ content.drop stream.length, stream.length⟩ := by
  refine ⟨.overwritten content [], rfl, ?_⟩
  let printer : Printer OpenFile := ⟨profile, (FileTarget.regular content).device⟩
  have started : (printer.guard { Gate.fresh with isTaken := true }).start
      ⟨.overwritten content [], []⟩ =
        (.done, ⟨.overwritten content (Command.bytesOfAll Guard.initialState),
          [.offered (Command.bytesOfAll Guard.initialState)]⟩) := by
    simp [Guard.start, Guard.command, Guard.write, Printer.guard, printer,
      Guard.answerAll, Guard.andThen, FileTarget.write_regular, OpenFile.put_overwritten,
      Desk.note]
  obtain ⟨printed, isPrinted, last⟩ := Printer.printTexts_overwrites profile content texts .fresh
    ⟨.overwritten content (Command.bytesOfAll Guard.initialState),
      [.offered (Command.bytesOfAll Guard.initialState)]⟩ _ rfl rfl
  rw [Printer.serve, started]
  exact ⟨rfl, printed, isPrinted, last⟩

end ThermalPrint
