import ThermalPrint.Proofs.Printing.Access
import ThermalPrint.Proofs.Printing.Execution
import ThermalPrint.Proofs.Receipt.RoundTrip

/-!
# An outcome tells what has happened

A receipt takes one of four courses. It is refused, it is turned away, an item of it does not
render, or its blocks are offered. `Course` says which calls each course makes and what it leaves
behind. From this the caller may conclude what has become of the printer: whether bytes went out,
whether all of them did, and that the gate is as it was.
-/

namespace ThermalPrint

variable {σ : Type}

namespace Receipt

variable {profile : Profile} {receipt : Receipt}

theorem renders_iff {blocks : List Bytes} : receipt.Renders profile blocks ↔
    ∃ entries, receipt.blocks profile = .ok entries ∧ entries.map Prod.snd = blocks := by
  constructor
  · exact renderFrom_of_rendered 0
  · rintro ⟨entries, success, rfl⟩
    exact rendered_of_renderFrom success

theorem Renders.unique {first second : List Bytes} (one : receipt.Renders profile first)
    (other : receipt.Renders profile second) : first = second := by
  have same : first.map Except.ok = second.map (Except.ok (ε := Failure)) :=
    one.symm.trans other
  exact List.map_injective_iff.mpr (fun _ _ => Except.ok.inj) same

theorem blocks_eq_error_error_iff {error : Error} :
    receipt.blocks profile = .error (.error error) ↔
      ∃ index item source, receipt.FailsFirst profile index item (.error source) ∧
        error = .render index item.kind source := by
  rw [blocks_eq_error_iff]
  constructor
  · rintro ⟨index, item, own, first, same⟩
    cases own with
    | error source => exact ⟨index, item, source, first, Failure.error.inj same⟩
    | panic => cases same
  · rintro ⟨index, item, source, first, rfl⟩
    exact ⟨index, item, .error source, first, rfl⟩

/-- If no item panics, then a receipt that does not render fails with the error of an item. -/
theorem NeverPanics.blocks_error (neverPanics : receipt.NeverPanics profile) {failure : Failure}
    (failed : receipt.blocks profile = .error failure) :
    receipt.Fails profile ∧ ∃ index kind source, failure = .error (.render index kind source) := by
  obtain ⟨index, item, own, first, rfl⟩ := blocks_eq_error_iff.mp failed
  obtain ⟨source, rfl⟩ := neverPanics.exists_error first
  exact ⟨first.fails, index, item.kind, source, rfl⟩

end Receipt

namespace Handling

variable {gate : Gate} {result : Ending × Desk σ}

theorem attempt_ofEnding_eq_success_iff :
    (ofEnding gate result).attempt = .answered .success ↔ result.1 = .done := by
  obtain ⟨ending, desk⟩ := result
  cases ending <;> simp [ofEnding]

theorem attempt_ofEnding_eq_failed_iff {error : Error} :
    (ofEnding gate result).attempt = .answered (.failed error) ↔ result.1 = .failed error := by
  obtain ⟨ending, desk⟩ := result
  cases ending <;> simp [ofEnding]

theorem attempt_ofEnding_eq_panicked_iff :
    (ofEnding gate result).attempt = .panicked ↔ result.1 = .panicked := by
  obtain ⟨ending, desk⟩ := result
  cases ending <;> simp [ofEnding]

theorem attempt_ofEnding_ne_refused (refusal : Refusal) :
    (ofEnding gate result).attempt ≠ .answered (.refused refusal) := by
  obtain ⟨ending, desk⟩ := result
  cases ending <;> simp [ofEnding]

theorem attempt_ofEnding_ne_busy : (ofEnding gate result).attempt ≠ .answered .busy := by
  obtain ⟨ending, desk⟩ := result
  cases ending <;> simp [ofEnding]

theorem carried_ofEnding {device : Device σ} {before : Desk σ} {calls : List Call}
    (carried : Carried device before calls result.2) :
    Carried device before calls (ofEnding gate result).desk := by
  obtain ⟨ending, desk⟩ := result
  cases ending with
  | done => exact carried
  | failed error => exact carried.log (.failed error)
  | panicked => exact carried

end Handling

/-- The gate after its holder has ended: as it was before, unless the holder panicked. -/
theorem Handling.gate_ofEnding {gate : Gate} (free : gate.isTaken = false)
    (result : Ending × Desk σ) : (ofEnding { gate with isTaken := true } result).gate =
      if (ofEnding { gate with isTaken := true } result).attempt = .panicked then ⟨false, true⟩
      else gate := by
  obtain ⟨ending, desk⟩ := result
  obtain ⟨isTaken, isMarked⟩ := gate
  cases free
  cases ending <;> simp [ofEnding, Gate.leave, Gate.leaveInPanic]

/-- How a receipt may be dealt with, what calls are then made of the device, and what is left
behind. -/
inductive Course (printer : Printer σ) (gate : Gate) (before : Desk σ) :
    Except Refusal Receipt → List Call → Handling σ → Prop where
  | refused (refusal : Refusal) :
      Course printer gate before (.error refusal) []
        ⟨.answered (.refused refusal), gate, before.log (.rejected refusal)⟩
  | turnedAway (receipt : Receipt) (taken : gate.isTaken = true) :
      Course printer gate before (.ok receipt) []
        ⟨.answered .busy, gate,
          (before.log (.received receipt.length)).log (.busy receipt.length)⟩
  | unrendered {receipt : Receipt} {failure : Failure} {after : Desk σ}
      (free : gate.isTaken = false)
      (failed : receipt.blocks printer.profile = .error failure)
      (carried : Carried printer.device before [] after) :
      Course printer gate before (.ok receipt) []
        (.ofEnding { gate with isTaken := true } (.ofFailure failure, after))
  | offered {receipt : Receipt} {blocks : List Bytes} {calls : List Call}
      {result : Ending × Desk σ} (free : gate.isTaken = false)
      (rendered : receipt.Renders printer.profile blocks)
      (served : Served (blocks ++ [Command.cut.bytes]) calls result.1)
      (carried : Carried printer.device before calls result.2) :
      Course printer gate before (.ok receipt) calls
        (.ofEnding { gate with isTaken := true } result)

theorem Printer.exists_course (printer : Printer σ) (gate : Gate)
    (decoded : Except Refusal Receipt) (desk : Desk σ) :
    ∃ calls, Course printer gate desk decoded calls
      (Handling.ofDecoded gate (printer.submit gate) decoded desk) := by
  cases decoded with
  | error refusal => exact ⟨[], .refused refusal⟩
  | ok receipt =>
    have decodes : Handling.ofDecoded gate (printer.submit gate) (.ok receipt) desk =
        printer.submit gate receipt (desk.log (.received receipt.length)) := rfl
    rw [decodes]
    cases inUse : gate.isTaken with
    | true =>
      rw [submit_of_taken inUse]
      exact ⟨[], .turnedAway receipt inUse⟩
    | false =>
      rw [submit_of_free inUse]
      have entered := ((Carried.refl printer.device desk).log (.received receipt.length)).taken gate
      have quiet : (printer.guard { gate with isTaken := true }).IsQuiet :=
        printer.guard_isQuiet rfl
      generalize (desk.log (.received receipt.length)).taken gate = middle at entered ⊢
      cases rendering : receipt.blocks printer.profile with
      | error failure =>
        have ends : (printer.guard { gate with isTaken := true }).execute receipt middle =
            (.ofFailure failure, middle) := by
          simp only [Guard.execute, guard, rendering]
        rw [ends]
        exact ⟨[], .unrendered inUse rendering entered⟩
      | ok entries =>
        obtain ⟨calls, served, carried⟩ := Guard.performs_execute quiet receipt rendering middle
        have renders : receipt.Renders printer.profile (entries.map Prod.snd) :=
          Receipt.renders_iff.mpr ⟨entries, rendering, rfl⟩
        rw [Command.bytesOfAll_cut] at served
        exact ⟨calls, .offered inUse renders served (entered.trans carried)⟩

namespace Course

variable {printer : Printer σ} {gate : Gate} {before : Desk σ}
  {decoded : Except Refusal Receipt} {calls : List Call} {handling : Handling σ}

theorem carried (course : Course printer gate before decoded calls handling) :
    Carried printer.device before calls handling.desk := by
  have nothing := Carried.refl printer.device before
  cases course with
  | refused refusal => exact nothing.log _
  | turnedAway receipt taken => exact (nothing.log _).log _
  | unrendered free failed carried => exact Handling.carried_ofEnding carried
  | offered free rendered served carried => exact Handling.carried_ofEnding carried

theorem refused_iff (course : Course printer gate before decoded calls handling)
    (refusal : Refusal) :
    handling.attempt = .answered (.refused refusal) ↔ decoded = .error refusal := by
  cases course with
  | refused own => simp
  | turnedAway receipt taken => simp
  | unrendered free failed carried => simp [Handling.attempt_ofEnding_ne_refused]
  | offered free rendered served carried => simp [Handling.attempt_ofEnding_ne_refused]

theorem busy_iff (course : Course printer gate before decoded calls handling) :
    handling.attempt = .answered .busy ↔ decoded.isOk = true ∧ gate.isTaken = true := by
  cases course with
  | refused own => simp [Except.isOk, Except.toBool]
  | turnedAway receipt taken => simp [Except.isOk, Except.toBool, taken]
  | unrendered free failed carried => simp [Handling.attempt_ofEnding_ne_busy, free]
  | offered free rendered served carried => simp [Handling.attempt_ofEnding_ne_busy, free]

theorem unrendered_iff (course : Course printer gate before decoded calls handling)
    (error : Error) : handling.attempt = .answered (.failed error) ∧ calls = [] ↔
      gate.isTaken = false ∧ ∃ receipt, decoded = .ok receipt ∧
        ∃ index item source, receipt.FailsFirst printer.profile index item (.error source) ∧
          error = .render index item.kind source := by
  simp only [← Receipt.blocks_eq_error_error_iff]
  cases course with
  | refused own => simp
  | turnedAway receipt taken => simp [taken]
  | @unrendered receipt failure after free failed carried =>
    simp only [Handling.attempt_ofEnding_eq_failed_iff, free, Except.ok.injEq, true_and,
      and_true, exists_eq_left', failed]
    cases failure <;> simp [Ending.ofFailure]
  | @offered receipt blocks calls result free rendered served carried =>
    obtain ⟨entries, success, _⟩ := Receipt.renders_iff.mp rendered
    have some : calls ≠ [] := served.ne_nil (by simp)
    simp [some, success]

theorem deviceFailed_iff (course : Course printer gate before decoded calls handling)
    (error : Error) : handling.attempt = .answered (.failed error) ∧ calls ≠ [] ↔
      ∃ call ∈ calls, call.reply.ending = .failed error := by
  cases course with
  | refused own => simp
  | turnedAway receipt taken => simp
  | unrendered free failed carried => simp
  | @offered receipt blocks calls result free rendered served carried =>
    have some : calls ≠ [] := served.ne_nil (by simp)
    rw [Handling.attempt_ofEnding_eq_failed_iff, served.eq_ending_iff (by simp)]
    simp only [some, ne_eq, not_false_eq_true, and_true]

theorem success_iff (course : Course printer gate before decoded calls handling) :
    handling.attempt = .answered .success ↔ ∃ receipt blocks, decoded = .ok receipt ∧
      receipt.Renders printer.profile blocks ∧
      calls.map Call.block = blocks ++ [Command.cut.bytes] ∧ ∀ call ∈ calls, call.Succeeds := by
  cases course with
  | refused own => simp
  | turnedAway receipt taken => simp
  | @unrendered receipt failure after free failed carried =>
    rw [Handling.attempt_ofEnding_eq_success_iff]
    cases failure <;> simp [Ending.ofFailure]
  | @offered receipt blocks calls result free rendered served carried =>
    rw [Handling.attempt_ofEnding_eq_success_iff, served.done_iff]
    constructor
    · rintro ⟨all, succeed⟩
      exact ⟨receipt, blocks, rfl, rendered, all, succeed⟩
    · rintro ⟨other, otherBlocks, same, otherRendered, all, succeed⟩
      cases same
      have sameBlocks : otherBlocks = blocks := otherRendered.unique rendered
      exact ⟨sameBlocks ▸ all, succeed⟩

/-- If no item panics, then the outcome is the error of an item exactly if an item does not render,
but for a device that fails with such an error itself. -/
theorem render_iff (course : Course printer gate before decoded calls handling)
    (neverPanics : ∀ receipt, decoded = .ok receipt → receipt.NeverPanics printer.profile)
    (own : ∀ call ∈ calls, ∀ index kind source,
      call.reply.ending ≠ .failed (.render index kind source)) :
    (∃ index kind source,
      handling.attempt = .answered (.failed (.render index kind source))) ↔
        gate.isTaken = false ∧ ∃ receipt, decoded = .ok receipt ∧
          receipt.Fails printer.profile := by
  cases course with
  | refused refusal => simp
  | turnedAway receipt taken => simp [taken]
  | @unrendered receipt failure after free failed carried =>
    obtain ⟨fails, index, kind, source, rfl⟩ := (neverPanics receipt rfl).blocks_error failed
    constructor
    · intro _
      exact ⟨free, receipt, rfl, fails⟩
    · intro _
      exact ⟨index, kind, source, rfl⟩
  | @offered receipt blocks calls result free rendered served carried =>
    constructor
    · rintro ⟨index, kind, source, outcome⟩
      rw [Handling.attempt_ofEnding_eq_failed_iff, served.eq_ending_iff (by simp)] at outcome
      obtain ⟨call, member, ends⟩ := outcome
      exact absurd ends (own call member index kind source)
    · rintro ⟨_, other, same, fails⟩
      cases same
      exact absurd fails rendered.not_fails

theorem panicked_iff (course : Course printer gate before decoded calls handling)
    (neverPanics : ∀ receipt, decoded = .ok receipt → receipt.NeverPanics printer.profile) :
    handling.attempt = .panicked ↔ ∃ call ∈ calls, call.reply.ending = .panicked := by
  cases course with
  | refused own => simp
  | turnedAway receipt taken => simp
  | @unrendered receipt failure after free failed carried =>
    obtain ⟨_, index, kind, source, rfl⟩ := (neverPanics receipt rfl).blocks_error failed
    simp [Handling.attempt_ofEnding_eq_panicked_iff, Ending.ofFailure]
  | @offered receipt blocks calls result free rendered served carried =>
    rw [Handling.attempt_ofEnding_eq_panicked_iff, served.eq_ending_iff (by simp)]

theorem eq_nil_of_not_succeeds (course : Course printer gate before decoded calls handling)
    {front rest : List Call} {call : Call} (split : calls = front ++ call :: rest)
    (fails : ¬call.Succeeds) : rest = [] := by
  cases course with
  | refused own => simp at split
  | turnedAway receipt taken => simp at split
  | unrendered free failed carried => simp at split
  | offered free rendered served carried => exact served.eq_nil_of_not_succeeds split fails

theorem gate_eq (course : Course printer gate before decoded calls handling) :
    handling.gate = if handling.attempt = .panicked then ⟨false, true⟩ else gate := by
  cases course with
  | refused own => rfl
  | turnedAway receipt taken => rfl
  | unrendered free failed carried => exact Handling.gate_ofEnding free _
  | offered free rendered served carried => exact Handling.gate_ofEnding free _

end Course

/-- What an outcome tells about the printer. The calls are those that were made of the device. -/
structure Tells (printer : Printer σ) (gate : Gate) (before : Desk σ)
    (decoded : Except Refusal Receipt) (calls : List Call) (handling : Handling σ) : Prop where
  carried : Carried printer.device before calls handling.desk
  refused_iff (refusal : Refusal) :
    handling.attempt = .answered (.refused refusal) ↔ decoded = .error refusal
  /-- A text is refused before anyone looks at the gate. -/
  desk_of_refused (refusal : Refusal) : decoded = .error refusal →
    calls = [] ∧ handling.desk = before.log (.rejected refusal)
  busy_iff : handling.attempt = .answered .busy ↔ decoded.isOk = true ∧ gate.isTaken = true
  desk_of_busy (receipt : Receipt) : decoded = .ok receipt → gate.isTaken = true →
    calls = [] ∧
      handling.desk = (before.log (.received receipt.length)).log (.busy receipt.length)
  unrendered_iff (error : Error) : handling.attempt = .answered (.failed error) ∧ calls = [] ↔
    gate.isTaken = false ∧ ∃ receipt, decoded = .ok receipt ∧
      ∃ index item source, receipt.FailsFirst printer.profile index item (.error source) ∧
        error = .render index item.kind source
  deviceFailed_iff (error : Error) :
    handling.attempt = .answered (.failed error) ∧ calls ≠ [] ↔
      ∃ call ∈ calls, call.reply.ending = .failed error
  success_iff : handling.attempt = .answered .success ↔
    ∃ receipt blocks, decoded = .ok receipt ∧ receipt.Renders printer.profile blocks ∧
      calls.map Call.block = blocks ++ [Command.cut.bytes] ∧ ∀ call ∈ calls, call.Succeeds
  /-- A device that never fails with the error of an item leaves this outcome to the items. -/
  render_iff : (∀ call ∈ calls, ∀ index kind source,
      call.reply.ending ≠ .failed (.render index kind source)) →
    ((∃ index kind source,
      handling.attempt = .answered (.failed (.render index kind source))) ↔
        gate.isTaken = false ∧ ∃ receipt, decoded = .ok receipt ∧
          receipt.Fails printer.profile)
  panicked_iff : handling.attempt = .panicked ↔ ∃ call ∈ calls, call.reply.ending = .panicked
  last_of_not_succeeds (front rest : List Call) (call : Call) :
    calls = front ++ call :: rest → ¬call.Succeeds → rest = []
  /-- Without a panic the gate is free or taken, and marked or not, as it was before. -/
  gate_eq : handling.gate = if handling.attempt = .panicked then ⟨false, true⟩ else gate

theorem Course.tells {printer : Printer σ} {gate : Gate} {before : Desk σ}
    {decoded : Except Refusal Receipt} {calls : List Call} {handling : Handling σ}
    (course : Course printer gate before decoded calls handling)
    (neverPanics : ∀ receipt, decoded = .ok receipt → receipt.NeverPanics printer.profile) :
    Tells printer gate before decoded calls handling where
  carried := course.carried
  refused_iff := course.refused_iff
  desk_of_refused := by
    intro refusal refused
    cases course with
    | refused own =>
      cases refused
      exact ⟨rfl, rfl⟩
    | _ => cases refused
  busy_iff := course.busy_iff
  desk_of_busy := by
    intro receipt decodes taken
    cases course with
    | refused own => cases decodes
    | turnedAway own _ =>
      cases decodes
      exact ⟨rfl, rfl⟩
    | unrendered free _ _ => simp [free] at taken
    | offered free _ _ _ => simp [free] at taken
  unrendered_iff := course.unrendered_iff
  deviceFailed_iff := course.deviceFailed_iff
  success_iff := course.success_iff
  render_iff := course.render_iff neverPanics
  panicked_iff := course.panicked_iff neverPanics
  last_of_not_succeeds := fun _ _ _ => course.eq_nil_of_not_succeeds
  gate_eq := course.gate_eq

/-- Whatever the gate is like, the outcome of a text whose items do not panic tells what has
happened to the printer; this includes texts that the device hands in during a print. Between
requests the gate is taken exactly while the caller holds the guard, and a text that is then to be
printed meets this gate. -/
theorem outcome_tells (printer : Printer σ) :
    (∀ (gate : Gate) (text : String) (desk : Desk σ),
      (∀ receipt, Receipt.parse text = .ok receipt → receipt.NeverPanics printer.profile) →
      ∃ calls,
        Tells printer gate desk (Receipt.parse text) calls (printer.printText gate text desk)) ∧
    ∀ (state : σ) (requests : List Request) (text : String),
      let session := ((Session.fresh printer state).run requests).2
      session.gate.isTaken = session.holdsGuard ∧
        session.step (.printText text) =
          session.handled (printer.printText session.gate text session.desk) := by
  constructor
  · intro gate text desk neverPanics
    obtain ⟨calls, course⟩ := printer.exists_course gate (Receipt.parse text) desk
    exact ⟨calls, course.tells neverPanics⟩
  · intro state requests text session
    have settled : (Session.fresh printer state).IsSettled := rfl
    obtain ⟨samePrinter, settledAfter, _⟩ := Session.run_of_settled settled requests
    have printerOfSession : session.printer = printer := samePrinter
    refine ⟨settledAfter, ?_⟩
    rw [Session.step, printerOfSession]

/-- At a gate with a mark, two feeds on a device that takes the first of them only, and a barcode
with too few digits behind a feed. -/
theorem outcomes_at_marked_gate :
    let printer : Printer Takings :=
      ⟨.ofFile "unused", .scheduled fun call => if call = 1 then some (.short 2) else none⟩
    let gate : Gate := ⟨false, true⟩
    let start : Desk Takings := ⟨[], []⟩
    let feeds : Receipt := ⟨[.feed 1, .feed 2]⟩
    let parted : Receipt := ⟨[.feed 1, .barcode "12" .ean8]⟩
    let flaw : Error := .barcode .ean8 "12" .wrongDigitCount
    (∃ calls, Tells printer gate start (Receipt.parse feeds.toJson.text) calls
        (printer.printText gate feeds.toJson.text start) ∧
      calls.map Call.block = [[0x1B, 0x64, 1], [0x1B, 0x64, 2]] ∧
      (∃ call ∈ calls, call.reply.ending = .failed (.shortWrite 2 3)) ∧
      (printer.printText gate feeds.toJson.text start).gate = gate) ∧
    ∃ calls, Tells printer gate start (Receipt.parse parted.toJson.text) calls
        (printer.printText gate parted.toJson.text start) ∧ calls = [] ∧
      (printer.printText gate parted.toJson.text start).attempt =
        .answered (.failed (.render 1 .barcode flaw)) := by
  intro printer gate start feeds parted flaw
  have noPanicFeeds : ∀ receipt, Receipt.parse feeds.toJson.text = .ok receipt →
      receipt.NeverPanics printer.profile := by
    intro receipt parsed
    obtain rfl := Except.ok.inj (feeds.parse_toJson.symm.trans parsed)
    have renders : feeds.Renders printer.profile [[0x1B, 0x64, 1], [0x1B, 0x64, 2]] := rfl
    exact renders.neverPanics
  have noPanicParted : ∀ receipt, Receipt.parse parted.toJson.text = .ok receipt →
      receipt.NeverPanics printer.profile := by
    intro receipt parsed item member panics
    obtain rfl := Except.ok.inj (parted.parse_toJson.symm.trans parsed)
    simp only [parted, List.mem_cons, List.not_mem_nil, or_false] at member
    rcases member with rfl | rfl
    · cases panics
    · cases panics
  obtain ⟨calls, tells⟩ := (outcome_tells printer).1 gate feeds.toJson.text start noPanicFeeds
  obtain ⟨partedCalls, partedTells⟩ :=
    (outcome_tells printer).1 gate parted.toJson.text start noPanicParted
  constructor
  · have handled : printer.printText gate feeds.toJson.text start =
        printer.submit gate feeds (start.log (.received feeds.length)) := by
      rw [Printer.printText, feeds.parse_toJson, Handling.ofDecoded]
    rw [Printer.submit_of_free rfl] at handled
    have outcome : (printer.printText gate feeds.toJson.text start).attempt =
        .answered (.failed (.shortWrite 2 3)) := by
      rw [handled]
      rfl
    have offered : (printer.printText gate feeds.toJson.text start).desk.trail.blocks =
        [[0x1B, 0x64, 1], [0x1B, 0x64, 2]] := by
      rw [handled]
      rfl
    have blocks : calls.map Call.block = [[0x1B, 0x64, 1], [0x1B, 0x64, 2]] :=
      tells.carried.blocks.symm.trans offered
    have some : calls ≠ [] := by
      intro nothing
      simp [nothing] at blocks
    have gateAfter := tells.gate_eq
    rw [outcome, if_neg (by simp)] at gateAfter
    exact ⟨calls, tells, blocks, (tells.deviceFailed_iff _).mp ⟨outcome, some⟩, gateAfter⟩
  · have first : parted.FailsFirst printer.profile 1 (.barcode "12" .ean8) (.error flaw) :=
      ⟨[.feed 1], [], [[0x1B, 0x64, 1]], rfl, rfl, rfl, rfl⟩
    obtain ⟨outcome, nothing⟩ := (partedTells.unrendered_iff (.render 1 .barcode flaw)).mpr
      ⟨rfl, parted, parted.parse_toJson, 1, _, flaw, first, rfl⟩
    exact ⟨partedCalls, partedTells, nothing, outcome⟩

/-- An item that does not render need not be reported as an error: if the rendering panics, the
caller gets no answer although the device has not panicked. -/
theorem printText_panics_on_brokenPalette :
    ¬∀ (fault? : Nat → Option Fault) (gate : Gate) (text : String) (receipt : Receipt)
      (desk : Desk Takings), (∀ number, fault? number ≠ some .panic) →
      Receipt.parse text = .ok receipt → gate.isTaken = false →
      (∃ item ∈ receipt.items, ∃ failure, item.render (.ofFile "unused") = .error failure) →
        ∃ error, (Printer.printText ⟨.ofFile "unused", .scheduled fault?⟩ gate text desk).attempt =
          .answered (.failed error) := by
  intro reported
  let printer : Printer Takings := ⟨.ofFile "unused", .scheduled fun _ => none⟩
  let receipt : Receipt := ⟨[brokenPalette]⟩
  have parsed := receipt.parse_toJson
  obtain ⟨error, failed⟩ :=
    reported (fun _ => none) .fresh receipt.toJson.text receipt ⟨[], []⟩ (by simp) parsed rfl
      failsFirst_brokenPalette.fails
  let guard := printer.guard { Gate.fresh with isTaken := true }
  have panics : ∀ desk, guard.execute receipt desk = (.panicked, desk) :=
    guard.execute_of_failsFirst failsFirst_brokenPalette
  rw [Printer.printText, parsed, Handling.ofDecoded, Printer.submit_of_free rfl,
    Handling.attempt_ofEnding_eq_failed_iff, panics] at failed
  cases failed

end ThermalPrint
