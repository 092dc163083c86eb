import ThermalPrint.Proofs.Printing.Access

/-!
# A mark shows in the log only

A panic of a holder leaves a mark on the gate. Two sessions that differ in the mark answer alike,
write alike and are answered alike by the device: all that a mark adds is a warning in the log each
time the printer is taken.
-/

namespace ThermalPrint

variable {σ α : Type}

/-- What an action does depends on the state of the device only. It adds to the trail without
looking at it, and what it adds is no warning that the printer is taken after a panic. -/
def OnlyAdds (action : Desk σ → α × Desk σ) : Prop :=
  ∀ state, ∃ result after added, Event.logged .takenAfterPanic ∉ added ∧
    ∀ trail, action ⟨state, trail⟩ = (result, ⟨after, trail ++ added⟩)

namespace OnlyAdds

theorem nothing (result : α) : OnlyAdds fun desk : Desk σ => (result, desk) := by
  intro state
  exact ⟨result, state, [], by simp, by simp⟩

theorem log (result : α) {entry : LogEntry} (other : entry ≠ .takenAfterPanic) :
    OnlyAdds fun desk : Desk σ => (result, desk.log entry) := by
  intro state
  exact ⟨result, state, [.logged entry], by simpa using other.symm, fun _ => rfl⟩

theorem of_log {action : Desk σ → α × Desk σ} (adds : OnlyAdds action) {entry : LogEntry}
    (other : entry ≠ .takenAfterPanic) : OnlyAdds fun desk => action (desk.log entry) := by
  intro state
  obtain ⟨result, after, added, silent, acts⟩ := adds state
  refine ⟨result, after, .logged entry :: added, by simpa [silent] using other.symm, ?_⟩
  intro trail
  simp [Desk.log, Desk.note, acts]

theorem andThen {first next : Desk σ → Ending × Desk σ} (adds : OnlyAdds first)
    (addsNext : OnlyAdds next) : OnlyAdds fun desk => Guard.andThen (first desk) next := by
  intro state
  obtain ⟨ending, middle, added, silent, acts⟩ := adds state
  cases ending with
  | done =>
    obtain ⟨last, after, more, silentNext, actsNext⟩ := addsNext middle
    refine ⟨last, after, added ++ more, by simp [silent, silentNext], ?_⟩
    intro trail
    simp [Guard.andThen, acts, actsNext]
  | failed error =>
    exact ⟨.failed error, middle, added, silent, by simp [Guard.andThen, acts]⟩
  | panicked => exact ⟨.panicked, middle, added, silent, by simp [Guard.andThen, acts]⟩

end OnlyAdds

namespace Guard

variable {guard : Guard σ}

/-- A text that is handed in while the guard is held only adds to the trail. -/
def MeanwhileAdds (guard : Guard σ) : Prop :=
  ∀ text, OnlyAdds (guard.meanwhile text)

theorem onlyAdds_answerAll (adds : guard.MeanwhileAdds) (texts : List String) :
    OnlyAdds (guard.answerAll texts) := by
  induction texts with
  | nil => exact .nothing Ending.done
  | cons text texts inductionHypothesis =>
    intro state
    obtain ⟨attempt, middle, added, silent, acts⟩ := adds text state
    cases attempt with
    | answered outcome =>
      obtain ⟨ending, after, more, silentRest, actsRest⟩ := inductionHypothesis middle
      refine ⟨ending, after, added ++ .answered outcome :: more, by simp [silent, silentRest], ?_⟩
      intro trail
      simp [answerAll, acts, Desk.note, actsRest]
    | panicked => exact ⟨.panicked, middle, added, silent, by simp [answerAll, acts]⟩

theorem onlyAdds_write (adds : guard.MeanwhileAdds) (block : Bytes) :
    OnlyAdds (guard.write block) := by
  intro state
  rcases replied : guard.device.write block state with ⟨reply, middle⟩
  have ends : OnlyAdds fun desk : Desk σ => (reply.ending, desk) := .nothing reply.ending
  obtain ⟨ending, after, added, silent, acts⟩ :=
    (onlyAdds_answerAll adds reply.texts).andThen ends middle
  refine ⟨ending, after, .offered block :: added, by simp [silent], ?_⟩
  intro trail
  simp [write, replied, Desk.note, acts]

theorem onlyAdds_print (adds : guard.MeanwhileAdds) (item : Item) :
    OnlyAdds (guard.print item) := by
  unfold print
  cases item.render guard.profile with
  | error failure => exact .nothing (Ending.ofFailure failure)
  | ok block => exact onlyAdds_write adds block

theorem onlyAdds_writeBlocks (adds : guard.MeanwhileAdds) (index : Nat)
    (blocks : List (Kind × Bytes)) : OnlyAdds (guard.writeBlocks index blocks) := by
  induction blocks generalizing index with
  | nil => exact .nothing Ending.done
  | cons head rest inductionHypothesis =>
    obtain ⟨kind, block⟩ := head
    have first : OnlyAdds fun desk =>
        guard.write block (desk.log (.item index kind block.length)) :=
      (onlyAdds_write adds block).of_log (by simp)
    exact first.andThen (inductionHypothesis (index + 1))

theorem onlyAdds_execute (adds : guard.MeanwhileAdds) (receipt : Receipt) :
    OnlyAdds (guard.execute receipt) := by
  unfold execute
  cases receipt.blocks guard.profile with
  | error failure => exact .nothing (Ending.ofFailure failure)
  | ok blocks =>
    have items : OnlyAdds fun desk =>
        guard.writeBlocks 0 blocks (desk.log (.printing blocks.length)) :=
      (onlyAdds_writeBlocks adds 0 blocks).of_log (by simp)
    have cut : OnlyAdds guard.cut := onlyAdds_write adds _
    have finish : OnlyAdds fun desk : Desk σ => (Ending.done, desk.log .printed) :=
      .log Ending.done (by simp)
    exact items.andThen (cut.andThen finish)

end Guard

namespace Printer

variable (printer : Printer σ)

/-- While the gate is taken, its mark does not matter to what is handed in. -/
theorem guard_mark (one other : Bool) :
    printer.guard ⟨true, one⟩ = printer.guard ⟨true, other⟩ := by
  unfold guard
  congr
  funext text desk
  unfold printText
  cases Receipt.parse text with
  | error refusal => rfl
  | ok receipt => simp only [Handling.ofDecoded, submit_of_taken]

theorem meanwhileAdds_guard (isMarked : Bool) : (printer.guard ⟨true, isMarked⟩).MeanwhileAdds := by
  intro text
  simp only [guard, printText]
  cases Receipt.parse text with
  | error refusal => exact .log _ (by simp)
  | ok receipt =>
    simp only [Handling.ofDecoded, submit_of_taken]
    exact (OnlyAdds.log _ (by simp)).of_log (by simp)

end Printer

/-! ## Requests -/

def Answer.isPanic : Answer → Bool
  | .ending reached => reached == .panicked
  | .attempt made => made == .panicked
  | _ => false

namespace Request

/-- Whether a request takes the printer: it asks for it, and nobody has it. A new gate takes
nothing. -/
def takes (holdsGuard : Bool) : Request → Bool
  | newGate => false
  | request => request.asks holdsGuard && !holdsGuard

/-- Whether the gate has a mark after a request and its answer. Who has taken the printer for the
request leaves one by a panic, and only a new gate has none again. -/
def marksAfter (holdsGuard isMarked : Bool) (answer : Answer) : Request → Bool
  | newGate => holdsGuard && isMarked
  | request => isMarked || (request.takes holdsGuard && answer.isPanic)

end Request

namespace Trail

/-- The warning that is given when the printer is taken at a gate with a mark. -/
def warnings (takes isMarked : Bool) : Trail :=
  if takes && isMarked then [.logged .takenAfterPanic] else []

def withoutWarnings (trail : Trail) : Trail :=
  trail.filter (· ≠ .logged .takenAfterPanic)

end Trail

/-- What comes of a request besides its answer. -/
structure Deed (σ : Type) where
  state : σ
  /-- What is noted before the printer is taken. -/
  before : Trail
  /-- What is noted after the printer has been taken. -/
  after : Trail

namespace Deed

/-- The desk after a deed: a warning is added where the printer is taken at a gate with a mark. -/
def desk (deed : Deed σ) (takes isMarked : Bool) (trail : Trail) : Desk σ :=
  ⟨deed.state, trail ++ deed.before ++ Trail.warnings takes isMarked ++ deed.after⟩

/-- A deed has no warnings of its own, and offers no block before the printer is taken. -/
structure IsPlain (deed : Deed σ) : Prop where
  unwarned_before : Event.logged .takenAfterPanic ∉ deed.before
  blocks_before : deed.before.blocks = []
  unwarned_after : Event.logged .takenAfterPanic ∉ deed.after

end Deed

theorem Desk.taken_eq (state : σ) (trail : Trail) (gate : Gate) :
    (Desk.mk state trail).taken gate = ⟨state, trail ++ Trail.warnings true gate.isMarked⟩ := by
  unfold Desk.taken Trail.warnings
  cases gate.isMarked <;> simp [Desk.log, Desk.note]

namespace Printer

variable (printer : Printer σ)

theorem submit_deed (holdsGuard : Bool) (receipt : Receipt) (state : σ) :
    ∃ attempt, ∃ deed : Deed σ, deed.IsPlain ∧ deed.before = [] ∧ ∀ isMarked trail,
      printer.submit ⟨holdsGuard, isMarked⟩ receipt ⟨state, trail⟩ =
        ⟨attempt, ⟨holdsGuard, isMarked || (!holdsGuard && attempt == .panicked)⟩,
          deed.desk (!holdsGuard) isMarked trail⟩ := by
  cases holdsGuard with
  | true =>
    refine ⟨.answered .busy, ⟨state, [], [.logged (.busy receipt.length)]⟩,
      ⟨by simp, rfl, by simp⟩, rfl, ?_⟩
    intro isMarked trail
    rw [submit_of_taken rfl]
    simp [Deed.desk, Trail.warnings, Desk.log, Desk.note]
  | false =>
    obtain ⟨ending, after, added, silent, acts⟩ :=
      Guard.onlyAdds_execute (printer.meanwhileAdds_guard false) receipt state
    -- What is handed in meanwhile meets a taken gate, so one mark stands for both in the guard.
    have executes : ∀ isMarked trail, printer.submit ⟨false, isMarked⟩ receipt ⟨state, trail⟩ =
        .ofEnding ⟨true, isMarked⟩
          (ending, ⟨after, trail ++ Trail.warnings true isMarked ++ added⟩) := by
      intro isMarked trail
      rw [submit_of_free rfl, Desk.taken_eq, printer.guard_mark isMarked false, acts]
    simp only [executes]
    cases ending with
    | done =>
      refine ⟨.answered .success, ⟨after, [], added⟩, ⟨by simp, rfl, silent⟩, rfl, ?_⟩
      intro isMarked trail
      simp [Handling.ofEnding, Gate.leave, Deed.desk]
    | failed error =>
      refine ⟨.answered (.failed error), ⟨after, [], added ++ [.logged (.failed error)]⟩,
        ⟨by simp, rfl, by simp [silent]⟩, rfl, ?_⟩
      intro isMarked trail
      simp [Handling.ofEnding, Gate.leave, Deed.desk, Desk.log, Desk.note]
    | panicked =>
      refine ⟨.panicked, ⟨after, [], added⟩, ⟨by simp, rfl, silent⟩, rfl, ?_⟩
      intro isMarked trail
      simp [Handling.ofEnding, Gate.leaveInPanic, Deed.desk]

theorem decoded_deed (holdsGuard : Bool) (decoded : Except Refusal Receipt) (state : σ) :
    ∃ attempt, ∃ deed : Deed σ, deed.IsPlain ∧ ∀ isMarked trail,
      Handling.ofDecoded ⟨holdsGuard, isMarked⟩ (printer.submit ⟨holdsGuard, isMarked⟩) decoded
          ⟨state, trail⟩ =
        ⟨attempt,
          ⟨holdsGuard, isMarked || ((decoded.isOk && !holdsGuard) && attempt == .panicked)⟩,
          deed.desk (decoded.isOk && !holdsGuard) isMarked trail⟩ := by
  cases decoded with
  | error refusal =>
    refine ⟨.answered (.refused refusal), ⟨state, [], [.logged (.rejected refusal)]⟩,
      ⟨by simp, rfl, by simp⟩, ?_⟩
    intro isMarked trail
    simp [Handling.ofDecoded, Deed.desk, Trail.warnings, Desk.log, Desk.note, Except.isOk,
      Except.toBool]
  | ok receipt =>
    obtain ⟨attempt, deed, plain, nothing, submits⟩ := printer.submit_deed holdsGuard receipt state
    refine ⟨attempt, { deed with before := [.logged (.received receipt.length)] },
      ⟨by simp, rfl, plain.unwarned_after⟩, ?_⟩
    intro isMarked trail
    simp [Handling.ofDecoded, Desk.log, Desk.note, submits, Deed.desk, nothing, Except.isOk,
      Except.toBool]

end Printer

namespace Session

/-- A session in which the gate is taken exactly while the caller holds the guard. -/
def atGate (printer : Printer σ) (holdsGuard isMarked : Bool) (desk : Desk σ) : Session σ :=
  ⟨printer, ⟨holdsGuard, isMarked⟩, holdsGuard, desk⟩

variable (printer : Printer σ)

theorem use_deed (holdsGuard : Bool) (action : Guard σ → Desk σ → Ending × Desk σ)
    (adds : OnlyAdds (action (printer.guard ⟨true, false⟩))) (state : σ) :
    ∃ ending, ∃ deed : Deed σ, deed.IsPlain ∧ ∀ isMarked trail,
      (atGate printer holdsGuard isMarked ⟨state, trail⟩).use action =
        (some ending,
          atGate printer holdsGuard (isMarked || (!holdsGuard && ending == .panicked))
            (deed.desk (!holdsGuard) isMarked trail)) := by
  obtain ⟨ending, after, added, silent, acts⟩ := adds state
  refine ⟨ending, ⟨after, [], added⟩, ⟨by simp, rfl, silent⟩, ?_⟩
  intro isMarked trail
  cases holdsGuard with
  | true =>
    simp only [use, atGate, if_true]
    rw [printer.guard_mark isMarked false, acts]
    simp [Deed.desk, Trail.warnings]
  | false =>
    simp only [use, atGate, Gate.take?, Desk.taken_eq, Bool.false_eq_true, if_false]
    rw [printer.guard_mark isMarked false, acts]
    cases ending <;> simp [Deed.desk, gateAfter, Gate.leave, Gate.leaveInPanic]

/-- A request has the same answer and does the same, whatever the mark of the gate is and whatever
has happened before. -/
def StepsBy (session : Session σ) (request : Request) (answer : Answer) (deed : Deed σ) : Prop :=
  session.step request =
    (answer,
      atGate session.printer (request.holdsAfter session.holdsGuard)
        (request.marksAfter session.holdsGuard session.gate.isMarked answer)
        (deed.desk (request.takes session.holdsGuard) session.gate.isMarked session.desk.trail))

theorem step_use (holdsGuard : Bool) (request : Request)
    (action : Guard σ → Desk σ → Ending × Desk σ)
    (steps : ∀ session : Session σ, session.step request =
      (Answer.ofUse (session.use action).1, (session.use action).2))
    (takes : request.takes holdsGuard = !holdsGuard)
    (holdsAfter : request.holdsAfter holdsGuard = holdsGuard)
    (marksAfter : ∀ isMarked answer, request.marksAfter holdsGuard isMarked answer =
      (isMarked || (request.takes holdsGuard && answer.isPanic)))
    (adds : OnlyAdds (action (printer.guard ⟨true, false⟩))) (state : σ) :
    ∃ answer, ∃ deed : Deed σ, deed.IsPlain ∧ ∀ isMarked trail,
      (atGate printer holdsGuard isMarked ⟨state, trail⟩).StepsBy request answer deed := by
  obtain ⟨ending, deed, plain, uses⟩ := use_deed printer holdsGuard action adds state
  refine ⟨.ending ending, deed, plain, ?_⟩
  intro isMarked trail
  unfold StepsBy
  rw [steps, uses]
  simp only [atGate, Answer.ofUse, takes, holdsAfter, marksAfter, Answer.isPanic]

/-- A request that only takes the printer. -/
theorem step_taking {holdsGuard : Bool} {state : σ} {request : Request} (answer : Answer)
    (takes : request.takes holdsGuard = true)
    (steps : ∀ isMarked desk, (atGate printer holdsGuard isMarked desk).step request =
      (answer, atGate printer (request.holdsAfter holdsGuard)
        (request.marksAfter holdsGuard isMarked answer) (desk.taken ⟨holdsGuard, isMarked⟩))) :
    ∃ answer, ∃ deed : Deed σ, deed.IsPlain ∧ ∀ isMarked trail,
      (atGate printer holdsGuard isMarked ⟨state, trail⟩).StepsBy request answer deed := by
  refine ⟨answer, ⟨state, [], []⟩, ⟨by simp, rfl, by simp⟩, ?_⟩
  intro isMarked trail
  unfold StepsBy
  rw [steps, Desk.taken_eq]
  simp [atGate, Deed.desk, takes]

/-- A request that leaves the desk alone. -/
theorem step_still {holdsGuard : Bool} {state : σ} {request : Request} (answer : Answer)
    (takes : request.takes holdsGuard = false)
    (steps : ∀ isMarked desk, (atGate printer holdsGuard isMarked desk).step request =
      (answer, atGate printer (request.holdsAfter holdsGuard)
        (request.marksAfter holdsGuard isMarked answer) desk)) :
    ∃ answer, ∃ deed : Deed σ, deed.IsPlain ∧ ∀ isMarked trail,
      (atGate printer holdsGuard isMarked ⟨state, trail⟩).StepsBy request answer deed := by
  refine ⟨answer, ⟨state, [], []⟩, ⟨by simp, rfl, by simp⟩, ?_⟩
  intro isMarked trail
  unfold StepsBy
  rw [steps]
  simp [atGate, Deed.desk, takes, Trail.warnings]

theorem step_deed (holdsGuard : Bool) (state : σ) (request : Request) :
    ∃ answer, ∃ deed : Deed σ, deed.IsPlain ∧ ∀ isMarked trail,
      (atGate printer holdsGuard isMarked ⟨state, trail⟩).StepsBy request answer deed := by
  have meanwhileAdds := printer.meanwhileAdds_guard false
  -- First the uses of the guard, then what is handed in, last what makes no call of the device.
  cases request with
  | start =>
    exact step_use printer holdsGuard .start Guard.start (fun _ => rfl) (Bool.and_self _) rfl
      (fun _ _ => rfl) (Guard.onlyAdds_write meanwhileAdds _) state
  | cut =>
    exact step_use printer holdsGuard .cut Guard.cut (fun _ => rfl) (Bool.and_self _) rfl
      (fun _ _ => rfl) (Guard.onlyAdds_write meanwhileAdds _) state
  | write bytes =>
    exact step_use printer holdsGuard (.write bytes) (fun guard => guard.write bytes)
      (fun _ => rfl) (Bool.and_self _) rfl (fun _ _ => rfl)
      (Guard.onlyAdds_write meanwhileAdds bytes) state
  | print item =>
    exact step_use printer holdsGuard (.print item) (fun guard => guard.print item)
      (fun _ => rfl) (Bool.and_self _) rfl (fun _ _ => rfl)
      (Guard.onlyAdds_print meanwhileAdds item) state
  | execute receipt =>
    exact step_use printer holdsGuard (.execute receipt) (fun guard => guard.execute receipt)
      (fun _ => rfl) (Bool.and_self _) rfl (fun _ _ => rfl)
      (Guard.onlyAdds_execute meanwhileAdds receipt) state
  | submit receipt =>
    obtain ⟨attempt, deed, plain, _, submits⟩ := printer.submit_deed holdsGuard receipt state
    refine ⟨.attempt attempt, deed, plain, ?_⟩
    intro isMarked trail
    simp only [StepsBy, step, handled, atGate, submits]
    rfl
  | printText text =>
    obtain ⟨attempt, deed, plain, handles⟩ :=
      printer.decoded_deed holdsGuard (Receipt.parse text) state
    refine ⟨.attempt attempt, deed, plain, ?_⟩
    intro isMarked trail
    simp only [StepsBy, step, handled, atGate, Printer.printText, handles]
    rfl
  | printValue value =>
    obtain ⟨attempt, deed, plain, handles⟩ :=
      printer.decoded_deed holdsGuard (Receipt.decode value) state
    refine ⟨.attempt attempt, deed, plain, ?_⟩
    intro isMarked trail
    simp only [StepsBy, step, handled, atGate, Printer.printValue, handles]
    rfl
  | take =>
    cases holdsGuard with
    | true => exact step_still printer .busy rfl (by rintro (_ | _) desk <;> rfl)
    | false => exact step_taking printer (.ending .done) rfl (by rintro (_ | _) desk <;> rfl)
  | panic =>
    cases holdsGuard with
    | true => exact step_still printer .busy rfl (by rintro (_ | _) desk <;> rfl)
    | false => exact step_taking printer (.ending .panicked) rfl (by rintro (_ | _) desk <;> rfl)
  | profile =>
    let answer : Answer := .profile printer.profile
    cases holdsGuard with
    | true => exact step_still printer answer rfl (by rintro (_ | _) desk <;> rfl)
    | false => exact step_taking printer answer rfl (by rintro (_ | _) desk <;> rfl)
  | giveBack =>
    cases holdsGuard with
    | true => exact step_still printer (.wasHeld true) rfl (by rintro (_ | _) desk <;> rfl)
    | false => exact step_still printer (.wasHeld false) rfl (by rintro (_ | _) desk <;> rfl)
  | describe =>
    let answer : Answer := .description (if holdsGuard then some printer.profile else none)
    exact step_still printer answer rfl (by rintro (_ | _) desk <;> rfl)
  | newGate =>
    cases holdsGuard with
    | true => exact step_still printer .busy rfl (by rintro (_ | _) desk <;> rfl)
    | false => exact step_still printer (.ending .done) rfl (by rintro (_ | _) desk <;> rfl)

end Session

/-! ## Runs -/

namespace Trail

theorem withoutWarnings_append (first second : Trail) :
    withoutWarnings (first ++ second) = first.withoutWarnings ++ second.withoutWarnings :=
  List.filter_append ..

theorem withoutWarnings_warnings (takes isMarked : Bool) :
    (warnings takes isMarked).withoutWarnings = [] := by
  unfold warnings
  split <;> simp [withoutWarnings]

theorem blocks_withoutWarnings (trail : Trail) : trail.withoutWarnings.blocks = trail.blocks := by
  unfold withoutWarnings blocks
  rw [List.filterMap_filter]
  congr
  funext event
  cases event <;> simp

theorem outcomes_withoutWarnings (trail : Trail) :
    trail.withoutWarnings.outcomes = trail.outcomes := by
  unfold withoutWarnings outcomes
  rw [List.filterMap_filter]
  congr
  funext event
  cases event <;> simp

end Trail

theorem Deed.withoutWarnings_desk {first second : Trail}
    (same : first.withoutWarnings = second.withoutWarnings) (deed : Deed σ)
    (takes one other : Bool) : (deed.desk takes one first).trail.withoutWarnings =
      (deed.desk takes other second).trail.withoutWarnings := by
  simp only [desk, Trail.withoutWarnings_append, Trail.withoutWarnings_warnings, same]

/-- Two sessions that are alike but for the marks of their gates, and for the warnings in their
trails. -/
structure Session.Alike (first second : Session σ) : Prop where
  printer_eq : first.printer = second.printer
  holdsGuard_eq : first.holdsGuard = second.holdsGuard
  isTaken_eq : first.gate.isTaken = second.gate.isTaken
  state_eq : first.desk.state = second.desk.state
  trail_eq : first.desk.trail.withoutWarnings = second.desk.trail.withoutWarnings

namespace Session.Alike

variable {first second : Session σ}

theorem blocks_eq (alike : first.Alike second) :
    first.desk.trail.blocks = second.desk.trail.blocks := by
  rw [← Trail.blocks_withoutWarnings, alike.trail_eq, Trail.blocks_withoutWarnings]

theorem outcomes_eq (alike : first.Alike second) :
    first.desk.trail.outcomes = second.desk.trail.outcomes := by
  rw [← Trail.outcomes_withoutWarnings, alike.trail_eq, Trail.outcomes_withoutWarnings]

end Session.Alike

namespace Session

variable {first second session : Session σ} {request : Request}

theorem IsSettled.eq_atGate (settled : session.IsSettled) : session =
    atGate session.printer session.holdsGuard session.gate.isMarked session.desk := by
  obtain ⟨printer, ⟨isTaken, isMarked⟩, holdsGuard, desk⟩ := session
  cases settled
  rfl

/-- Two settled sessions that are alike meet a request with the same deed. -/
theorem Alike.exists_deed (alike : first.Alike second) (settled : first.IsSettled)
    (request : Request) : ∃ answer, ∃ deed : Deed σ, deed.IsPlain ∧
      first.StepsBy request answer deed ∧ second.StepsBy request answer deed := by
  have settledSecond : second.IsSettled := by
    rw [IsSettled, ← alike.isTaken_eq, ← alike.holdsGuard_eq]
    exact settled
  obtain ⟨answer, deed, plain, steps⟩ :=
    step_deed first.printer first.holdsGuard first.desk.state request
  refine ⟨answer, deed, plain, ?_, ?_⟩
  · rw [settled.eq_atGate]
    exact steps first.gate.isMarked first.desk.trail
  · rw [settledSecond.eq_atGate, ← alike.printer_eq, ← alike.holdsGuard_eq]
    have steps := steps second.gate.isMarked second.desk.trail
    rw [alike.state_eq] at steps
    exact steps

theorem Alike.step (alike : first.Alike second) (settled : first.IsSettled) (request : Request) :
    (first.step request).1 = (second.step request).1 ∧
      (first.step request).2.Alike (second.step request).2 ∧
      (first.step request).2.IsSettled := by
  obtain ⟨answer, deed, _, stepsFirst, stepsSecond⟩ := alike.exists_deed settled request
  rw [stepsFirst, stepsSecond, ← alike.printer_eq, ← alike.holdsGuard_eq]
  exact ⟨rfl, ⟨rfl, rfl, rfl, rfl, deed.withoutWarnings_desk alike.trail_eq _ _ _⟩, rfl⟩

theorem Alike.run (alike : first.Alike second) (settled : first.IsSettled)
    (requests : List Request) :
    (first.run requests).1 = (second.run requests).1 ∧
      (first.run requests).2.Alike (second.run requests).2 ∧
      (first.run requests).2.IsSettled := by
  induction requests generalizing first second with
  | nil => exact ⟨rfl, alike, settled⟩
  | cons request rest inductionHypothesis =>
    obtain ⟨sameAnswer, alikeAfter, settledAfter⟩ := alike.step settled request
    obtain ⟨sameAnswers, alikeLast, settledLast⟩ := inductionHypothesis alikeAfter settledAfter
    refine ⟨?_, alikeLast, settledLast⟩
    simp only [Session.run, sameAnswer, sameAnswers]

theorem isMarked_step (settled : session.IsSettled) (isMarked : session.gate.isMarked = true)
    (other : request ≠ .newGate) : (session.step request).2.gate.isMarked = true := by
  have alike : session.Alike session := ⟨rfl, rfl, rfl, rfl, rfl⟩
  obtain ⟨answer, deed, _, steps, _⟩ := alike.exists_deed settled request
  rw [steps]
  cases request with
  | newGate => exact absurd rfl other
  | _ => simp [atGate, Request.marksAfter, isMarked]

/-- Only a new gate has no mark again. -/
theorem isMarked_run (settled : session.IsSettled) (isMarked : session.gate.isMarked = true)
    {requests : List Request} (others : ∀ request ∈ requests, request ≠ .newGate) :
    (session.run requests).2.gate.isMarked = true := by
  induction requests generalizing session with
  | nil => exact isMarked
  | cons request rest inductionHypothesis =>
    rw [List.forall_mem_cons] at others
    have settledAfter := (step_of_settled settled request).settled
    exact inductionHypothesis settledAfter (isMarked_step settled isMarked others.1) others.2

end Session

/-- A mark shows in the log only. Two sessions that differ in the mark of the gate get the same
answers to all requests, and then are alike: the same blocks have been offered to devices in the
same state, texts that were handed in have been answered in the same way, and the trails differ in
warnings only. Whatever is requested next is met by the same deed, with a warning exactly where the
printer is taken at a gate with a mark. Who panics having taken the printer leaves a mark, which
stays until the printer is put behind a new gate; and this leaves the printer and the desk as they
are. -/
theorem mark_shows_in_log_only (printer : Printer σ) (holdsGuard one other : Bool) (desk : Desk σ)
    (requests : List Request) (request : Request) :
    let first := (Session.atGate printer holdsGuard one desk).run requests
    let second := (Session.atGate printer holdsGuard other desk).run requests
    first.1 = second.1 ∧ first.2.Alike second.2 ∧
      first.2.desk.trail.blocks = second.2.desk.trail.blocks ∧
      first.2.desk.trail.outcomes = second.2.desk.trail.outcomes ∧
      (∃ answer, ∃ deed : Deed σ, deed.IsPlain ∧
        first.2.StepsBy request answer deed ∧ second.2.StepsBy request answer deed) ∧
      (one = true → (∀ earlier ∈ requests, earlier ≠ .newGate) →
        first.2.gate.isMarked = true) ∧
      (first.2.holdsGuard = false →
        first.2.step .newGate = (.ending .done, { first.2 with gate := .fresh })) := by
  intro first second
  have settled : (Session.atGate printer holdsGuard one desk).IsSettled := rfl
  have alike : (Session.atGate printer holdsGuard one desk).Alike
      (Session.atGate printer holdsGuard other desk) := ⟨rfl, rfl, rfl, rfl, rfl⟩
  obtain ⟨sameAnswers, alikeAfter, settledAfter⟩ := alike.run settled requests
  refine ⟨sameAnswers, alikeAfter, alikeAfter.blocks_eq, alikeAfter.outcomes_eq,
    alikeAfter.exists_deed settledAfter request, ?_, ?_⟩
  · intro isMarked others
    exact Session.isMarked_run settled isMarked others
  · intro free
    simp [Session.step, free]

end ThermalPrint
