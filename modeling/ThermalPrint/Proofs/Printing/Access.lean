import Mathlib.Data.List.Forall2
import ThermalPrint.Printing.Session
import ThermalPrint.Proofs.Printing.Writes

/-!
# One user at a time

Whatever callers and the device do, the gate is taken exactly while somebody has the guard. A
request for the printer is turned away exactly then, a text that the device hands in never gets at
the printer, and each request leaves the gate as it found it, unless it takes or gives back the
guard. So the calls of the device belong to the requests one after the other.
-/

namespace ThermalPrint

variable {σ : Type}

/-- Some of the blocks of a list have been offered, from the first one on, as far as the device
took them, and nothing else. -/
def Offers (device : Device σ) (before : Desk σ) (blocks : List Bytes) (after : Desk σ) : Prop :=
  ∃ calls ending, Served blocks calls ending ∧ Carried device before calls after

theorem Performs.offers {device : Device σ} {before : Desk σ} {blocks : List Bytes}
    {result : Ending × Desk σ} (performs : Performs device before blocks result) :
    Offers device before blocks result.2 := by
  obtain ⟨calls, served, carried⟩ := performs
  exact ⟨calls, result.1, served, carried⟩

theorem Carried.offers_nothing {device : Device σ} {before after : Desk σ}
    (carried : Carried device before [] after) : Offers device before [] after :=
  ⟨[], .done, .all, carried⟩

theorem Carried.taken {device : Device σ} {before after : Desk σ} {calls : List Call}
    (carried : Carried device before calls after) (gate : Gate) :
    Carried device before calls (after.taken gate) := by
  unfold Desk.taken
  split
  · exact carried.log .takenAfterPanic
  · exact carried

theorem Offers.of_taken {device : Device σ} {before after : Desk σ} {blocks : List Bytes}
    {gate : Gate} (offers : Offers device (before.taken gate) blocks after) :
    Offers device before blocks after := by
  obtain ⟨calls, ending, served, carried⟩ := offers
  have taken : Carried device before [] (before.taken gate) :=
    (Carried.refl device before).taken gate
  exact ⟨calls, ending, served, taken.trans carried⟩

/-- The blocks of a receipt and the cut, and nothing if an item does not render. -/
def Receipt.writes (profile : Profile) (receipt : Receipt) : List Bytes :=
  match receipt.blocks profile with
  | .ok entries => entries.map Prod.snd ++ [Command.bytesOfAll [.cut]]
  | .error _ => []

/-- The block of an item, and nothing if it does not render. -/
def Item.writes (profile : Profile) (item : Item) : List Bytes :=
  (item.render profile).toOption.toList

namespace Guard

variable {guard : Guard σ}

theorem offers_print (quiet : guard.IsQuiet) (item : Item) (desk : Desk σ) :
    Offers guard.device desk (item.writes guard.profile) (guard.print item desk).2 := by
  unfold print Item.writes
  cases item.render guard.profile with
  | error failure => exact (Carried.refl guard.device desk).offers_nothing
  | ok block => exact (performs_write quiet block desk).offers

theorem offers_execute (quiet : guard.IsQuiet) (receipt : Receipt) (desk : Desk σ) :
    Offers guard.device desk (receipt.writes guard.profile) (guard.execute receipt desk).2 := by
  cases rendered : receipt.blocks guard.profile with
  | error failure =>
    simp only [execute, Receipt.writes, rendered]
    exact (Carried.refl guard.device desk).offers_nothing
  | ok entries =>
    simp only [Receipt.writes, rendered]
    exact (performs_execute quiet receipt rendered desk).offers

end Guard

def Attempt.isBusy : Attempt → Bool
  | .answered .busy => true
  | _ => false

def Answer.isBusy : Answer → Bool
  | .busy => true
  | .attempt made => made.isBusy
  | _ => false

/-- What asks for the printer is turned away exactly if it is in use, and then nothing is offered to
the device. Otherwise blocks of its own are offered and no others. -/
structure Exclusive (device : Device σ) (inUse asks : Bool) (blocks : List Bytes)
    (before : Desk σ) (isBusy : Bool) (after : Desk σ) : Prop where
  busy_iff : isBusy = true ↔ asks = true ∧ inUse = true
  untouched : isBusy = true → Carried device before [] after
  offers : isBusy = false → Offers device before blocks after

namespace Handling

theorem isTaken_ofEnding (gate : Gate) (result : Ending × Desk σ) :
    (ofEnding gate result).gate.isTaken = false := by
  obtain ⟨ending, desk⟩ := result
  cases ending <;> rfl

theorem isBusy_ofEnding (gate : Gate) (result : Ending × Desk σ) :
    (ofEnding gate result).attempt.isBusy = false := by
  obtain ⟨ending, desk⟩ := result
  cases ending <;> rfl

theorem offers_ofEnding {device : Device σ} {before : Desk σ} {blocks : List Bytes}
    {result : Ending × Desk σ} (gate : Gate) (offers : Offers device before blocks result.2) :
    Offers device before blocks (ofEnding gate result).desk := by
  obtain ⟨ending, desk⟩ := result
  obtain ⟨calls, ended, served, carried⟩ := offers
  cases ending with
  | done => exact ⟨calls, ended, served, carried⟩
  | failed error => exact ⟨calls, ended, served, carried.log (.failed error)⟩
  | panicked => exact ⟨calls, ended, served, carried⟩

end Handling

/-- The blocks of what has been decoded, and nothing if it is refused. -/
def Receipt.writesOf (profile : Profile) : Except Refusal Receipt → List Bytes
  | .ok receipt => receipt.writes profile
  | .error _ => []

theorem Exclusive.of_log {device : Device σ} {inUse asks isBusy : Bool} {blocks : List Bytes}
    {before after : Desk σ} {entry : LogEntry}
    (exclusive : Exclusive device inUse asks blocks (before.log entry) isBusy after) :
    Exclusive device inUse asks blocks before isBusy after where
  busy_iff := exclusive.busy_iff
  untouched := fun busy => (exclusive.untouched busy).of_log
  offers := fun free => by
    obtain ⟨calls, ending, served, carried⟩ := exclusive.offers free
    exact ⟨calls, ending, served, carried.of_log⟩

namespace Printer

theorem submit_exclusive (printer : Printer σ) (gate : Gate) (receipt : Receipt) (desk : Desk σ) :
    (printer.submit gate receipt desk).gate.isTaken = gate.isTaken ∧
      Exclusive printer.device gate.isTaken true (receipt.writes printer.profile) desk
        (printer.submit gate receipt desk).attempt.isBusy
        (printer.submit gate receipt desk).desk := by
  cases inUse : gate.isTaken with
  | true =>
    rw [submit_of_taken inUse]
    have turnedAway := (Carried.refl printer.device desk).log (.busy receipt.length)
    exact ⟨inUse, by simp [Attempt.isBusy], fun _ => turnedAway, by simp [Attempt.isBusy]⟩
  | false =>
    rw [submit_of_free inUse, Handling.isTaken_ofEnding, Handling.isBusy_ofEnding]
    have quiet : (printer.guard { gate with isTaken := true }).IsQuiet :=
      printer.guard_isQuiet rfl
    have offers := (Guard.offers_execute quiet receipt (desk.taken gate)).of_taken
    exact ⟨rfl, by simp, by simp, fun _ => Handling.offers_ofEnding _ offers⟩

theorem ofDecoded_exclusive (printer : Printer σ) (gate : Gate)
    (decoded : Except Refusal Receipt) (desk : Desk σ) :
    (Handling.ofDecoded gate (printer.submit gate) decoded desk).gate.isTaken = gate.isTaken ∧
      Exclusive printer.device gate.isTaken decoded.isOk
        (Receipt.writesOf printer.profile decoded) desk
        (Handling.ofDecoded gate (printer.submit gate) decoded desk).attempt.isBusy
        (Handling.ofDecoded gate (printer.submit gate) decoded desk).desk := by
  cases decoded with
  | ok receipt =>
    obtain ⟨sameGate, exclusive⟩ :=
      printer.submit_exclusive gate receipt (desk.log (.received receipt.length))
    exact ⟨sameGate, exclusive.of_log⟩
  | error refusal =>
    have refused := (Carried.refl printer.device desk).log (.rejected refusal)
    exact ⟨rfl, by simp [Handling.ofDecoded, Attempt.isBusy, Except.isOk, Except.toBool],
      fun _ => refused, fun _ => refused.offers_nothing⟩

end Printer

namespace Request

/-- Whether a request asks for the printer, and so has to be turned away while it is in use. A use
of the printer asks for it only if the caller does not hold the guard. -/
def asks (holdsGuard : Bool) : Request → Bool
  | take | submit _ | panic | newGate => true
  | printText text => (Receipt.parse text).isOk
  | printValue value => (Receipt.decode value).isOk
  | start | cut | write _ | print _ | execute _ | profile => !holdsGuard
  | giveBack | describe => false

/-- Whether the caller holds the guard after a request. -/
def holdsAfter (holdsGuard : Bool) : Request → Bool
  | take => true
  | giveBack => false
  | _ => holdsGuard

/-- The blocks of a request, in the order in which they are to be written. -/
def blocks (printerProfile : Profile) : Request → List Bytes
  | start => [Command.bytesOfAll Guard.initialState]
  | cut => [Command.bytesOfAll [.cut]]
  | write bytes => [bytes]
  | print item => item.writes printerProfile
  | execute receipt | submit receipt => receipt.writes printerProfile
  | printText text => Receipt.writesOf printerProfile (Receipt.parse text)
  | printValue value => Receipt.writesOf printerProfile (Receipt.decode value)
  | take | giveBack | describe | profile | panic | newGate => []

end Request

namespace Session

/-- The gate is taken exactly while the caller holds the guard. -/
def IsSettled (session : Session σ) : Prop :=
  session.gate.isTaken = session.holdsGuard

theorem isTaken_gateAfter (taken : Gate) (ending : Ending) :
    (gateAfter taken ending).isTaken = false := by
  cases ending <;> rfl

/-- A use of the printer leaves the gate as it was, and offers what the action offers. -/
theorem use_of_settled {session : Session σ} (settled : session.IsSettled)
    {action : Guard σ → Desk σ → Ending × Desk σ} {blocks : List Bytes}
    (offers : ∀ (gate : Gate) (desk : Desk σ), gate.isTaken = true →
      Offers session.printer.device desk blocks (action (session.printer.guard gate) desk).2) :
    ∃ ending after, session.use action = (some ending, after) ∧
      after.printer = session.printer ∧ after.holdsGuard = session.holdsGuard ∧
      after.IsSettled ∧ Offers session.printer.device session.desk blocks after.desk := by
  unfold use
  cases held : session.holdsGuard with
  | true =>
    have taken : session.gate.isTaken = true := settled.trans held
    have own := offers session.gate session.desk taken
    exact ⟨_, _, rfl, rfl, rfl, taken, own⟩
  | false =>
    have free : session.gate.isTaken = false := settled.trans held
    have taking : session.gate.take? = some { session.gate with isTaken := true } := by
      simp [Gate.take?, free]
    have own := (offers { session.gate with isTaken := true }
      (session.desk.taken session.gate) rfl).of_taken
    rw [taking]
    exact ⟨_, _, rfl, rfl, rfl, isTaken_gateAfter _ _, own⟩

/-- A step as the gate allows it: only the guard's holder and its own requests change who holds
the guard, and nobody else's blocks are offered. -/
structure StepIsExclusive (session : Session σ) (request : Request) (result : Answer × Session σ) :
    Prop where
  printer_eq : result.2.printer = session.printer
  holdsGuard_eq : result.2.holdsGuard = request.holdsAfter session.holdsGuard
  settled : result.2.IsSettled
  exclusive : Exclusive session.printer.device session.holdsGuard
    (request.asks session.holdsGuard) (request.blocks session.printer.profile) session.desk
    result.1.isBusy result.2.desk

variable {session : Session σ} {request : Request}

theorem step_of_use (settled : session.IsSettled) (request : Request)
    (action : Guard σ → Desk σ → Ending × Desk σ)
    (asks : request.asks session.holdsGuard = !session.holdsGuard)
    (holdsAfter : request.holdsAfter session.holdsGuard = session.holdsGuard)
    (offers : ∀ (gate : Gate) (desk : Desk σ), gate.isTaken = true →
      Offers session.printer.device desk (request.blocks session.printer.profile)
        (action (session.printer.guard gate) desk).2) :
    ∃ ending after, session.use action = (some ending, after) ∧
      ∀ answer : Answer, answer.isBusy = false →
        session.StepIsExclusive request (answer, after) := by
  obtain ⟨ending, after, used, samePrinter, sameHolder, settledAfter, own⟩ :=
    use_of_settled settled offers
  refine ⟨ending, after, used, ?_⟩
  intro answer free
  exact {
    printer_eq := samePrinter
    holdsGuard_eq := sameHolder.trans holdsAfter.symm
    settled := settledAfter
    exclusive := {
      busy_iff := by simp [free, asks]
      untouched := by simp [free]
      offers := fun _ => own } }

theorem step_of_use_answered (settled : session.IsSettled) (request : Request)
    (action : Guard σ → Desk σ → Ending × Desk σ)
    (asks : request.asks session.holdsGuard = !session.holdsGuard)
    (holdsAfter : request.holdsAfter session.holdsGuard = session.holdsGuard)
    (offers : ∀ (gate : Gate) (desk : Desk σ), gate.isTaken = true →
      Offers session.printer.device desk (request.blocks session.printer.profile)
        (action (session.printer.guard gate) desk).2) :
    session.StepIsExclusive request
      (Answer.ofUse (session.use action).1, (session.use action).2) := by
  obtain ⟨ending, after, used, exclusive⟩ :=
    step_of_use settled request action asks holdsAfter offers
  rw [used]
  exact exclusive (Answer.ofUse (some ending)) rfl

theorem step_of_handling (settled : session.IsSettled) {handling : Handling σ}
    (holdsAfter : request.holdsAfter session.holdsGuard = session.holdsGuard)
    (sameGate : handling.gate.isTaken = session.gate.isTaken)
    (exclusive : Exclusive session.printer.device session.gate.isTaken
      (request.asks session.holdsGuard) (request.blocks session.printer.profile) session.desk
      handling.attempt.isBusy handling.desk) :
    session.StepIsExclusive request (session.handled handling) where
  printer_eq := rfl
  holdsGuard_eq := holdsAfter.symm
  settled := sameGate.trans settled
  exclusive := settled ▸ exclusive

/-- A step that offers nothing to the device. -/
theorem step_of_silent {answer : Answer} {after : Session σ}
    (noBlocks : request.blocks session.printer.profile = [])
    (samePrinter : after.printer = session.printer)
    (holder : after.holdsGuard = request.holdsAfter session.holdsGuard)
    (settled : after.IsSettled)
    (carried : Carried session.printer.device session.desk [] after.desk)
    (busy_iff : answer.isBusy = true ↔
      request.asks session.holdsGuard = true ∧ session.holdsGuard = true) :
    session.StepIsExclusive request (answer, after) where
  printer_eq := samePrinter
  holdsGuard_eq := holder
  settled := settled
  exclusive := {
    busy_iff := busy_iff
    untouched := fun _ => carried
    offers := fun _ => noBlocks ▸ carried.offers_nothing }

theorem step_of_settled (settled : session.IsSettled) (request : Request) :
    session.StepIsExclusive request (session.step request) := by
  have unchanged := Carried.refl session.printer.device session.desk
  have entered := unchanged.taken session.gate
  cases request with
  | take =>
    cases held : session.holdsGuard with
    | true =>
      have taken : session.gate.isTaken = true := settled.trans held
      simp only [step, Gate.take?, taken]
      exact step_of_silent rfl rfl held settled unchanged
        (by simp [Answer.isBusy, held, Request.asks])
    | false =>
      have free : session.gate.isTaken = false := settled.trans held
      simp only [step, Gate.take?, free]
      exact step_of_silent rfl rfl rfl rfl entered (by simp [Answer.isBusy, held])
  | giveBack =>
    cases held : session.holdsGuard with
    | true =>
      simp only [step, held, if_true]
      exact step_of_silent rfl rfl rfl rfl unchanged (by simp [Answer.isBusy, Request.asks])
    | false =>
      simp only [step, held]
      exact step_of_silent rfl rfl held settled unchanged (by simp [Answer.isBusy, Request.asks])
  | describe =>
    exact step_of_silent rfl rfl rfl settled unchanged (by simp [Answer.isBusy, Request.asks])
  | start =>
    exact step_of_use_answered settled .start Guard.start rfl rfl fun gate desk taken =>
      (Guard.performs_start (session.printer.guard_isQuiet taken) desk).offers
  | cut =>
    exact step_of_use_answered settled .cut Guard.cut rfl rfl fun gate desk taken =>
      (Guard.performs_cut (session.printer.guard_isQuiet taken) desk).offers
  | write bytes =>
    exact step_of_use_answered settled (.write bytes) (fun guard => guard.write bytes) rfl rfl
      fun gate desk taken =>
        (Guard.performs_write (session.printer.guard_isQuiet taken) bytes desk).offers
  | print item =>
    exact step_of_use_answered settled (.print item) (fun guard => guard.print item) rfl rfl
      fun gate desk taken => Guard.offers_print (session.printer.guard_isQuiet taken) item desk
  | execute receipt =>
    exact step_of_use_answered settled (.execute receipt) (fun guard => guard.execute receipt)
      rfl rfl fun gate desk taken =>
        Guard.offers_execute (session.printer.guard_isQuiet taken) receipt desk
  | profile =>
    obtain ⟨ending, after, used, exclusive⟩ :=
      step_of_use settled .profile (fun _ desk => (.done, desk)) rfl rfl
        fun gate desk _ => (Carried.refl session.printer.device desk).offers_nothing
    simp only [step, used]
    exact exclusive _ rfl
  | submit receipt =>
    obtain ⟨sameGate, exclusive⟩ :=
      session.printer.submit_exclusive session.gate receipt session.desk
    exact step_of_handling settled rfl sameGate exclusive
  | printText text =>
    obtain ⟨sameGate, exclusive⟩ :=
      session.printer.ofDecoded_exclusive session.gate (Receipt.parse text) session.desk
    exact step_of_handling settled rfl sameGate exclusive
  | printValue value =>
    obtain ⟨sameGate, exclusive⟩ :=
      session.printer.ofDecoded_exclusive session.gate (Receipt.decode value) session.desk
    exact step_of_handling settled rfl sameGate exclusive
  | panic =>
    cases held : session.holdsGuard with
    | true =>
      have taken : session.gate.isTaken = true := settled.trans held
      simp only [step, Gate.take?, taken]
      exact step_of_silent rfl rfl rfl settled unchanged
        (by simp [Answer.isBusy, held, Request.asks])
    | false =>
      have free : session.gate.isTaken = false := settled.trans held
      simp only [step, Gate.take?, free]
      exact step_of_silent rfl rfl rfl held.symm entered (by simp [Answer.isBusy, held])
  | newGate =>
    cases held : session.holdsGuard with
    | true =>
      simp only [step, held, if_true]
      exact step_of_silent rfl rfl rfl settled unchanged
        (by simp [Answer.isBusy, held, Request.asks])
    | false =>
      simp only [step, held]
      exact step_of_silent rfl rfl held.symm rfl unchanged (by simp [Answer.isBusy, held])

/-- The calls of a run belong to its requests one after the other: each request makes calls for its
own blocks, from the first one on, before the next request makes any. -/
def RunOffers (device : Device σ) (profile : Profile) (requests : List Request)
    (before after : Desk σ) : Prop :=
  ∃ calls : List (List Call),
    List.Forall₂ (fun request own => own.map Call.block <+: request.blocks profile)
      requests calls ∧ Carried device before calls.flatten after

theorem StepIsExclusive.calls {result : Answer × Session σ}
    (step : session.StepIsExclusive request result) :
    ∃ own : List Call, own.map Call.block <+: request.blocks session.printer.profile ∧
      Carried session.printer.device session.desk own result.2.desk := by
  cases busy : result.1.isBusy with
  | true => exact ⟨[], by simp, step.exclusive.untouched busy⟩
  | false =>
    obtain ⟨own, ending, served, carried⟩ := step.exclusive.offers busy
    exact ⟨own, served.isPrefix, carried⟩

/-- What a whole run keeps, from a session in which the gate is taken exactly while the guard is
held. -/
theorem run_of_settled (settled : session.IsSettled) (requests : List Request) :
    (session.run requests).2.printer = session.printer ∧
      (session.run requests).2.IsSettled ∧
      (session.run requests).2.holdsGuard =
        requests.foldl (fun held request => request.holdsAfter held) session.holdsGuard ∧
      RunOffers session.printer.device session.printer.profile requests session.desk
        (session.run requests).2.desk := by
  induction requests generalizing session with
  | nil => exact ⟨rfl, settled, rfl, [], .nil, .refl _ _⟩
  | cons request rest inductionHypothesis =>
    -- A step gives back a settled session with the same printer, so the rest of the run goes on
    -- from the holder and the desk that the step leaves.
    have first := step_of_settled settled request
    obtain ⟨own, isPrefix, carried⟩ := first.calls
    obtain ⟨samePrinter, settledAfter, holder, calls, arePrefixes, carriedAfter⟩ :=
      inductionHypothesis first.settled
    rw [first.printer_eq] at samePrinter arePrefixes carriedAfter
    rw [first.holdsGuard_eq] at holder
    exact ⟨samePrinter, settledAfter, holder, own :: calls, .cons isPrefix arePrefixes,
      carried.trans carriedAfter⟩

end Session

/-- Exclusive access: after any requests to a printer with a new gate, the gate is taken exactly
while the caller holds the guard, which only taking it and giving it back decide. The calls so far
belong to the requests one after the other, texts that the device has handed in during them have
been turned away, and whatever is requested next, the printer is busy exactly if the guard is
held. -/
theorem run_exclusive (printer : Printer σ) (state : σ) (requests : List Request)
    (request : Request) :
    let session := ((Session.fresh printer state).run requests).2
    session.gate.isTaken = session.holdsGuard ∧
      session.holdsGuard = requests.foldl (fun held request => request.holdsAfter held) false ∧
      Session.RunOffers printer.device printer.profile requests ⟨state, []⟩ session.desk ∧
      session.StepIsExclusive request (session.step request) := by
  have settled : (Session.fresh printer state).IsSettled := rfl
  obtain ⟨_, settledAfter, holder, offers⟩ := Session.run_of_settled settled requests
  exact ⟨settledAfter, holder, offers, Session.step_of_settled settledAfter request⟩

end ThermalPrint
