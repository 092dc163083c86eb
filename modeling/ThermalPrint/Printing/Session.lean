import ThermalPrint.Printing.Gate

/-!
Sessions: sequences of requests to one printer behind its gate. The caller may hold the guard of the
printer from one request to a later one; requests that need a guard use it, and otherwise take one
for themselves only.
-/

namespace ThermalPrint

inductive Request where
  /-- Takes the guard and holds it. -/
  | take
  | giveBack
  | describe
  | start
  | cut
  | write (bytes : Bytes)
  | print (item : Item)
  | execute (receipt : Receipt)
  | profile
  | submit (receipt : Receipt)
  | printText (text : String)
  | printValue (value : Json)
  /-- Takes a guard for itself and panics. -/
  | panic
  /-- Puts the printer behind a new gate. -/
  | newGate

inductive Answer where
  | ending (ending : Ending)
  | busy
  /-- Whether a guard was held. -/
  | wasHeld (held : Bool)
  /-- The held guard, described by its profile. -/
  | description (profile : Option Profile)
  | profile (profile : Profile)
  | attempt (attempt : Attempt)
  deriving DecidableEq, Repr

structure Session (σ : Type) where
  printer : Printer σ
  gate : Gate
  /-- The caller holds the guard. -/
  holdsGuard : Bool
  desk : Desk σ

namespace Session

variable {σ : Type}

def fresh (printer : Printer σ) (state : σ) : Session σ :=
  ⟨printer, .fresh, false, ⟨state, []⟩⟩

def gateAfter (taken : Gate) : Ending → Gate
  | .panicked => taken.leaveInPanic
  | _ => taken.leave

/-- Uses the held guard, or else one that is taken for this use. -/
def use (session : Session σ) (action : Guard σ → Desk σ → Ending × Desk σ) :
    Option Ending × Session σ :=
  if session.holdsGuard then
    let (ending, desk) := action (session.printer.guard session.gate) session.desk
    (some ending, { session with desk := desk })
  else
    match session.gate.take? with
    | none => (none, session)
    | some taken =>
      let (ending, desk) :=
        action (session.printer.guard taken) (session.desk.taken session.gate)
      (some ending, { session with gate := gateAfter taken ending, desk := desk })

def Answer.ofUse : Option Ending → Answer
  | some ending => .ending ending
  | none => .busy

def handled (session : Session σ) (handling : Handling σ) : Answer × Session σ :=
  (.attempt handling.attempt,
    { session with gate := handling.gate, desk := handling.desk })

def step (session : Session σ) (request : Request) : Answer × Session σ :=
  let useGuard (action : Guard σ → Desk σ → Ending × Desk σ) : Answer × Session σ :=
    let (ending, session) := session.use action
    (Answer.ofUse ending, session)
  match request with
  | .take =>
    match session.gate.take? with
    | none => (.busy, session)
    | some taken =>
      (.ending .done,
        { session with
          gate := taken, holdsGuard := true, desk := session.desk.taken session.gate })
  | .giveBack =>
    if session.holdsGuard then
      (.wasHeld true, { session with gate := session.gate.leave, holdsGuard := false })
    else (.wasHeld false, session)
  | .describe =>
    (.description (if session.holdsGuard then some session.printer.profile else none), session)
  | .start => useGuard Guard.start
  | .cut => useGuard Guard.cut
  | .write bytes => useGuard fun guard => guard.write bytes
  | .print item => useGuard fun guard => guard.print item
  | .execute receipt => useGuard fun guard => guard.execute receipt
  | .profile =>
    match session.use fun _ desk => (.done, desk) with
    | (some _, session) => (.profile session.printer.profile, session)
    | (none, session) => (.busy, session)
  | .submit receipt =>
    session.handled (session.printer.submit session.gate receipt session.desk)
  | .printText text =>
    session.handled (session.printer.printText session.gate text session.desk)
  | .printValue value =>
    session.handled (session.printer.printValue session.gate value session.desk)
  | .panic =>
    match session.gate.take? with
    | none => (.busy, session)
    | some taken =>
      (.ending .panicked,
        { session with
          gate := taken.leaveInPanic, desk := session.desk.taken session.gate })
  | .newGate =>
    if session.holdsGuard then (.busy, session)
    else (.ending .done, { session with gate := .fresh })

def run (session : Session σ) : List Request → List Answer × Session σ
  | [] => ([], session)
  | request :: rest =>
    let (answer, session) := session.step request
    let (answers, session) := session.run rest
    (answer :: answers, session)

end Session

end ThermalPrint
