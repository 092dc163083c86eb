import ThermalPrint.Printing.Guard
import ThermalPrint.Receipt.Decode

/-!
# Calls of a device

A use of the printer is described by the calls that it makes of the device. `Carried` says that a
desk has come out of another by some calls and nothing else. `Served` says that the calls are those
for a list of blocks: one for each block, in order, up to the first call that does not succeed.
-/

namespace ThermalPrint

/-- A call of a device: the block that it is given, and what it replies. -/
structure Call where
  block : Bytes
  reply : Reply

/-- What comes of a text that is handed in while the printer is in use. -/
def Outcome.whileTaken (text : String) : Outcome :=
  match Receipt.parse text with
  | .ok _ => .busy
  | .error refusal => .refused refusal

namespace Call

def Succeeds (call : Call) : Prop :=
  call.reply.ending = .done

/-- What comes of the texts that the device hands in during a call. -/
def outcomes (call : Call) : List Outcome :=
  call.reply.texts.map .whileTaken

end Call

variable {σ : Type}

/-- Calls one after the other, and the states of the device before and after them. -/
inductive Device.Calls (device : Device σ) : σ → List Call → σ → Prop where
  | none (state : σ) : Device.Calls device state [] state
  | next {state middle last : σ} {block : Bytes} {reply : Reply} {calls : List Call} :
      device.write block state = (reply, middle) → Device.Calls device middle calls last →
      Device.Calls device state (⟨block, reply⟩ :: calls) last

theorem Device.Calls.append {device : Device σ} {first middle last : σ}
    {calls further : List Call} (before : device.Calls first calls middle)
    (after : device.Calls middle further last) : device.Calls first (calls ++ further) last := by
  induction before with
  | none state => exact after
  | next replied _ inductionHypothesis => exact .next replied (inductionHypothesis after)

theorem Device.Calls.eq_of_nil {device : Device σ} {first last : σ}
    (none : device.Calls first [] last) : last = first := by
  cases none
  rfl

theorem Device.Calls.exists_of_cons {device : Device σ} {first last : σ} {block : Bytes}
    {reply : Reply} {calls : List Call} (made : device.Calls first (⟨block, reply⟩ :: calls) last) :
    ∃ middle, device.write block first = (reply, middle) ∧ device.Calls middle calls last := by
  cases made with
  | next replied made => exact ⟨_, replied, made⟩

/-- A desk has come out of another by some calls. The blocks of these calls are all that has been
offered, and the texts handed in during these calls are all that has been answered. -/
structure Carried (device : Device σ) (before : Desk σ) (calls : List Call) (after : Desk σ) :
    Prop where
  states : device.Calls before.state calls after.state
  blocks : after.trail.blocks = before.trail.blocks ++ calls.map Call.block
  outcomes : after.trail.outcomes = before.trail.outcomes ++ calls.flatMap Call.outcomes

/-- A desk has come out of another by answering texts. No block has been offered meanwhile. -/
structure Answered (before : Desk σ) (texts : List String) (after : Desk σ) : Prop where
  state : after.state = before.state
  blocks : after.trail.blocks = before.trail.blocks
  outcomes : after.trail.outcomes = before.trail.outcomes ++ texts.map .whileTaken

namespace Answered

variable {before middle after : Desk σ} {text : String} {texts : List String}

theorem nothing (desk : Desk σ) : Answered desk [] desk where
  state := rfl
  blocks := rfl
  outcomes := (List.append_nil _).symm

theorem cons {device : Device σ} (carried : Carried device before [] middle)
    (rest : Answered (middle.note (.answered (.whileTaken text))) texts after) :
    Answered before (text :: texts) after where
  state := rest.state.trans carried.states.eq_of_nil
  blocks := by
    have first := carried.blocks
    have later := rest.blocks
    simp only [Desk.note, Trail.blocks, List.filterMap_append] at first later ⊢
    rw [later, first]
    simp
  outcomes := by
    have first := carried.outcomes
    have later := rest.outcomes
    simp only [Desk.note, Trail.outcomes, List.filterMap_append] at first later ⊢
    rw [later, first]
    simp

end Answered

namespace Carried

variable {device : Device σ} {before middle after : Desk σ} {calls further : List Call}

theorem refl (device : Device σ) (desk : Desk σ) : Carried device desk [] desk where
  states := .none desk.state
  blocks := by simp
  outcomes := by simp

theorem trans (first : Carried device before calls middle)
    (second : Carried device middle further after) :
    Carried device before (calls ++ further) after where
  states := first.states.append second.states
  blocks := by simp [second.blocks, first.blocks]
  outcomes := by simp [second.outcomes, first.outcomes]

theorem log (carried : Carried device before calls after) (entry : LogEntry) :
    Carried device before calls (after.log entry) where
  states := carried.states
  blocks := by
    simpa [Desk.log, Desk.note, Trail.blocks] using carried.blocks
  outcomes := by
    simpa [Desk.log, Desk.note, Trail.outcomes] using carried.outcomes

theorem of_log {entry : LogEntry} (carried : Carried device (before.log entry) calls after) :
    Carried device before calls after := by
  have logged : Carried device before [] (before.log entry) := (refl device before).log entry
  exact logged.trans carried

/-- The texts that are handed in during a call are answered by what carries on from there. -/
theorem offered {block : Bytes} {reply : Reply} {state : σ}
    (replied : device.write block before.state = (reply, state))
    (answered : Answered ({ before with state := state }.note (.offered block)) reply.texts after) :
    Carried device before [⟨block, reply⟩] after where
  states := by
    have call : device.Calls before.state [⟨block, reply⟩] state := .next replied (.none state)
    have unchanged : after.state = state := answered.state
    rw [← unchanged] at call
    exact call
  blocks := by
    have blocks := answered.blocks
    simpa [Desk.note, Trail.blocks] using blocks
  outcomes := by
    have outcomes := answered.outcomes
    simpa [Desk.note, Trail.outcomes, Call.outcomes] using outcomes

end Carried

/-- The calls for a list of blocks, and how they end. -/
inductive Served : List Bytes → List Call → Ending → Prop where
  | all : Served [] [] .done
  | next {blocks : List Bytes} {calls : List Call} {ending : Ending} (call : Call) :
      call.Succeeds → Served blocks calls ending →
      Served (call.block :: blocks) (call :: calls) ending
  | stopped {blocks : List Bytes} (call : Call) :
      ¬call.Succeeds → Served (call.block :: blocks) [call] call.reply.ending

namespace Served

variable {blocks more : List Bytes} {calls further : List Call} {ending : Ending}

theorem single (call : Call) : Served [call.block] [call] call.reply.ending := by
  by_cases succeeds : call.Succeeds
  · have served := Served.next call succeeds .all
    rwa [← succeeds] at served
  · exact .stopped call succeeds

theorem isPrefix (served : Served blocks calls ending) : calls.map Call.block <+: blocks := by
  induction served with
  | all => simp
  | next call _ _ inductionHypothesis => simpa using inductionHypothesis
  | stopped call _ => simp

theorem done_iff (served : Served blocks calls ending) :
    ending = .done ↔ calls.map Call.block = blocks ∧ ∀ call ∈ calls, call.Succeeds := by
  induction served with
  | all => simp
  | next call succeeds _ inductionHypothesis => simp [inductionHypothesis, succeeds]
  | stopped call fails =>
    constructor
    · intro done
      exact absurd done fails
    · rintro ⟨_, succeed⟩
      exact succeed call (by simp)

theorem last_of_ne_done (served : Served blocks calls ending) (stopped : ending ≠ .done) :
    ∃ front last, calls = front ++ [last] ∧ (∀ call ∈ front, call.Succeeds) ∧
      ¬last.Succeeds ∧ ending = last.reply.ending := by
  induction served with
  | all => exact absurd rfl stopped
  | next call succeeds _ inductionHypothesis =>
    obtain ⟨front, last, rfl, succeed, fails, ends⟩ := inductionHypothesis stopped
    exact ⟨call :: front, last, by simp, by simpa [succeeds] using succeed, fails, ends⟩
  | stopped call fails => exact ⟨[], call, by simp, by simp, fails, rfl⟩

theorem ne_nil (served : Served blocks calls ending) (some : blocks ≠ []) : calls ≠ [] := by
  cases served with
  | all => exact absurd rfl some
  | next call _ _ => simp
  | stopped call _ => simp

/-- Whatever stops the calls is the reply of one of them. -/
theorem eq_ending_iff (served : Served blocks calls ending) {stop : Ending} (stops : stop ≠ .done) :
    ending = stop ↔ ∃ call ∈ calls, call.reply.ending = stop := by
  induction served with
  | all => simpa using stops.symm
  | next call succeeds _ inductionHypothesis =>
    have goesOn : call.reply.ending ≠ stop := by
      intro same
      exact stops (same.symm.trans succeeds)
    simp [inductionHypothesis, goesOn]
  | stopped call _ => simp

theorem eq_nil_of_not_succeeds (served : Served blocks calls ending) {front rest : List Call}
    {call : Call} (split : calls = front ++ call :: rest) (fails : ¬call.Succeeds) : rest = [] := by
  induction served generalizing front with
  | all => simp at split
  | next first succeeds _ inductionHypothesis =>
    cases front with
    | nil =>
      simp only [List.nil_append, List.cons.injEq] at split
      exact absurd (split.1 ▸ succeeds) fails
    | cons _ front =>
      simp only [List.cons_append, List.cons.injEq] at split
      exact inductionHypothesis split.2
  | stopped first _ =>
    cases front with
    | nil =>
      simp only [List.nil_append, List.cons.injEq] at split
      exact split.2.symm
    | cons _ front => simp at split

section Determinism

variable {device : Device σ} {state middle last : σ} {block : Bytes} {reply : Reply}

/-- The call for the first of some blocks has the reply that the device has to it. The calls go on
after a reply that is a success, and end with any other. -/
theorem first_call (served : Served (block :: blocks) calls ending)
    (made : device.Calls state calls last) (replied : device.write block state = (reply, middle)) :
    (reply.ending = .done → ∃ rest, calls = ⟨block, reply⟩ :: rest ∧ Served blocks rest ending ∧
      device.Calls middle rest last) ∧
    (reply.ending ≠ .done → calls = [⟨block, reply⟩] ∧ ending = reply.ending ∧ last = middle) := by
  generalize whole : block :: blocks = all at served
  cases served with
  | all => cases whole
  | next call succeeds served =>
    cases whole
    obtain ⟨after, ownReply, made⟩ := made.exists_of_cons
    obtain ⟨rfl, rfl⟩ := Prod.mk.inj (replied.symm.trans ownReply)
    exact ⟨fun _ => ⟨_, rfl, served, made⟩, fun fails => absurd succeeds fails⟩
  | stopped call fails =>
    cases whole
    obtain ⟨after, ownReply, made⟩ := made.exists_of_cons
    obtain ⟨rfl, rfl⟩ := Prod.mk.inj (replied.symm.trans ownReply)
    exact ⟨fun succeeds => absurd succeeds fails, fun _ => ⟨rfl, rfl, made.eq_of_nil⟩⟩

/-- From one state on there is one way in which a device serves a list of blocks. -/
theorem unique {otherLast : σ} {otherCalls : List Call} {otherEnding : Ending}
    (served : Served blocks calls ending) (made : device.Calls state calls last)
    (other : Served blocks otherCalls otherEnding)
    (otherMade : device.Calls state otherCalls otherLast) :
    otherCalls = calls ∧ otherEnding = ending ∧ otherLast = last := by
  induction blocks generalizing state calls otherCalls with
  | nil =>
    cases served
    cases other
    exact ⟨rfl, rfl, otherMade.eq_of_nil.trans made.eq_of_nil.symm⟩
  | cons block blocks inductionHypothesis =>
    rcases replied : device.write block state with ⟨reply, middle⟩
    obtain ⟨goesOn, stops⟩ := served.first_call made replied
    obtain ⟨otherGoesOn, otherStops⟩ := other.first_call otherMade replied
    by_cases succeeds : reply.ending = .done
    · obtain ⟨rest, rfl, servedRest, madeRest⟩ := goesOn succeeds
      obtain ⟨otherRest, rfl, otherServed, otherMadeRest⟩ := otherGoesOn succeeds
      obtain ⟨rfl, rfl, rfl⟩ :=
        inductionHypothesis servedRest madeRest otherServed otherMadeRest
      exact ⟨rfl, rfl, rfl⟩
    · obtain ⟨rfl, rfl, rfl⟩ := stops succeeds
      obtain ⟨rfl, rfl, rfl⟩ := otherStops succeeds
      exact ⟨rfl, rfl, rfl⟩

end Determinism

theorem append (served : Served blocks calls .done) (rest : Served more further ending) :
    Served (blocks ++ more) (calls ++ further) ending := by
  generalize done : Ending.done = first at served
  induction served with
  | all => exact rest
  | next call succeeds _ inductionHypothesis => exact .next call succeeds (inductionHypothesis done)
  | stopped call fails => exact absurd done.symm fails

theorem extend (served : Served blocks calls ending) (stopped : ending ≠ .done) :
    Served (blocks ++ more) calls ending := by
  induction served with
  | all => exact absurd rfl stopped
  | next call succeeds _ inductionHypothesis =>
    exact .next call succeeds (inductionHypothesis stopped)
  | stopped call fails => exact .stopped call fails

end Served

end ThermalPrint
