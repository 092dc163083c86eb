import Mathlib.Data.List.Basic
import ThermalPrint.Proofs.Printing.Outcomes

/-!
# The log follows the device

The line of an item is logged right before its block is offered, so the trail of a receipt is known
from the number of calls that are made: `Receipt.trailOf` says what it is. Each step of a print adds
the events of that step, and the first call that is not successful ends them. What the log tells
about a receipt follows from its trail.
-/

namespace ThermalPrint

variable {σ : Type}

/-- The device takes each block or fails. It does not panic, and nothing is handed in. -/
def Device.TakesOrFails (device : Device σ) : Prop :=
  ∀ block state, (device.write block state).1.texts = [] ∧
    (device.write block state).1.ending ≠ .panicked

theorem Device.takesOrFails_scheduled {fault? : Nat → Option Fault}
    (mild : ∀ number, fault? number ≠ some .panic ∧
      ∀ text, fault? number ≠ some (.handIn text)) :
    (Device.scheduled fault?).TakesOrFails := by
  intro block takings
  obtain ⟨noPanic, nothingHandedIn⟩ := mild takings.length
  cases met : fault? takings.length with
  | none => simp [scheduled, met]
  | some fault =>
    cases fault with
    | short taken => simp [scheduled, met]
    | error error => simp [scheduled, met]
    | panic => exact absurd met noPanic
    | handIn text => exact absurd met (nothingHandedIn text)

/-! ### Trails of receipts -/

namespace Trail

/-- Items that are printed one after the other: the line of each item, and then its block. -/
def ofItems (index : Nat) : List (Kind × Bytes) → Trail
  | [] => []
  | (kind, block) :: rest =>
    .logged (.item index kind block.length) :: .offered block :: ofItems (index + 1) rest

theorem log_append (first second : Trail) : log (first ++ second) = first.log ++ second.log :=
  List.filterMap_append

theorem log_ofItems (index : Nat) (entries : List (Kind × Bytes)) :
    (ofItems index entries).log =
      entries.mapIdx fun offset entry => .item (index + offset) entry.1 entry.2.length := by
  induction entries generalizing index with
  | nil => rfl
  | cons entry entries inductionHypothesis =>
    have later := inductionHypothesis (index + 1)
    simp only [ofItems, log, List.filterMap_cons, List.mapIdx_cons, Nat.add_zero] at later ⊢
    rw [later]
    congr 2
    funext offset entry
    rw [Nat.add_right_comm, Nat.add_assoc]

end Trail

namespace Receipt

/-- The items of a receipt, by their kinds, with the blocks that print them. -/
def entries (receipt : Receipt) (blocks : List Bytes) : List (Kind × Bytes) :=
  (receipt.items.map Item.kind).zip blocks

/-- The line of each item, with its position, its kind and the length of its block. -/
def lines (receipt : Receipt) (blocks : List Bytes) : List LogEntry :=
  (receipt.entries blocks).mapIdx fun index entry => .item index entry.1 entry.2.length

/-- What a print adds to the trail if this many calls are made and it ends in this way. -/
def trailOf (receipt : Receipt) (blocks : List Bytes) (calls : Nat) (ending : Ending) : Trail :=
  .logged (.printing receipt.length) ::
    Trail.ofItems 0 ((receipt.entries blocks).take calls) ++
      (if receipt.length < calls then [.offered Command.cut.bytes] else []) ++
      (if ending = .done then [.logged .printed] else [])

end Receipt

theorem renderFrom_eq_zip {profile : Profile} {items : List Item} {blocks : List Bytes}
    (index : Nat) (rendered : items.map (Item.render profile) = blocks.map .ok) :
    renderFrom profile index items = .ok ((items.map Item.kind).zip blocks) := by
  induction items generalizing index blocks with
  | nil => rfl
  | cons item items inductionHypothesis =>
    obtain ⟨block, blocks, rfl, own, others⟩ := List.map_eq_cons_iff.mp rendered.symm
    simp only [renderFrom, ← own, inductionHypothesis (index + 1) others.symm, List.map_cons,
      List.zip_cons_cons]

namespace Receipt

theorem Renders.length_eq {profile : Profile} {receipt : Receipt} {blocks : List Bytes}
    (renders : receipt.Renders profile blocks) : blocks.length = receipt.length := by
  simpa [length] using (congrArg List.length renders).symm

theorem Renders.length_entries {profile : Profile} {receipt : Receipt} {blocks : List Bytes}
    (renders : receipt.Renders profile blocks) :
    (receipt.entries blocks).length = receipt.length := by
  rw [entries, List.length_zip, List.length_map, renders.length_eq]
  exact Nat.min_self _

theorem Renders.map_snd_entries {profile : Profile} {receipt : Receipt} {blocks : List Bytes}
    (renders : receipt.Renders profile blocks) :
    (receipt.entries blocks).map Prod.snd = blocks := by
  apply List.map_snd_zip
  rw [List.length_map, renders.length_eq]
  exact Nat.le_refl _

variable {receipt : Receipt} {blocks : List Bytes}

/-- A print that ends before the cut has neither a cut nor a line for it on its trail. -/
theorem trailOf_of_le {calls : Nat} (few : calls ≤ receipt.length) {ending : Ending}
    (stopped : ending ≠ .done) : receipt.trailOf blocks calls ending =
      .logged (.printing receipt.length) ::
        Trail.ofItems 0 ((receipt.entries blocks).take calls) := by
  simp only [trailOf, if_neg (Nat.not_lt.mpr few), if_neg stopped, List.append_nil]

/-- The trail of a print that gets as far as the cut has all items. -/
theorem Renders.trailOf_length_add_one {profile : Profile}
    (renders : receipt.Renders profile blocks) (ending : Ending) :
    receipt.trailOf blocks (receipt.length + 1) ending =
      .logged (.printing receipt.length) :: Trail.ofItems 0 (receipt.entries blocks) ++
        .offered Command.cut.bytes :: if ending = .done then [.logged .printed] else [] := by
  have all : (receipt.entries blocks).take (receipt.length + 1) = receipt.entries blocks := by
    apply List.take_of_length_le
    rw [renders.length_entries]
    exact Nat.le_succ _
  simp only [trailOf, all, if_pos (Nat.lt_succ_self receipt.length), List.cons_append,
    List.append_assoc, List.nil_append]

end Receipt

/-! ### Traced calls -/

/-- A desk has come out of another by some calls, and just these events are new on its trail. -/
structure Traced (device : Device σ) (before : Desk σ) (calls : List Call) (added : Trail)
    (after : Desk σ) : Prop where
  states : device.Calls before.state calls after.state
  trail : after.trail = before.trail ++ added

namespace Traced

variable {device : Device σ} {before middle after : Desk σ} {calls further : List Call}
  {added more : Trail}

theorem refl (device : Device σ) (desk : Desk σ) : Traced device desk [] [] desk where
  states := .none desk.state
  trail := (List.append_nil _).symm

theorem trans (first : Traced device before calls added middle)
    (second : Traced device middle further more after) :
    Traced device before (calls ++ further) (added ++ more) after where
  states := first.states.append second.states
  trail := by rw [second.trail, first.trail, List.append_assoc]

theorem log (traced : Traced device before calls added after) (entry : LogEntry) :
    Traced device before calls (added ++ [.logged entry]) (after.log entry) where
  states := traced.states
  trail := by rw [Desk.log, Desk.note, traced.trail, List.append_assoc]

theorem of_log {entry : LogEntry} (traced : Traced device (before.log entry) calls added after) :
    Traced device before calls (.logged entry :: added) after :=
  ((refl device before).log entry).trans traced

end Traced

namespace Guard

variable {guard : Guard σ}

theorem traced_write (mild : guard.device.TakesOrFails) (block : Bytes) (desk : Desk σ) :
    ∃ reply, (guard.write block desk).1 = reply.ending ∧
      Traced guard.device desk [⟨block, reply⟩] [.offered block] (guard.write block desk).2 := by
  have mildReply := mild block desk.state
  rcases replied : guard.device.write block desk.state with ⟨reply, state⟩
  rw [replied] at mildReply
  have nothingHandedIn : reply.texts = [] := mildReply.1
  have written : guard.write block desk =
      (reply.ending, { desk with state := state }.note (.offered block)) := by
    simp only [write, replied, nothingHandedIn, answerAll, andThen]
  rw [written]
  exact ⟨reply, rfl, .next replied (.none state), rfl⟩

theorem traced_writeBlocks (mild : guard.device.TakesOrFails) (index : Nat)
    (entries : List (Kind × Bytes)) (desk : Desk σ) :
    ∃ calls, Served (entries.map Prod.snd) calls (guard.writeBlocks index entries desk).1 ∧
      Traced guard.device desk calls (Trail.ofItems index (entries.take calls.length))
        (guard.writeBlocks index entries desk).2 := by
  induction entries generalizing index desk with
  | nil => exact ⟨[], .all, .refl guard.device desk⟩
  | cons entry entries inductionHypothesis =>
    obtain ⟨kind, block⟩ := entry
    obtain ⟨reply, ends, traced⟩ :=
      traced_write mild block (desk.log (.item index kind block.length))
    rw [writeBlocks]
    generalize guard.write block (desk.log (.item index kind block.length)) = first at ends traced
    obtain ⟨ending, middle⟩ := first
    obtain rfl : ending = reply.ending := ends
    by_cases succeeds : reply.ending = .done
    · obtain ⟨calls, served, tracedRest⟩ := inductionHypothesis (index + 1) middle
      rw [succeeds]
      exact ⟨⟨block, reply⟩ :: calls, .next ⟨block, reply⟩ succeeds served,
        traced.of_log.trans tracedRest⟩
    · rw [andThen_of_ne_done succeeds]
      exact ⟨[⟨block, reply⟩], .stopped ⟨block, reply⟩ succeeds, traced.of_log⟩

/-- The end of a print: the cut, and a line if it succeeds. -/
theorem traced_finish (mild : guard.device.TakesOrFails) (desk : Desk σ) :
    let result := andThen (guard.cut desk) fun desk => (.done, desk.log .printed)
    ∃ reply, result.1 = reply.ending ∧
      Traced guard.device desk [⟨Command.cut.bytes, reply⟩]
        (.offered Command.cut.bytes :: if reply.ending = .done then [.logged .printed] else [])
        result.2 := by
  intro result
  obtain ⟨reply, ends, traced⟩ := traced_write mild (Command.bytesOfAll [.cut]) desk
  have offered : result = andThen (guard.write (Command.bytesOfAll [.cut]) desk)
      fun desk => (.done, desk.log .printed) := rfl
  rw [Command.bytesOfAll_cut] at ends traced offered
  rw [offered]
  generalize guard.write Command.cut.bytes desk = last at ends traced
  obtain ⟨ending, middle⟩ := last
  obtain rfl : ending = reply.ending := ends
  refine ⟨reply, ?_⟩
  by_cases succeeds : reply.ending = .done
  · rw [succeeds, if_pos rfl]
    exact ⟨rfl, traced.log .printed⟩
  · rw [andThen_of_ne_done succeeds, if_neg succeeds]
    exact ⟨rfl, traced⟩

theorem traced_execute (mild : guard.device.TakesOrFails) {receipt : Receipt}
    {blocks : List Bytes} (renders : receipt.Renders guard.profile blocks) (desk : Desk σ) :
    ∃ calls, Served (blocks ++ [Command.cut.bytes]) calls (guard.execute receipt desk).1 ∧
      Traced guard.device desk calls
        (receipt.trailOf blocks calls.length (guard.execute receipt desk).1)
        (guard.execute receipt desk).2 := by
  have rendered : receipt.blocks guard.profile = .ok (receipt.entries blocks) :=
    renderFrom_eq_zip 0 renders
  have executed : guard.execute receipt desk =
      andThen (guard.writeBlocks 0 (receipt.entries blocks) (desk.log (.printing receipt.length)))
        fun desk => andThen (guard.cut desk) fun desk => (.done, desk.log .printed) := by
    rw [execute, rendered, ← renders.length_entries]
  obtain ⟨calls, served, traced⟩ :=
    traced_writeBlocks mild 0 (receipt.entries blocks) (desk.log (.printing receipt.length))
  rw [renders.map_snd_entries] at served
  rw [executed]
  generalize guard.writeBlocks 0 (receipt.entries blocks) (desk.log (.printing receipt.length)) =
    items at served traced
  obtain ⟨ending, middle⟩ := items
  by_cases done : ending = .done
  · subst done
    obtain ⟨reply, ends, finished⟩ := traced_finish mild middle
    have all : calls.length = receipt.length := by
      rw [← renders.length_eq, ← (served.done_iff.mp rfl).1, List.length_map]
    have whole := traced.of_log.trans finished
    rw [all, ← renders.length_entries, List.take_length, renders.length_entries, ← ends] at whole
    have servedCut := Served.single ⟨Command.cut.bytes, reply⟩
    rw [← ends] at servedCut
    refine ⟨calls ++ [⟨Command.cut.bytes, reply⟩], served.append servedCut, ?_⟩
    rw [List.length_append, List.length_singleton, all, renders.trailOf_length_add_one]
    exact whole
  · have few : calls.length ≤ receipt.length := by
      have bounded := served.isPrefix.length_le
      rwa [List.length_map, renders.length_eq] at bounded
    rw [andThen_of_ne_done done]
    refine ⟨calls, served.extend done, ?_⟩
    rw [Receipt.trailOf_of_le few done]
    exact traced.of_log

end Guard

/-! ### What the log tells -/

namespace Receipt

variable {receipt : Receipt} {blocks : List Bytes}

theorem log_ofItems_entries (receipt : Receipt) (blocks : List Bytes) (calls : Nat) :
    (Trail.ofItems 0 ((receipt.entries blocks).take calls)).log =
      (receipt.lines blocks).take calls := by
  rw [Trail.log_ofItems, lines]
  apply List.ext_getElem?
  intro place
  simp only [List.getElem?_mapIdx, List.getElem?_take, Nat.zero_add]
  split <;> rfl

theorem log_trailOf (receipt : Receipt) (blocks : List Bytes) (calls : Nat) (ending : Ending) :
    (receipt.trailOf blocks calls ending).log =
      .printing receipt.length :: (receipt.lines blocks).take calls ++
        if ending = .done then [.printed] else [] := by
  have cut :
      Trail.log (if receipt.length < calls then [.offered Command.cut.bytes] else []) = [] := by
    split <;> rfl
  have printed : Trail.log (if ending = .done then [.logged .printed] else []) =
      if ending = .done then [.printed] else [] := by
    split <;> rfl
  rw [trailOf, Trail.log_append, Trail.log_append, cut, printed, List.append_nil,
    ← receipt.log_ofItems_entries]
  rfl

theorem level_of_mem_log_trailOf {calls : Nat} {ending : Ending} {entry : LogEntry}
    (logged : entry ∈ (receipt.trailOf blocks calls ending).log) : entry.level ≠ .error := by
  rw [log_trailOf, List.cons_append, List.mem_cons, List.mem_append] at logged
  rcases logged with rfl | announced | printed
  · simp [LogEntry.level]
  · obtain ⟨index, inside, rfl⟩ := List.mem_mapIdx.mp (List.mem_of_mem_take announced)
    simp [LogEntry.level]
  · split at printed
    · rw [List.mem_singleton.mp printed]
      simp [LogEntry.level]
    · cases printed

theorem Renders.getElem?_lines {profile : Profile} (renders : receipt.Renders profile blocks)
    {index : Nat} {block : Bytes} (placed : blocks[index]? = some block) :
    ∃ item, receipt.items[index]? = some item ∧
      (receipt.lines blocks)[index]? = some (.item index item.kind block.length) := by
  have inside : index < receipt.items.length := by
    obtain ⟨inBlocks, _⟩ := List.getElem?_eq_some_iff.mp placed
    rwa [renders.length_eq] at inBlocks
  refine ⟨receipt.items[index], List.getElem?_eq_getElem inside, ?_⟩
  have entry : (receipt.entries blocks)[index]? = some (receipt.items[index].kind, block) := by
    rw [entries, List.getElem?_zip_eq_some, List.getElem?_map, List.getElem?_eq_getElem inside]
    exact ⟨rfl, placed⟩
  rw [lines, List.getElem?_mapIdx, entry]
  rfl

theorem Renders.length_lines {profile : Profile} (renders : receipt.Renders profile blocks) :
    (receipt.lines blocks).length = receipt.length := by
  rw [lines, List.length_mapIdx, renders.length_entries]

end Receipt

/-- What the log tells about a print of some blocks, by the calls that it makes. -/
structure IsLogged (printer : Printer σ) (receipt : Receipt) (blocks : List Bytes)
    (before : Desk σ) (calls : List Call) (result : Ending × Desk σ) : Prop where
  /-- The line of an item stands right before its block, and the last line behind the cut. -/
  trail : result.2.trail = before.trail ++ receipt.trailOf blocks calls.length result.1
  log : result.2.trail.log = before.trail.log ++ (.printing receipt.length ::
    (receipt.lines blocks).take calls.length ++ if result.1 = .done then [.printed] else [])
  /-- There is a line for each call that is made for an item, and there are no other lines of
  items. -/
  count : ((receipt.lines blocks).take calls.length).length = (calls.take receipt.length).length
  /-- After an error of the device the last line is that of the item at fault, unless all items are
  printed and the cut is at fault. -/
  last_of_failed : ∀ error, result.1 = .failed error → ∃ front last, calls = front ++ [last] ∧
    (∀ call ∈ front, call.Succeeds) ∧ last.reply.ending = .failed error ∧
    ((∃ item, receipt.items[front.length]? = some item ∧
        item.render printer.profile = .ok last.block ∧
        ((receipt.lines blocks).take calls.length).getLast? =
          some (.item front.length item.kind last.block.length)) ∨
      (front.length = receipt.length ∧ last.block = Command.cut.bytes))

/-- The last call is for a block at its place, or for the final one after all others. -/
theorem Served.last_cases {blocks : List Bytes} {final : Bytes} {front : List Call} {last : Call}
    {ending : Ending} (served : Served (blocks ++ [final]) (front ++ [last]) ending) :
    blocks[front.length]? = some last.block ∨
      front.length = blocks.length ∧ last.block = final := by
  have offered : (blocks ++ [final])[front.length]? = some last.block := by
    obtain ⟨rest, whole⟩ := served.isPrefix
    rw [← whole]
    simp
  rcases Nat.lt_or_ge front.length blocks.length with early | late
  · rw [List.getElem?_append_left early] at offered
    exact .inl offered
  · obtain ⟨bound, _⟩ := List.getElem?_eq_some_iff.mp offered
    rw [List.length_append, List.length_singleton] at bound
    have behind : front.length = blocks.length := Nat.le_antisymm (Nat.le_of_lt_succ bound) late
    rw [behind, List.getElem?_concat_length] at offered
    exact .inr ⟨behind, (Option.some.inj offered).symm⟩

theorem Guard.isLogged_execute {printer : Printer σ} (mild : printer.device.TakesOrFails)
    {receipt : Receipt} {blocks : List Bytes} (renders : receipt.Renders printer.profile blocks)
    (gate : Gate) (desk : Desk σ) :
    ∃ calls, Served (blocks ++ [Command.cut.bytes]) calls
        ((printer.guard gate).execute receipt desk).1 ∧
      printer.device.Calls desk.state calls ((printer.guard gate).execute receipt desk).2.state ∧
      IsLogged printer receipt blocks desk calls ((printer.guard gate).execute receipt desk) := by
  have mildGuard : (printer.guard gate).device.TakesOrFails := mild
  obtain ⟨calls, served, traced⟩ := traced_execute mildGuard renders desk
  refine ⟨calls, served, traced.states, ?_⟩
  constructor
  case trail => exact traced.trail
  case log => rw [traced.trail, Trail.log_append, Receipt.log_trailOf]
  case count => rw [List.length_take, List.length_take, renders.length_lines, Nat.min_comm]
  case last_of_failed =>
    intro error failed
    obtain ⟨front, last, rfl, succeed, _, ends⟩ := served.last_of_ne_done (by simp [failed])
    refine ⟨front, last, rfl, succeed, ?_, ?_⟩
    · exact ends.symm.trans failed
    · rcases served.last_cases with offered | ⟨behind, isCut⟩
      · obtain ⟨item, placed, line⟩ := renders.getElem?_lines offered
        refine .inl ⟨item, placed, ?_, ?_⟩
        · have own := congrArg (·[front.length]?) renders
          simpa [placed, offered] using own
        · simp [List.getLast?_take, line]
      · exact .inr ⟨behind.trans renders.length_eq, isCut⟩

/-- Whether its items render or not, what a print adds to the log is no error. -/
theorem Guard.exists_log_execute {printer : Printer σ} (mild : printer.device.TakesOrFails)
    (gate : Gate) (receipt : Receipt) (desk : Desk σ) :
    ∃ own : List LogEntry, (∀ entry ∈ own, entry.level ≠ .error) ∧
      ((printer.guard gate).execute receipt desk).2.trail.log = desk.trail.log ++ own := by
  cases rendering : receipt.blocks printer.profile with
  | error failure =>
    refine ⟨[], by simp, ?_⟩
    have unrendered : receipt.blocks (printer.guard gate).profile = .error failure := rendering
    rw [execute, unrendered, List.append_nil]
  | ok entries =>
    have renders : receipt.Renders printer.profile (entries.map Prod.snd) :=
      Receipt.renders_iff.mpr ⟨entries, rendering, rfl⟩
    have mildGuard : (printer.guard gate).device.TakesOrFails := mild
    obtain ⟨calls, _, traced⟩ := traced_execute mildGuard renders desk
    exact ⟨_, fun entry => Receipt.level_of_mem_log_trailOf,
      by rw [traced.trail, Trail.log_append]⟩

/-! ### Receipts that are submitted -/

/-- The lines by which the failure of an attempt is reported. -/
def Attempt.errorLines : Attempt → List LogEntry
  | .answered (.failed error) => [.failed error]
  | _ => []

/-- What a receipt that is submitted adds to the log. -/
structure IsReported (printer : Printer σ) (gate : Gate) (receipt : Receipt) (before : Desk σ)
    (handling : Handling σ) (added : List LogEntry) : Prop where
  log : handling.desk.trail.log = before.trail.log ++ added
  /-- A failure is reported by one line, and nothing else is an error. -/
  errors : added.filter (fun entry => entry.level = .error) = handling.attempt.errorLines
  failed_iff : ∀ error, handling.attempt = .answered (.failed error) ↔ gate.isTaken = false ∧
    ((printer.guard ⟨true, gate.isMarked⟩).execute receipt (before.taken gate)).1 = .failed error
  busy_iff : handling.attempt = .answered .busy ↔ gate.isTaken = true
  of_busy : gate.isTaken = true → added = [.busy receipt.length]
  of_free : gate.isTaken = false → ∃ own,
    ((printer.guard ⟨true, gate.isMarked⟩).execute receipt (before.taken gate)).2.trail.log =
      (before.taken gate).trail.log ++ own ∧
    added = (if gate.isMarked then [.takenAfterPanic] else []) ++ own ++ handling.attempt.errorLines

theorem Desk.log_taken (desk : Desk σ) (gate : Gate) : (desk.taken gate).trail.log =
    desk.trail.log ++ if gate.isMarked then [.takenAfterPanic] else [] := by
  unfold taken
  split
  · exact Trail.log_append _ _
  · exact (List.append_nil _).symm

theorem Handling.log_ofEnding (gate : Gate) (result : Ending × Desk σ) :
    (ofEnding gate result).desk.trail.log =
      result.2.trail.log ++ (ofEnding gate result).attempt.errorLines := by
  obtain ⟨ending, desk⟩ := result
  cases ending with
  | failed error => exact Trail.log_append _ _
  | done => exact (List.append_nil _).symm
  | panicked => exact (List.append_nil _).symm

/-- Of the lines around a print only those that report its failure are errors. -/
theorem Attempt.filter_lines (attempt : Attempt) (isMarked : Bool) {own : List LogEntry}
    (mild : ∀ entry ∈ own, entry.level ≠ .error) :
    ((if isMarked then [LogEntry.takenAfterPanic] else []) ++ own ++ attempt.errorLines).filter
      (fun entry => entry.level = .error) = attempt.errorLines := by
  have noMark : (if isMarked then [LogEntry.takenAfterPanic] else []).filter
      (fun entry => entry.level = .error) = [] := by
    split <;> rfl
  have noOwn : own.filter (fun entry => entry.level = .error) = [] := by
    simpa [List.filter_eq_nil_iff] using mild
  have allErrors : attempt.errorLines.filter (fun entry => entry.level = .error) =
      attempt.errorLines := by
    unfold errorLines
    split <;> rfl
  rw [List.filter_append, List.filter_append, noMark, noOwn, allErrors, List.append_nil,
    List.nil_append]

theorem Printer.isReported_submit {printer : Printer σ} (mild : printer.device.TakesOrFails)
    (gate : Gate) (receipt : Receipt) (desk : Desk σ) :
    ∃ added, IsReported printer gate receipt desk (printer.submit gate receipt desk) added := by
  cases inUse : gate.isTaken with
  | true =>
    rw [submit_of_taken inUse]
    refine ⟨[.busy receipt.length], ?_⟩
    constructor
    case log => exact Trail.log_append _ _
    case errors => rfl
    case failed_iff => simp [inUse]
    case busy_iff => simp [inUse]
    case of_busy => exact fun _ => rfl
    case of_free => simp [inUse]
  | false =>
    rw [submit_of_free inUse]
    obtain ⟨own, mildOwn, executed⟩ :=
      Guard.exists_log_execute mild ⟨true, gate.isMarked⟩ receipt (desk.taken gate)
    let handling := Handling.ofEnding { gate with isTaken := true }
      ((printer.guard { gate with isTaken := true }).execute receipt (desk.taken gate))
    refine ⟨(if gate.isMarked then [.takenAfterPanic] else []) ++ own ++
      handling.attempt.errorLines, ?_⟩
    constructor
    case log =>
      rw [Handling.log_ofEnding, executed, desk.log_taken, List.append_assoc, List.append_assoc,
        List.append_assoc]
    case errors => exact handling.attempt.filter_lines gate.isMarked mildOwn
    case failed_iff =>
      intro error
      simp [Handling.attempt_ofEnding_eq_failed_iff, inUse]
    case busy_iff => simp [Handling.attempt_ofEnding_ne_busy, inUse]
    case of_busy => simp [inUse]
    case of_free => exact fun _ => ⟨own, executed, rfl⟩

/-- The log is a trail of what the device is asked to do. Nothing is logged if an item does not
render. Otherwise the number of items is logged, each item right before its block is offered and no
other item, and that the receipt is printed exactly if all calls succeed. A receipt that is
submitted adds one line if it fails and one if it is turned away. -/
theorem log_follows_device (printer : Printer σ) (mild : printer.device.TakesOrFails)
    (receipt : Receipt) :
    (∀ (gate : Gate) (desk : Desk σ),
      let result := (printer.guard gate).execute receipt desk
      ((∃ item ∈ receipt.items, ∃ failure, item.render printer.profile = .error failure) →
        result.2 = desk) ∧
      (∀ blocks, receipt.Renders printer.profile blocks →
        ∃ calls, Served (blocks ++ [Command.cut.bytes]) calls result.1 ∧
          printer.device.Calls desk.state calls result.2.state ∧
          IsLogged printer receipt blocks desk calls result)) ∧
    (∀ (gate : Gate) (desk : Desk σ), ∃ added,
      IsReported printer gate receipt desk (printer.submit gate receipt desk) added) := by
  refine ⟨fun gate desk => ⟨?_, ?_⟩, fun gate desk => ?_⟩
  · intro someFails
    have fails : receipt.Fails printer.profile := someFails
    obtain ⟨index, item, failure, first⟩ := fails.exists_first
    have executed := (printer.guard gate).execute_of_failsFirst first desk
    exact congrArg Prod.snd executed
  · intro blocks renders
    exact Guard.isLogged_execute mild renders gate desk
  · exact Printer.isReported_submit mild gate receipt desk

/-- Three feeds on a device that takes the first of them and fails at the second one. -/
theorem log_of_three_feeds :
    let device : Device Takings :=
      .scheduled fun call => if call = 1 then some (.short 2) else none
    let printer : Printer Takings := ⟨.ofFile "unused", device⟩
    let receipt : Receipt := ⟨[.feed 1, .feed 300, .feed 2]⟩
    let blocks : List Bytes := [[0x1B, 0x64, 1], [0x1B, 0x64, 255, 0x1B, 0x64, 45], [0x1B, 0x64, 2]]
    let start : Desk Takings := ⟨[], []⟩
    let result := (printer.guard ⟨true, false⟩).execute receipt start
    device.TakesOrFails ∧ receipt.Renders printer.profile blocks ∧
      result.1 = .failed (.shortWrite 2 6) ∧
      (∃ calls, Served (blocks ++ [Command.cut.bytes]) calls result.1 ∧
        IsLogged printer receipt blocks start calls result) ∧
      result.2.trail.log.map LogEntry.line =
        ["INFO Printing job with 3 items", "DEBUG Item 0 (feed), 3 bytes",
          "DEBUG Item 1 (feed), 6 bytes"] ∧
      (∃ added, IsReported printer .fresh receipt start
          (printer.submit .fresh receipt start) added ∧
        added.filter (fun entry => entry.level = .error) = [.failed (.shortWrite 2 6)]) ∧
      ∃ added, IsReported printer ⟨true, false⟩ receipt start
          (printer.submit ⟨true, false⟩ receipt start) added ∧
        added.map LogEntry.line = ["WARN Printer is busy, rejecting job with 3 items"] := by
  intro device printer receipt blocks start result
  have mild : device.TakesOrFails := by
    apply Device.takesOrFails_scheduled
    intro number
    split <;> simp
  have renders : receipt.Renders printer.profile blocks := rfl
  obtain ⟨executed, submitted⟩ := log_follows_device printer mild receipt
  obtain ⟨calls, served, _, logged⟩ := (executed ⟨true, false⟩ start).2 blocks renders
  obtain ⟨added, reported⟩ := submitted .fresh start
  obtain ⟨addedWhileTaken, turnedAway⟩ := submitted ⟨true, false⟩ start
  refine ⟨mild, renders, rfl, ⟨calls, served, logged⟩, by decide +kernel,
    ⟨added, reported, ?_⟩, addedWhileTaken, turnedAway, ?_⟩
  · rw [reported.errors, (reported.failed_iff (.shortWrite 2 6)).mpr ⟨rfl, rfl⟩]
    rfl
  · rw [turnedAway.of_busy rfl]
    decide +kernel

end ThermalPrint
