import ThermalPrint.Proofs.Printing.Writes

/-!
# Rendering comes first

Printing a receipt renders all of its items and only then offers the first block. The first item
that does not render decides how a receipt ends of which nothing is written. The renderings of all
other items do not matter then.
-/

namespace ThermalPrint

variable {σ : Type}

namespace Receipt

/-- The items of a receipt render, and give these blocks. -/
def Renders (profile : Profile) (receipt : Receipt) (blocks : List Bytes) : Prop :=
  receipt.items.map (Item.render profile) = blocks.map .ok

/-- The first item of a receipt that does not render is this one, at this index. -/
def FailsFirst (profile : Profile) (receipt : Receipt) (index : Nat) (item : Item)
    (failure : Failure) : Prop :=
  ∃ (front rest : List Item) (blocks : List Bytes),
    receipt.items = front ++ item :: rest ∧ front.length = index ∧
    front.map (Item.render profile) = blocks.map .ok ∧ item.render profile = .error failure

/-- Some item of a receipt does not render. -/
def Fails (profile : Profile) (receipt : Receipt) : Prop :=
  ∃ item ∈ receipt.items, ∃ failure, item.render profile = .error failure

/-- Each item of a receipt renders or fails with an error. -/
def NeverPanics (profile : Profile) (receipt : Receipt) : Prop :=
  ∀ item ∈ receipt.items, item.render profile ≠ .error .panic

end Receipt

theorem renderFrom_of_rendered {profile : Profile} {items : List Item} {blocks : List Bytes}
    (index : Nat) (rendered : items.map (Item.render profile) = blocks.map .ok) :
    ∃ entries, renderFrom profile index items = .ok entries ∧ entries.map Prod.snd = blocks := by
  induction items generalizing index blocks with
  | nil =>
    cases blocks with
    | nil => exact ⟨[], rfl, rfl⟩
    | cons block rest => simp at rendered
  | cons item items inductionHypothesis =>
    cases blocks with
    | nil => simp at rendered
    | cons block rest =>
      simp only [List.map_cons, List.cons.injEq] at rendered
      obtain ⟨entries, renderedRest, sameBlocks⟩ := inductionHypothesis (index + 1) rendered.2
      refine ⟨(item.kind, block) :: entries, ?_, by simp [sameBlocks]⟩
      simp [renderFrom, rendered.1, renderedRest]

theorem renderFrom_of_failure {profile : Profile} {front : List Item} {item : Item}
    {blocks : List Bytes} {failure : Failure} (index : Nat) (rest : List Item)
    (rendered : front.map (Item.render profile) = blocks.map .ok)
    (failed : item.render profile = .error failure) :
    renderFrom profile index (front ++ item :: rest) =
      .error (failure.ofItem (index + front.length) item.kind) := by
  induction front generalizing index blocks with
  | nil => simp [renderFrom, failed]
  | cons first front inductionHypothesis =>
    cases blocks with
    | nil => simp at rendered
    | cons block blocks =>
      simp only [List.map_cons, List.cons.injEq] at rendered
      have later := inductionHypothesis (index + 1) rendered.2
      simp only [List.cons_append, renderFrom, rendered.1, later, List.length_cons]
      rw [Nat.add_right_comm, Nat.add_assoc]

theorem rendered_of_renderFrom {profile : Profile} {items : List Item} {index : Nat}
    {entries : List (Kind × Bytes)} (success : renderFrom profile index items = .ok entries) :
    items.map (Item.render profile) = (entries.map Prod.snd).map .ok := by
  induction items generalizing index entries with
  | nil =>
    cases success
    rfl
  | cons item items inductionHypothesis =>
    rw [renderFrom] at success
    split at success
    · cases success
    · rename_i block rendered
      split at success
      · cases success
      · rename_i later renderedRest
        cases success
        simp [rendered, inductionHypothesis renderedRest]

/-- If the items do not all render, then all before a first one do. -/
theorem failure_of_renderFrom {profile : Profile} {items : List Item} {index : Nat}
    {failure : Failure} (failed : renderFrom profile index items = .error failure) :
    ∃ (front rest : List Item) (item : Item) (blocks : List Bytes) (own : Failure),
      items = front ++ item :: rest ∧ front.map (Item.render profile) = blocks.map .ok ∧
      item.render profile = .error own ∧
      failure = own.ofItem (index + front.length) item.kind := by
  induction items generalizing index with
  | nil => cases failed
  | cons item items inductionHypothesis =>
    rw [renderFrom] at failed
    split at failed
    · rename_i own notRendered
      cases failed
      exact ⟨[], items, item, [], own, rfl, rfl, notRendered, rfl⟩
    · rename_i block rendered
      split at failed
      · rename_i later failedRest
        cases failed
        obtain ⟨front, rest, first, blocks, own, rfl, renderedFront, notRendered, rfl⟩ :=
          inductionHypothesis failedRest
        refine ⟨item :: front, rest, first, block :: blocks, own, rfl, ?_, notRendered, ?_⟩
        · simp [rendered, renderedFront]
        · rw [List.length_cons, Nat.add_right_comm, Nat.add_assoc]
      · cases failed

namespace Receipt

variable {profile : Profile} {receipt : Receipt} {index : Nat} {item : Item} {failure : Failure}

theorem blocks_eq_error_iff {failure : Failure} : receipt.blocks profile = .error failure ↔
    ∃ index item own, receipt.FailsFirst profile index item own ∧
      failure = own.ofItem index item.kind := by
  constructor
  · intro failed
    obtain ⟨front, rest, item, blocks, own, items, rendered, notRendered, rfl⟩ :=
      failure_of_renderFrom failed
    rw [Nat.zero_add]
    exact ⟨front.length, item, own, ⟨front, rest, blocks, items, rfl, rendered, notRendered⟩, rfl⟩
  · rintro ⟨index, item, own, ⟨front, rest, blocks, items, rfl, rendered, notRendered⟩, rfl⟩
    unfold Receipt.blocks
    rw [items, renderFrom_of_failure 0 rest rendered notRendered, Nat.zero_add]

theorem renders_or_failsFirst (profile : Profile) (receipt : Receipt) :
    (∃ blocks, receipt.Renders profile blocks) ∨
      ∃ index item failure, receipt.FailsFirst profile index item failure := by
  cases rendering : receipt.blocks profile with
  | ok entries => exact .inl ⟨entries.map Prod.snd, rendered_of_renderFrom rendering⟩
  | error failure =>
    obtain ⟨index, item, own, first, _⟩ := blocks_eq_error_iff.mp rendering
    exact .inr ⟨index, item, own, first⟩

theorem Renders.not_fails {blocks : List Bytes} (renders : receipt.Renders profile blocks) :
    ¬receipt.Fails profile := by
  rintro ⟨item, member, failure, failed⟩
  have rendered := List.mem_map_of_mem (f := Item.render profile) member
  rw [Renders] at renders
  rw [renders, failed] at rendered
  simp at rendered

theorem Renders.neverPanics {blocks : List Bytes} (renders : receipt.Renders profile blocks) :
    receipt.NeverPanics profile := by
  intro item member panics
  exact renders.not_fails ⟨item, member, .panic, panics⟩

theorem FailsFirst.mem (first : receipt.FailsFirst profile index item failure) :
    item ∈ receipt.items := by
  obtain ⟨front, rest, blocks, items, _⟩ := first
  rw [items]
  exact List.mem_append_cons_self

theorem FailsFirst.render_eq (first : receipt.FailsFirst profile index item failure) :
    item.render profile = .error failure := by
  obtain ⟨_, _, _, _, _, _, failed⟩ := first
  exact failed

theorem FailsFirst.fails (first : receipt.FailsFirst profile index item failure) :
    receipt.Fails profile :=
  ⟨item, first.mem, failure, first.render_eq⟩

theorem Fails.exists_first (fails : receipt.Fails profile) :
    ∃ index item failure, receipt.FailsFirst profile index item failure := by
  rcases receipt.renders_or_failsFirst profile with ⟨blocks, renders⟩ | first
  · exact absurd fails renders.not_fails
  · exact first

theorem exists_renders_of_not_fails (sound : ¬receipt.Fails profile) :
    ∃ blocks, receipt.Renders profile blocks := by
  rcases receipt.renders_or_failsFirst profile with renders | ⟨index, item, failure, first⟩
  · exact renders
  · exact absurd first.fails sound

theorem NeverPanics.exists_error (neverPanics : receipt.NeverPanics profile)
    (first : receipt.FailsFirst profile index item failure) : ∃ error, failure = .error error := by
  cases failure with
  | error error => exact ⟨error, rfl⟩
  | panic => exact absurd first.render_eq (neverPanics item first.mem)

end Receipt

/-- How a receipt ends of which an item does not render. -/
def Failure.endingOfItem (index : Nat) (kind : Kind) : Failure → Ending
  | .error source => .failed (.render index kind source)
  | .panic => .panicked

theorem Guard.execute_of_failsFirst (guard : Guard σ) {receipt : Receipt} {index : Nat}
    {item : Item} {failure : Failure}
    (first : receipt.FailsFirst guard.profile index item failure) (desk : Desk σ) :
    guard.execute receipt desk = (failure.endingOfItem index item.kind, desk) := by
  have failed : receipt.blocks guard.profile = .error (failure.ofItem index item.kind) :=
    Receipt.blocks_eq_error_iff.mpr ⟨index, item, failure, first, rfl⟩
  rw [execute, failed]
  cases failure <;> rfl

/-- All items are rendered before the first block is offered. If an item does not render and none
panics, nothing is written, and the error of the first such item is returned with its position.
Otherwise the blocks and the cut are offered in order, the receipt is printed exactly if all of them
are taken, and else the call that is not successful is the last one and decides the ending. -/
theorem execute_renders_then_writes (printer : Printer σ) (isMarked : Bool) (receipt : Receipt)
    (desk : Desk σ) (neverPanics : receipt.NeverPanics printer.profile) :
    let result := (printer.guard ⟨true, isMarked⟩).execute receipt desk
    (receipt.Fails printer.profile → ∃ index item source,
      receipt.FailsFirst printer.profile index item (.error source) ∧
        result = (.failed (.render index item.kind source), desk)) ∧
    (¬receipt.Fails printer.profile → ∃ blocks, receipt.Renders printer.profile blocks ∧
      ∃ calls, Carried printer.device desk calls result.2 ∧
        calls.map Call.block <+: blocks ++ [Command.cut.bytes] ∧
        (result.1 = .done ↔ calls.map Call.block = blocks ++ [Command.cut.bytes] ∧
          ∀ call ∈ calls, call.Succeeds) ∧
        (result.1 ≠ .done → ∃ front last, calls = front ++ [last] ∧
          (∀ call ∈ front, call.Succeeds) ∧ ¬last.Succeeds ∧
          result.1 = last.reply.ending)) := by
  intro result
  constructor
  · intro fails
    obtain ⟨index, item, failure, first⟩ := fails.exists_first
    obtain ⟨source, rfl⟩ := neverPanics.exists_error first
    exact ⟨index, item, source, first,
      (printer.guard ⟨true, isMarked⟩).execute_of_failsFirst first desk⟩
  · intro sound
    obtain ⟨blocks, rendered⟩ := Receipt.exists_renders_of_not_fails sound
    obtain ⟨entries, renderedAll, sameBlocks⟩ := renderFrom_of_rendered 0 rendered
    have quiet : (printer.guard ⟨true, isMarked⟩).IsQuiet :=
      printer.guard_isQuiet rfl
    obtain ⟨calls, served, carried⟩ := Guard.performs_execute quiet receipt renderedAll desk
    rw [sameBlocks, Command.bytesOfAll_cut] at served
    exact ⟨blocks, rendered, calls, carried, served.isPrefix, served.done_iff,
      served.last_of_ne_done⟩

/-- A device that takes the first block only, a receipt with a picture that is not in base64 behind
a feed and before another faulty item, and a receipt of two feeds. -/
theorem execute_of_brokenPicture :
    let printer : Printer Takings :=
      ⟨.ofFile "unused", .scheduled fun call => if call = 1 then some (.short 2) else none⟩
    let guard := printer.guard ⟨true, false⟩
    let start : Desk Takings := ⟨[], []⟩
    let broken : Receipt := ⟨[.feed 1, .picture "?" .left .none, .barcode "12" .ean8]⟩
    let feeds : Receipt := ⟨[.feed 1, .feed 2]⟩
    let source : Error := .base64 (.invalidByte 63 0)
    (guard.execute broken start = (.failed (.render 1 .picture source), start) ∧
      ∃ item, broken.FailsFirst printer.profile 1 item (.error source)) ∧
    ∃ calls, Carried printer.device start calls (guard.execute feeds start).2 ∧
      calls.map Call.block = [[0x1B, 0x64, 1], [0x1B, 0x64, 2]] ∧
      (guard.execute feeds start).1 = .failed (.shortWrite 2 3) ∧
      ∃ front last, calls = front ++ [last] ∧ last.reply.ending = .failed (.shortWrite 2 3) := by
  intro printer guard start broken feeds source
  have noPanic : broken.NeverPanics printer.profile := by
    intro item member panics
    simp only [broken, List.mem_cons, List.not_mem_nil, or_false] at member
    rcases member with rfl | rfl | rfl
    · cases panics
    · cases panics
    · cases panics
  have fails : broken.Fails printer.profile :=
    ⟨.picture "?" .left .none, by simp [broken], .error source, rfl⟩
  have renders : feeds.Renders printer.profile [[0x1B, 0x64, 1], [0x1B, 0x64, 2]] := rfl
  obtain ⟨index, item, own, first, ends⟩ :=
    (execute_renders_then_writes printer false broken start noPanic).1 fails
  obtain ⟨blocks, rendered, calls, carried, _, _, stopped⟩ :=
    (execute_renders_then_writes printer false feeds start renders.neverPanics).2 renders.not_fails
  have executed : guard.execute broken start = (.failed (.render 1 .picture source), start) := rfl
  have same : Ending.failed (.render 1 .picture source) = .failed (.render index item.kind own) :=
    congrArg Prod.fst (executed.symm.trans ends)
  simp only [Ending.failed.injEq, Error.render.injEq] at same
  obtain ⟨rfl, _, rfl⟩ := same
  have failed : (guard.execute feeds start).1 = .failed (.shortWrite 2 3) := rfl
  have notDone : (guard.execute feeds start).1 ≠ .done := by
    rw [failed]
    simp
  obtain ⟨front, last, split, _, _, lastEnds⟩ := stopped notDone
  have offered : (guard.execute feeds start).2.trail.blocks =
    [[0x1B, 0x64, 1], [0x1B, 0x64, 2]] := rfl
  exact ⟨⟨executed, item, first⟩, calls, carried, carried.blocks.symm.trans offered, failed, front,
    last, split, lastEnds.symm.trans failed⟩

/-- A small PNG file whose palette ends in the first third of a color. -/
def brokenPalette : Item :=
  .picture ("iVBORw0KGgoAAAANSUhEUgAAAAMAAAACCAMAAACqqpYoAAAABFBMVEUBAgMEI9uKqwAAAAxJREFUeAFi" ++
    "gAHAAQAAAAAA0dhWdwAAAABJRU5ErkJggg==") .left .none

theorem render_brokenPalette :
    brokenPalette.render (.ofFile "unused") = .error .panic := by
  have panics :
      (match brokenPalette.render (.ofFile "unused") with
        | .ok _ => false
        | .error failure => decide (failure = .panic)) = true := by
    decide +kernel
  cases rendering : brokenPalette.render (.ofFile "unused") with
  | ok block =>
    rw [rendering] at panics
    contradiction
  | error failure =>
    rw [rendering] at panics
    rw [of_decide_eq_true panics]

theorem failsFirst_brokenPalette :
    (Receipt.mk [brokenPalette]).FailsFirst (.ofFile "unused") 0 brokenPalette .panic :=
  ⟨[], [], [], rfl, rfl, rfl, render_brokenPalette⟩

/-- Not every item that does not render is reported: the rendering of a picture may panic, and then
printing the receipt panics too. -/
theorem execute_panics_on_brokenPalette :
    ¬∀ (printer : Printer Takings) (receipt : Receipt) (desk : Desk Takings),
      (∃ item ∈ receipt.items, ∃ failure, item.render printer.profile = .error failure) →
        ∃ index kind source, ((printer.guard ⟨true, false⟩).execute receipt desk).1 =
          .failed (.render index kind source) := by
  intro reported
  let printer : Printer Takings := ⟨.ofFile "unused", .scheduled fun _ => none⟩
  let guard := printer.guard ⟨true, false⟩
  obtain ⟨index, kind, source, failed⟩ :=
    reported printer ⟨[brokenPalette]⟩ ⟨[], []⟩ failsFirst_brokenPalette.fails
  have panics := guard.execute_of_failsFirst failsFirst_brokenPalette ⟨[], []⟩
  have impossible : Ending.panicked = .failed (.render index kind source) :=
    (congrArg Prod.fst panics).symm.trans failed
  simp at impossible

end ThermalPrint
