import Mathlib.Algebra.GroupWithZero.Nat
import ThermalPrint.Proofs.Printer.Tokens
import ThermalPrint.Receipt.FeedMachine

/-!
# Feeds lose no line

A feed is split into commands for 255 lines each, and one for the lines that are left over, if there
are any. The machine that goes round until no lines are left comes to the same commands: its block,
followed by the commands for the lines that are left, does not change in a round.
-/

namespace ThermalPrint

/-- The lines of each command of a feed. -/
def feedCounts (lines : Nat) : List UInt8 :=
  List.replicate (lines / greatestFeed) (.ofNat greatestFeed) ++
    if lines % greatestFeed = 0 then [] else [.ofNat (lines % greatestFeed)]

theorem feedCommands_eq (lines : Nat) : feedCommands lines = (feedCounts lines).map .feed := by
  unfold feedCommands feedCounts
  split <;> simp

theorem feedCounts_of_lt {lines : Nat} (more : 0 < lines) (few : lines < greatestFeed) :
    feedCounts lines = [.ofNat lines] := by
  rw [feedCounts, Nat.div_eq_of_lt few, Nat.mod_eq_of_lt few, if_neg (Nat.ne_of_gt more)]
  rfl

theorem feedCounts_add (lines : Nat) :
    feedCounts (lines + greatestFeed) = .ofNat greatestFeed :: feedCounts lines := by
  rw [feedCounts, Nat.add_div_right lines (by decide), Nat.add_mod_right, List.replicate_succ]
  rfl

/-- The first command takes as many lines as it can, and the others are for the rest. -/
theorem feedCounts_of_pos {lines : Nat} (more : 0 < lines) :
    feedCounts lines =
      .ofNat (min lines greatestFeed) :: feedCounts (lines - min lines greatestFeed) := by
  by_cases few : lines < greatestFeed
  · rw [Nat.min_eq_left (Nat.le_of_lt few), Nat.sub_self]
    exact feedCounts_of_lt more few
  · have enough : greatestFeed ≤ lines := Nat.le_of_not_lt few
    rw [Nat.min_eq_right enough, ← feedCounts_add, Nat.sub_add_cancel enough]

theorem toNat_remainder (lines : Nat) :
    (UInt8.ofNat (lines % greatestFeed)).toNat = lines % greatestFeed := by
  have rest : lines % greatestFeed < greatestFeed := Nat.mod_lt lines (by decide)
  exact UInt8.toNat_ofNat_of_lt' (Nat.lt_trans rest (by decide))

theorem length_feedCounts (lines : Nat) : (feedCounts lines).length = (lines + 254) / 255 := by
  unfold feedCounts greatestFeed
  split <;> simp <;> omega

theorem sum_feedCounts (lines : Nat) : ((feedCounts lines).map UInt8.toNat).sum = lines := by
  have whole : lines / greatestFeed * greatestFeed + lines % greatestFeed = lines :=
    Nat.div_add_mod' lines greatestFeed
  have full : (UInt8.ofNat greatestFeed).toNat = greatestFeed := rfl
  rw [feedCounts, List.map_append, List.sum_append_nat, List.map_replicate,
    List.sum_replicate_nat, full]
  split
  next nothingOver =>
    rw [nothingOver] at whole
    exact whole
  next leftOver =>
    rw [List.map_singleton, List.sum_singleton, toNat_remainder]
    exact whole

theorem one_le_of_mem_feedCounts {lines : Nat} {count : UInt8} (member : count ∈ feedCounts lines) :
    1 ≤ count.toNat := by
  rcases List.mem_append.mp member with whole | rest
  · rw [List.eq_of_mem_replicate whole]
    decide
  · split at rest
    · cases rest
    · rename_i leftOver
      rw [List.mem_singleton.mp rest, toNat_remainder]
      exact Nat.pos_of_ne_zero leftOver

theorem eq_of_mem_dropLast_feedCounts {lines : Nat} {count : UInt8}
    (member : count ∈ (feedCounts lines).dropLast) : count = 255 := by
  unfold feedCounts at member
  split at member
  · rw [List.append_nil] at member
    exact List.eq_of_mem_replicate (List.dropLast_subset _ member)
  · rw [List.dropLast_concat] at member
    exact List.eq_of_mem_replicate member

/-- Commands that feed lines are read back from their bytes. -/
theorem readAll?_feeds (counts : List UInt8) :
    Token.readAll? (Command.bytesOfAll (counts.map .feed)) =
      some (counts.map fun count => .command 0x1B 0x64 [count] []) := by
  have whole : ∀ token ∈ (counts.map Command.feed).map Command.token, token.IsWhole := by
    simp only [List.forall_mem_map]
    intro count _
    exact Command.isWhole_token trivial
  have read := Token.readAll?_flatMap whole
  rw [Command.flatMap_bytes_tokens, List.map_map] at read
  exact read

/-! ### The machine does not stop -/

namespace FeedMachine

theorem narrow?_eq {number : UInt32} (short : number.toNat < 256) :
    narrow? number = some number.toUInt8 := by
  apply if_pos
  rw [← UInt32.toNat_inj, UInt8.toNat_toUInt32, UInt32.toNat_toUInt8]
  exact Nat.mod_eq_of_lt short

theorem toNat_chunk_lt (machine : FeedMachine) : machine.chunk.toNat < 256 := by
  rw [toNat_chunk]
  exact Nat.lt_of_le_of_lt (Nat.min_le_right _ _) (by decide)

theorem chunk_le (machine : FeedMachine) : machine.chunk ≤ machine.remaining := by
  rw [UInt32.le_iff_toNat_le, toNat_chunk]
  exact Nat.min_le_left _ _

theorem step?_eq (machine : FeedMachine) :
    machine.step? = some ⟨machine.remaining - machine.chunk,
      machine.block ++ (Command.feed machine.chunk.toUInt8).bytes⟩ := by
  have taken : takeAway? machine.remaining machine.chunk =
      some (machine.remaining - machine.chunk) := if_pos machine.chunk_le
  rw [step?, narrow?_eq machine.toNat_chunk_lt, taken]
  rfl

/-- The block of a machine with the commands for the lines that are left. -/
def wholeBlock (machine : FeedMachine) : Bytes :=
  machine.block ++ Command.bytesOfAll (feedCommands machine.remaining.toNat)

/-- A round moves one command into the block and leaves the commands for the other lines. -/
theorem wholeBlock_of_step? {machine next : FeedMachine} (more : machine.remaining ≠ 0)
    (success : machine.step? = some next) : next.wholeBlock = machine.wholeBlock := by
  rw [step?_eq, Option.some.injEq] at success
  subst success
  have lines : machine.chunk.toUInt8 = .ofNat (min machine.remaining.toNat greatestFeed) := by
    rw [← toNat_chunk]
    rfl
  rw [wholeBlock, wholeBlock, UInt32.toNat_sub_of_le _ _ machine.chunk_le, toNat_chunk, lines,
    feedCommands_eq, feedCommands_eq, feedCounts_of_pos (toNat_remaining_pos more), List.map_cons,
    Command.bytesOfAll, Command.bytesOfAll, List.flatMap_cons, List.append_assoc]

theorem run?_of_step? {machine next : FeedMachine} (more : machine.remaining ≠ 0)
    (success : machine.step? = some next) : machine.run? = next.run? := by
  rw [run?, dif_neg more]
  split
  · rename_i stopped
    rw [success] at stopped
    contradiction
  · rename_i stepping
    rw [success] at stepping
    cases stepping
    rfl

theorem run?_eq (machine : FeedMachine) : machine.run? = some ⟨0, machine.wholeBlock⟩ := by
  induction machine using run?.induct with
  | case1 machine finished =>
    obtain ⟨remaining, block⟩ := machine
    obtain rfl : remaining = 0 := finished
    have nothing : Command.bytesOfAll (feedCommands 0) = [] := rfl
    rw [run?, dif_pos rfl, wholeBlock, UInt32.toNat_zero, nothing, List.append_nil]
  | case2 machine more stopped =>
    -- A chunk fits its register and is no more than what is left, so no round stops the machine.
    rw [step?_eq] at stopped
    contradiction
  | case3 machine more next stepping inductionHypothesis =>
    rw [run?_of_step? more stepping, inductionHypothesis, wholeBlock_of_step? more stepping]

end FeedMachine

/-- A feed of any number of lines is rendered, and the machine that goes round until no lines are
left comes to the same block, without a number that its register cannot hold and without a
difference below zero. The block is read as commands to feed lines and nothing else. They are as few
as can be: all but the last one feed 255 lines, each feeds at least one, and together they feed all
lines. -/
theorem feed_loses_no_line (profile : Profile) (lines : UInt32) :
    ∃ (counts : List UInt8) (block : Bytes),
      Item.render profile (.feed lines) = .ok block ∧
      FeedMachine.run? ⟨lines, []⟩ = some ⟨0, block⟩ ∧
      block = Command.bytesOfAll (counts.map .feed) ∧
      Token.readAll? block =
        some (counts.map fun count => .command 0x1B 0x64 [count] []) ∧
      counts.length = (lines.toNat + 254) / 255 ∧
      (∀ count ∈ counts, 1 ≤ count.toNat ∧ count.toNat ≤ 255) ∧
      (∀ count ∈ counts.dropLast, count = 255) ∧
      (counts.map UInt8.toNat).sum = lines.toNat ∧
      (block = [] ↔ lines = 0) := by
  have whole : (FeedMachine.wholeBlock ⟨lines, []⟩) =
      Command.bytesOfAll ((feedCounts lines.toNat).map .feed) := by
    rw [FeedMachine.wholeBlock, List.nil_append, feedCommands_eq]
  refine ⟨feedCounts lines.toNat, FeedMachine.wholeBlock ⟨lines, []⟩, rfl,
    FeedMachine.run?_eq _, whole, ?_, length_feedCounts _, ?_, ?_, sum_feedCounts _, ?_⟩
  · rw [whole]
    exact readAll?_feeds _
  · intro count member
    exact ⟨one_le_of_mem_feedCounts member, Nat.le_of_lt_succ count.toNat_lt⟩
  · intro count member
    exact eq_of_mem_dropLast_feedCounts member
  · constructor
    · intro empty
      by_cases nothing : lines = 0
      · exact nothing
      · have more : 0 < lines.toNat := UInt32.pos_iff_ne_zero.mpr nothing
        rw [whole, feedCounts_of_pos more] at empty
        contradiction
    · rintro rfl
      rfl

/-- Nothing is left over of a multiple of 255. -/
example : feedCommands 510 = [.feed 255, .feed 255] := rfl

end ThermalPrint
