import ThermalPrint.Receipt.Render

/-!
Feeds on a machine with registers. The lines that are left are counted in a register of 32 bits, and
those of a command in one of 8 bits. The machine adds one command after the other until no lines are
left. It stops if a register cannot hold what it is given, or if a difference is less than zero.
-/

namespace ThermalPrint

structure FeedMachine where
  /-- The lines that are still to be fed. -/
  remaining : UInt32
  /-- The bytes of the commands so far. -/
  block : Bytes
  deriving DecidableEq, Repr

namespace FeedMachine

/-- The lines of the next command: all that are left, as far as one command can feed them. -/
def chunk (machine : FeedMachine) : UInt32 :=
  min machine.remaining (.ofNat greatestFeed)

/-- Moves a number into a register of 8 bits, if it has no more than that. -/
def narrow? (number : UInt32) : Option UInt8 :=
  if number.toUInt8.toUInt32 = number then some number.toUInt8 else none

/-- Takes a part away from a number, if the number is at least the part. -/
def takeAway? (number part : UInt32) : Option UInt32 :=
  if part ≤ number then some (number - part) else none

def step? (machine : FeedMachine) : Option FeedMachine := do
  let lines ← narrow? machine.chunk
  let remaining ← takeAway? machine.remaining machine.chunk
  return ⟨remaining, machine.block ++ (Command.feed lines).bytes⟩

theorem toNat_chunk (machine : FeedMachine) :
    machine.chunk.toNat = min machine.remaining.toNat greatestFeed := by
  by_cases few : machine.remaining ≤ .ofNat greatestFeed
  · have all : machine.chunk = machine.remaining := if_pos few
    rw [all]
    exact (Nat.min_eq_left few).symm
  · have full : machine.chunk = .ofNat greatestFeed := if_neg few
    rw [full]
    exact (Nat.min_eq_right (Nat.le_of_not_le few)).symm

theorem toNat_takeAway? {number part difference : UInt32}
    (success : takeAway? number part = some difference) :
    difference.toNat + part.toNat = number.toNat := by
  unfold takeAway? at success
  split at success
  · rename_i enough
    cases success
    rw [UInt32.toNat_sub_of_le _ _ enough]
    exact Nat.sub_add_cancel enough
  · cases success

theorem toNat_remaining_pos {machine : FeedMachine} (more : machine.remaining ≠ 0) :
    0 < machine.remaining.toNat :=
  UInt32.pos_iff_ne_zero.mpr more

/-- A command feeds at least one of the lines that are left. -/
theorem remaining_lt_of_step? {machine next : FeedMachine} (more : machine.remaining ≠ 0)
    (success : machine.step? = some next) : next.remaining.toNat < machine.remaining.toNat := by
  simp only [step?, Option.bind_eq_bind, Option.bind_eq_some_iff] at success
  obtain ⟨lines, _, remaining, taken, same⟩ := success
  cases same
  have positive : 0 < machine.chunk.toNat := by
    rw [toNat_chunk, Nat.lt_min]
    exact ⟨toNat_remaining_pos more, by decide⟩
  rw [← toNat_takeAway? taken]
  exact Nat.lt_add_of_pos_right positive

/-- The machine when no lines are left, if it has not stopped before. -/
def run? (machine : FeedMachine) : Option FeedMachine :=
  if _more : machine.remaining = 0 then some machine
  else
    match _stepping : machine.step? with
    | none => none
    | some next => run? next
termination_by machine.remaining.toNat
decreasing_by exact remaining_lt_of_step? _more _stepping

end FeedMachine

end ThermalPrint
