import ThermalPrint.Printing.DeviceFile

/-!
# A block is written once and in order

`WriteRun.Follows` says what a writer that counts its bytes can do with each answer. By what it
offers, the system never gets a byte twice and never misses one, so it has taken the first part of
the block whenever the writer stops. The loop that drops what has been taken writes the same bytes
and ends in the same way.
-/

namespace ThermalPrint

namespace SystemAnswer

theorem count_of_error? {answer : SystemAnswer} {written expected : Nat} {error : Error}
    (stops : answer.error? written expected = some error) : answer.count = 0 := by
  cases answer with
  | took count =>
    cases count with
    | zero => rfl
    | succ count => cases stops
  | interrupted | waited _ | failed _ => rfl

/-- Whether a writer gives up depends on the answer only. -/
theorem error?_eq_none {answer : SystemAnswer} {written expected : Nat}
    (goesOn : answer.error? written expected = none) (place length : Nat) :
    answer.error? place length = none := by
  cases answer with
  | took count =>
    cases count with
    | zero => cases goesOn
    | succ count => rfl
  | interrupted => rfl
  | waited fault =>
    cases fault with
    | none => rfl
    | some fault => cases goesOn
  | failed fault => cases goesOn

theorem error?_eq_shortWrite_iff {answer : SystemAnswer} {place length written expected : Nat} :
    answer.error? place length = some (.shortWrite written expected) ↔
      answer = took 0 ∧ written = place ∧ expected = length := by
  unfold error?
  split <;> simp [eq_comm]

theorem error?_eq_file_iff {answer : SystemAnswer} {place length : Nat} {fault : FileFault} :
    answer.error? place length = some (.file fault) ↔
      answer = waited (some fault) ∨ answer = failed fault := by
  unfold error?
  split <;> simp

theorem kind_of_error? {answer : SystemAnswer} {written expected : Nat} {error : Error}
    (stops : answer.error? written expected = some error) :
    (∃ written expected, error = .shortWrite written expected) ∨ ∃ fault, error = .file fault := by
  unfold error? at stops
  split at stops <;> cases stops <;> simp

end SystemAnswer

section Loop

variable {rest : Bytes}

theorem writeLoop_nil (more : rest ≠ []) (expected : Nat) (taken : Bytes) :
    writeLoop expected taken rest [] = ⟨taken, none⟩ := by
  cases rest with
  | nil => contradiction
  | cons byte rest => rfl

theorem writeLoop_cons (more : rest ≠ []) (expected : Nat) (taken : Bytes) (answer : SystemAnswer)
    (answers : List SystemAnswer) :
    writeLoop expected taken rest (answer :: answers) =
      match answer.error? taken.length expected with
      | some error => ⟨taken, some (.error error)⟩
      | none =>
        writeLoop expected (taken ++ rest.take answer.count) (rest.drop answer.count) answers := by
  have nothing : taken ++ rest.take 0 = taken := by simp
  cases rest with
  | nil => contradiction
  | cons byte rest =>
    cases answer with
    | took count => cases count <;> rfl
    | interrupted => simp only [SystemAnswer.error?, SystemAnswer.count, nothing]; rfl
    | waited fault =>
      cases fault with
      | none => simp only [SystemAnswer.error?, SystemAnswer.count, nothing]; rfl
      | some fault => rfl
    | failed fault => rfl

end Loop

namespace WriteRun

/-- The answer to the last offer, if there was an offer. -/
def lastAnswer? (run : WriteRun) : Option SystemAnswer :=
  run.offers.getLast?.map Offer.answer

/-- All that the system has taken. -/
def taken (run : WriteRun) : Bytes :=
  run.offers.flatMap Offer.taken

/-- What a writer does with a block of which it has written some bytes, and what the answers bring
it to. -/
inductive Follows (block : Bytes) : (written : Nat) → List SystemAnswer → WriteRun → Prop where
  | finished {written answers} : block.length ≤ written →
      Follows block written answers ⟨[], some (.ok ())⟩
  | unanswered {written} : written < block.length → Follows block written [] ⟨[], none⟩
  | stopped {written answer answers error} : written < block.length →
      answer.error? written block.length = some error →
      Follows block written (answer :: answers)
        ⟨[⟨block.drop written, answer⟩], some (.error error)⟩
  | next {written answer answers run} : written < block.length →
      answer.error? written block.length = none →
      Follows block (written + answer.count) answers run →
      Follows block written (answer :: answers) (run.after ⟨block.drop written, answer⟩)

theorem follows_offerFrom (block : Bytes) (written : Nat) (answers : List SystemAnswer) :
    Follows block written answers (offerFrom block written answers) := by
  induction answers generalizing written with
  | nil =>
    rw [offerFrom]
    split
    next unfinished => exact .unanswered unfinished
    next finished => exact .finished (Nat.not_lt.mp finished)
  | cons answer answers inductionHypothesis =>
    rw [offerFrom]
    split
    next unfinished =>
      cases stops : answer.error? written block.length with
      | none => exact .next unfinished stops (inductionHypothesis _)
      | some error => exact .stopped unfinished stops
    next finished => exact .finished (Nat.not_lt.mp finished)

variable {block : Bytes} {written : Nat} {answers : List SystemAnswer} {run : WriteRun}

@[simp]
theorem taken_after (run : WriteRun) (offer : Offer) :
    (run.after offer).taken = offer.taken ++ run.taken :=
  rfl

theorem lastAnswer?_after (run : WriteRun) (offer : Offer) :
    (run.after offer).lastAnswer? = some (run.lastAnswer?.getD offer.answer) := by
  rw [lastAnswer?, after, List.getLast?_cons, lastAnswer?]
  cases run.offers.getLast? <;> rfl

namespace Follows

theorem lt_of_offers (follows : Follows block written answers run) (offered : run.offers ≠ []) :
    written < block.length := by
  cases follows with
  | finished => contradiction
  | unanswered unfinished => exact unfinished
  | stopped unfinished => exact unfinished
  | next unfinished => exact unfinished

theorem drop_ne_nil (unfinished : written < block.length) : block.drop written ≠ [] := by
  simpa using unfinished

/-- As long as there is something to offer, the system can take all that it says it has taken. -/
theorem length_taken_of_lt {place : Nat} {answer : SystemAnswer}
    (unfinished : place + answer.count < block.length) :
    (⟨block.drop place, answer⟩ : Offer).taken.length = answer.count := by
  have room : answer.count ≤ (block.drop place).length := by
    rw [List.length_drop]
    omega
  exact List.length_take_of_le room

theorem take_append_taken_after (block : Bytes) (written : Nat) (answer : SystemAnswer)
    (run : WriteRun) :
    block.take written ++ (run.after ⟨block.drop written, answer⟩).taken =
      block.take (written + answer.count) ++ run.taken := by
  rw [taken_after, Offer.taken, ← List.append_assoc, ← List.take_add]

theorem take_append_taken_of_stopped {answer : SystemAnswer} {error : Error}
    {result : Option (Except Error Unit)}
    (stops : answer.error? written block.length = some error) :
    block.take written ++ (⟨[⟨block.drop written, answer⟩], result⟩ : WriteRun).taken =
      block.take written := by
  simp [taken, Offer.taken, SystemAnswer.count_of_error? stops]

/-- Each offer is all of the block that follows what the system has taken of the offers before. -/
theorem offer_eq (follows : Follows block written answers run) {front back : List Offer}
    {offer : Offer} (split : run.offers = front ++ offer :: back) :
    offer.bytes = block.drop (written + (front.flatMap Offer.taken).length) ∧
      offer.bytes ≠ [] := by
  induction follows generalizing front with
  | finished | unanswered => simp at split
  | @stopped written answer answers error unfinished stops =>
    cases front with
    | nil =>
      cases split
      exact ⟨rfl, drop_ne_nil unfinished⟩
    | cons first front => simp at split
  | @next written answer answers run unfinished goesOn follows inductionHypothesis =>
    cases front with
    | nil =>
      cases split
      exact ⟨rfl, drop_ne_nil unfinished⟩
    | cons first front =>
      obtain ⟨rfl, splitRest⟩ := List.cons.inj split
      have offered : run.offers ≠ [] := by
        rw [splitRest]
        exact List.append_ne_nil_of_right_ne_nil front (List.cons_ne_nil offer back)
      have more := follows.lt_of_offers offered
      rw [List.flatMap_cons, List.length_append, length_taken_of_lt more, ← Nat.add_assoc]
      exact inductionHypothesis splitRest

theorem answers_isPrefix (follows : Follows block written answers run) :
    run.offers.map Offer.answer <+: answers := by
  induction follows with
  | finished | unanswered => exact List.nil_prefix
  | stopped => exact List.prefix_append [_] _
  | next unfinished goesOn follows inductionHypothesis =>
    exact List.cons_prefix_cons.mpr ⟨rfl, inductionHypothesis⟩

/-- A writer is left without an end only when the answers have run out. -/
theorem answers_of_unended (follows : Follows block written answers run)
    (unended : run.result = none) : run.offers.map Offer.answer = answers := by
  induction follows with
  | finished | stopped => cases unended
  | unanswered => rfl
  | next unfinished goesOn follows inductionHypothesis =>
    exact congrArg (_ :: ·) (inductionHypothesis unended)

theorem taken_isPrefix (follows : Follows block written answers run) :
    block.take written ++ run.taken <+: block := by
  induction follows with
  | finished | unanswered =>
    rw [taken, List.flatMap_nil, List.append_nil]
    exact List.take_prefix _ _
  | stopped unfinished stops =>
    rw [take_append_taken_of_stopped stops]
    exact List.take_prefix _ _
  | next unfinished goesOn follows inductionHypothesis =>
    rw [take_append_taken_after]
    exact inductionHypothesis

theorem result_eq_ok_iff (follows : Follows block written answers run) :
    run.result = some (.ok ()) ↔ block.take written ++ run.taken = block := by
  have short {place : Nat} (unfinished : place < block.length) : block.take place ≠ block := by
    intro whole
    have lengths := congrArg List.length whole
    rw [List.length_take] at lengths
    omega
  induction follows with
  | finished whole => simp [taken, List.take_of_length_le whole]
  | unanswered unfinished => simpa [taken] using short unfinished
  | stopped unfinished stops =>
    rw [take_append_taken_of_stopped stops]
    simpa using short unfinished
  | next unfinished goesOn follows inductionHypothesis =>
    rw [take_append_taken_after]
    exact inductionHypothesis

theorem result_eq_error_iff (follows : Follows block written answers run) {error : Error} :
    run.result = some (.error error) ↔ ∃ answer, run.lastAnswer? = some answer ∧
      answer.error? (written + run.taken.length) block.length = some error := by
  induction follows with
  | finished | unanswered => simp [lastAnswer?]
  | stopped unfinished stops =>
    simp [lastAnswer?, taken, Offer.taken, SystemAnswer.count_of_error? stops, stops]
  | @next written answer answers run unfinished goesOn follows inductionHypothesis =>
    rw [lastAnswer?_after, show (run.after _).result = run.result from rfl]
    cases last : run.lastAnswer? with
    | none =>
      have goesOnThere := SystemAnswer.error?_eq_none goesOn
        (written + (run.after ⟨block.drop written, answer⟩).taken.length) block.length
      rw [last] at inductionHypothesis
      rw [inductionHypothesis]
      simp only [Option.getD_none, Option.some.injEq, exists_eq_left', goesOnThere]
      simp
    | some lastAnswer =>
      have more := follows.lt_of_offers fun none => by simp [lastAnswer?, none] at last
      rw [last] at inductionHypothesis
      rw [taken_after, List.length_append, length_taken_of_lt more, ← Nat.add_assoc]
      exact inductionHypothesis

/-- The loop that drops what has been taken does the same as a writer that counts. -/
theorem writeLoop_eq (follows : Follows block written answers run) :
    writeLoop block.length (block.take written) (block.drop written) answers =
      ⟨block.take written ++ run.taken, run.result⟩ := by
  induction follows with
  | finished whole =>
    rw [List.drop_of_length_le whole, writeLoop]
    simp [taken]
  | unanswered unfinished =>
    rw [writeLoop_nil (drop_ne_nil unfinished)]
    simp [taken]
  | @stopped written answer answers error unfinished stops =>
    rw [writeLoop_cons (drop_ne_nil unfinished), List.length_take_of_le (Nat.le_of_lt unfinished),
      stops, take_append_taken_of_stopped stops]
  | @next written answer answers run unfinished goesOn follows inductionHypothesis =>
    rw [writeLoop_cons (drop_ne_nil unfinished), List.length_take_of_le (Nat.le_of_lt unfinished),
      goesOn, take_append_taken_after]
    simp only [List.drop_drop, ← List.take_add]
    exact inductionHypothesis

end Follows

end WriteRun

/-- The loop is the writer that counts, from no byte on. -/
theorem writeAll_eq_offerFrom (block : Bytes) (answers : List SystemAnswer) :
    writeAll block answers =
      ⟨(offerFrom block 0 answers).taken, (offerFrom block 0 answers).result⟩ :=
  (WriteRun.follows_offerFrom block 0 answers).writeLoop_eq

/-- The loop loses no byte and repeats none, whatever the system answers. Each time it offers all of
the block that the system has not taken, and never nothing. So the bytes taken are a first part of
the block, and the loop succeeds when they are the whole of it. It gives up when the last answer is
that no byte was taken, and then tells how many were taken of how many, or with the fault of the
last answer. It is left unfinished only when there are no more answers. -/
theorem writeAll_takes_prefix (block : Bytes) (answers : List SystemAnswer) :
    let progress := writeAll block answers
    let run := offerFrom block 0 answers
    (progress.taken = run.taken ∧ progress.result = run.result) ∧
    (run.offers.map Offer.answer <+: answers ∧
      ∀ front offer back, run.offers = front ++ offer :: back →
        offer.bytes = block.drop (front.flatMap Offer.taken).length ∧ offer.bytes ≠ []) ∧
    progress.taken <+: block ∧
    (progress.result = none → run.offers.map Offer.answer = answers) ∧
    (progress.result = some (.ok ()) ↔ progress.taken = block) ∧
    (∀ written expected, progress.result = some (.error (.shortWrite written expected)) ↔
      run.lastAnswer? = some (.took 0) ∧
        written = progress.taken.length ∧ expected = block.length) ∧
    (∀ fault, progress.result = some (.error (.file fault)) ↔
      run.lastAnswer? = some (.waited (some fault)) ∨ run.lastAnswer? = some (.failed fault)) ∧
    (∀ error, progress.result = some (.error error) →
      (∃ written expected, error = .shortWrite written expected) ∨ ∃ fault, error = .file fault) ∧
    (block = [] → run.offers = [] ∧ progress.result = some (.ok ())) := by
  intro progress run
  have follows : run.Follows block 0 answers := WriteRun.follows_offerFrom block 0 answers
  have same : progress = ⟨run.taken, run.result⟩ := writeAll_eq_offerFrom block answers
  have gives (error : Error) : run.result = some (.error error) ↔ ∃ answer,
      run.lastAnswer? = some answer ∧
        answer.error? run.taken.length block.length = some error := by
    rw [follows.result_eq_error_iff, Nat.zero_add]
  rw [same]
  refine ⟨⟨rfl, rfl⟩, ⟨follows.answers_isPrefix, ?_⟩, follows.taken_isPrefix,
    follows.answers_of_unended, follows.result_eq_ok_iff, ?_, ?_, ?_, ?_⟩
  · intro front offer back split
    simpa using follows.offer_eq split
  · intro written expected
    simp only [gives, SystemAnswer.error?_eq_shortWrite_iff]
    grind
  · intro fault
    simp only [gives, SystemAnswer.error?_eq_file_iff]
    grind
  · intro error stops
    obtain ⟨answer, -, stops⟩ := (gives error).mp stops
    exact SystemAnswer.kind_of_error? stops
  · rintro rfl
    cases answers <;> exact ⟨rfl, rfl⟩

theorem shortWrite_takes_prefix :
    let block : Bytes := [27, 64, 72, 105, 10]
    let progress := writeAll block [.took 2, .interrupted, .waited none, .took 0]
    progress.taken = [27, 64] ∧ progress.taken <+: block ∧
      progress.result = some (.error (.shortWrite 2 5)) := by
  intro block progress
  obtain ⟨_, _, first, _, _, short, _⟩ :=
    writeAll_takes_prefix block [.took 2, .interrupted, .waited none, .took 0]
  exact ⟨rfl, first, (short 2 5).mpr ⟨rfl, rfl, rfl⟩⟩

end ThermalPrint
