import ClockDiscipline.Proofs.Checked.Queue
import ClockDiscipline.Proofs.Framing

/-!
Cutting bytes into sentences with checks. The line that has not ended stands at the
beginning of a buffer, and what was dropped and what was assembled is counted. A line
never outgrows its buffer, and no more is counted than bytes came in.
-/

namespace ClockDiscipline.Nmea

namespace Framer

/-! ## The buffer of a line -/

/-- The storage of a framer. Bytes behind `length` are left over. -/
structure Buffer where
  cells : Array UInt8
  length : Nat
  discarded : Nat

namespace Buffer

variable (buffer : Buffer)

def discard : Except Fault Buffer := do
  let discarded ← Checked.add buffer.discarded 1
  return { buffer with length := 0, discarded }

def clear (byte : UInt8) : Except Fault Buffer :=
  if maxLineLength ≤ buffer.length then
    buffer.discard
  else if byte = dollar ∧ 0 < buffer.length then do
    let first ← Checked.read buffer.cells 0
    if first = dollar then return buffer else buffer.discard
  else
    return buffer

def extend (byte : UInt8) : Except Fault Buffer := do
  let cells ← Checked.write buffer.cells buffer.length byte
  let length ← Checked.add buffer.length 1
  return { buffer with cells, length }

def filled : Except Fault (List UInt8) := do
  Checked.requireSpan buffer.length buffer.cells.size
  return buffer.cells.toList.take buffer.length

def push (byte : UInt8) : Except Fault (Buffer × Option Sentence) := do
  let cleared ← buffer.clear byte
  let extended ← cleared.extend byte
  if byte = lineFeed then
    let line ← extended.filled
    match Sentence.ofBytes? line with
    | some sentence => return ({ extended with length := 0 }, some sentence)
    | none =>
        let discarded ← extended.discard
        return (discarded, none)
  else
    return (extended, none)

end Buffer

structure IsIn (framer : Framer) (buffer : Buffer) : Prop where
  size : buffer.cells.size = maxSentenceLength
  length : buffer.length = framer.line.length
  line : buffer.cells.toList.take buffer.length = framer.line
  discarded : buffer.discarded = framer.discarded

/-- The lines that were dropped, and the one that may yet be. -/
def weight (framer : Framer) : Nat := framer.discarded + if framer.line = [] then 0 else 1

variable {framer : Framer} {buffer : Buffer}

namespace IsIn

private theorem discard (holds : framer.IsIn buffer)
    (counts : framer.discarded + 1 < unsignedLimit) :
    ∃ next, buffer.discard = .ok next ∧ framer.discard.IsIn next := by
  rw [← holds.discarded] at counts
  refine ⟨{ buffer with length := 0, discarded := buffer.discarded + 1 }, ?_, ?_⟩
  · rw [Buffer.discard, Checked.add_eq counts]
    rfl
  · exact ⟨holds.size, rfl, rfl, congrArg (· + 1) holds.discarded⟩

private theorem read_zero (holds : framer.IsIn buffer) {first : UInt8} {rest : List UInt8}
    (begins : framer.line = first :: rest) : Checked.read buffer.cells 0 = .ok first := by
  have within : 0 < buffer.cells.size := by
    rw [holds.size]
    decide
  have line := congrArg (·[0]?) (holds.line.trans begins)
  simp only [List.getElem?_take, List.getElem?_cons_zero, Array.getElem?_toList,
    Array.getElem?_eq_getElem within] at line
  split at line
  · rw [Checked.read_eq within, Option.some.inj line]
  · cases line

private theorem clear (holds : framer.IsIn buffer) (byte : UInt8)
    (counts : framer.weight < unsignedLimit) :
    ∃ next, buffer.clear byte = .ok next ∧ (framer.clear byte).1.IsIn next := by
  have countsLine (occupied : framer.line ≠ []) :
      framer.discarded + 1 < unsignedLimit := by
    rwa [weight, if_neg occupied] at counts
  unfold Buffer.clear Framer.clear
  rw [holds.length]
  by_cases full : maxLineLength ≤ framer.line.length
  · have occupied : framer.line ≠ [] := by
      rintro empty
      simp [empty, maxLineLength, maxSentenceLength] at full
    simpa [isFull, full] using holds.discard (countsLine occupied)
  · simp only [isFull, full, decide_false, Bool.false_eq_true, if_false]
    cases begins : framer.line with
    | nil => simpa [restartsAt, begins] using ⟨_, rfl, holds⟩
    | cons first rest =>
        by_cases starts : byte = dollar
        · rw [holds.read_zero begins]
          by_cases sentence : first = dollar
          · simpa [restartsAt, begins, starts, sentence, bind, Except.bind] using ⟨_, rfl,
              holds⟩
          · simpa [restartsAt, begins, starts, sentence, bind, Except.bind] using
              holds.discard (countsLine (by simp [begins]))
        · simpa [restartsAt, starts] using ⟨_, rfl, holds⟩

private theorem extend (holds : framer.IsIn buffer) (byte : UInt8)
    (fits : (framer.line ++ [byte]).length ≤ maxLineLength) :
    ∃ next, buffer.extend byte = .ok next ∧
      (⟨framer.line ++ [byte], framer.discarded, fits⟩ : Framer).IsIn next := by
  have short : maxLineLength < maxSentenceLength := by decide
  have small : maxSentenceLength < unsignedLimit := by decide
  have longer : (framer.line ++ [byte]).length = buffer.length + 1 := by
    rw [List.length_append, holds.length]
    rfl
  have within : buffer.length < buffer.cells.size := by
    rw [holds.size]
    omega
  have counts : buffer.length + 1 < unsignedLimit := by omega
  have kept := List.take_set_of_le (a := byte) (l := buffer.cells.toList)
    (Nat.le_refl buffer.length)
  refine ⟨⟨buffer.cells.set buffer.length byte, buffer.length + 1, buffer.discarded⟩,
    ?_, ?_⟩
  · rw [Buffer.extend, Checked.write_eq within, Checked.add_eq counts]
    rfl
  · refine ⟨by rw [Array.size_set, holds.size], longer.symm, ?_, holds.discarded⟩
    simp [← holds.line, List.take_add_one, kept, within]

private theorem filled (holds : framer.IsIn buffer) :
    buffer.filled = .ok framer.line := by
  have fits : buffer.length ≤ buffer.cells.size := by
    have bounded := framer.length_le
    have short : maxLineLength < maxSentenceLength := by decide
    rw [holds.size, holds.length]
    omega
  rw [Buffer.filled, Checked.requireSpan_eq fits, ← holds.line]
  rfl

private theorem reset (holds : framer.IsIn buffer) :
    framer.reset.IsIn { buffer with length := 0 } :=
  ⟨holds.size, rfl, rfl, holds.discarded⟩

end IsIn

private theorem weight_clear_le (framer : Framer) (byte : UInt8) :
    (framer.clear byte).1.weight ≤ framer.weight := by
  have dropped (occupied : framer.line ≠ []) : framer.discard.weight ≤ framer.weight := by
    simp [weight, Framer.discard, occupied]
  unfold Framer.clear
  split
  · rename_i full
    refine dropped ?_
    rintro empty
    simp [isFull, empty, maxLineLength, maxSentenceLength] at full
  · split
    · rename_i restarts
      refine dropped ?_
      rintro empty
      simp [restartsAt, empty] at restarts
    · exact Nat.le_refl _

theorem weight_reset_le (framer : Framer) : framer.reset.weight ≤ framer.weight := by
  simp [weight, Framer.reset]

private theorem discarded_le_weight (framer : Framer) :
    framer.discarded ≤ framer.weight :=
  Nat.le_add_right _ _

/-- A byte adds at most one line to those that were or may be dropped. -/
theorem weight_push_le (framer : Framer) (byte : UInt8) :
    (framer.push byte).framer.weight ≤ framer.weight + 1 := by
  have cleared := framer.weight_clear_le byte
  have discarded := (framer.clear byte).1.discarded_le_weight
  unfold Framer.push
  dsimp only
  split
  · split
    · simp only [weight, Framer.reset, if_true] at cleared discarded ⊢
      omega
    · simp only [weight, Framer.discard, if_true] at cleared discarded ⊢
      omega
  · have occupied : (framer.clear byte).1.line ++ [byte] ≠ [] := by simp
    simp only [weight, occupied, if_false] at cleared discarded ⊢
    omega

/-- A buffer takes a byte as the framer does, as long as the lines can be counted. -/
theorem IsIn.push (holds : framer.IsIn buffer) (byte : UInt8)
    (counts : framer.weight + 1 < unsignedLimit) :
    ∃ next, buffer.push byte = .ok (next, (framer.push byte).sentence) ∧
      (framer.push byte).framer.IsIn next := by
  have lighter := framer.weight_clear_le byte
  have counted := (framer.clear byte).1.discarded_le_weight
  have room : ((framer.clear byte).1.line ++ [byte]).length ≤ maxLineLength := by
    simpa using Nat.succ_le_of_lt (framer.length_line_clear_lt byte)
  rcases holds.clear byte (by omega) with ⟨cleared, clears, holds⟩
  rcases holds.extend byte room with ⟨extended, extend, holds⟩
  unfold Buffer.push Framer.push
  simp only [clears, extend, bind, Except.bind, pure, Except.pure]
  by_cases ends : byte = lineFeed
  · rw [if_pos ends, if_pos ends, holds.filled]
    dsimp only
    cases taken : Sentence.ofBytes? ((framer.clear byte).1.line ++ [byte]) with
    | some sentence => exact ⟨_, rfl, holds.reset⟩
    | none =>
        rcases holds.discard (by show (framer.clear byte).1.discarded + 1 < _; omega) with
          ⟨next, discards, holds⟩
        simp only [discards]
        exact ⟨next, rfl, holds⟩
  · rw [if_neg ends, if_neg ends]
    exact ⟨extended, rfl, holds⟩

end Framer

/-! ## The assembly of a queue -/

namespace Assembly

structure Storage where
  buffer : Framer.Buffer
  sentences : Ring.Cells Sentence
  assembled : Nat

namespace Storage

variable (storage : Storage)

def accept (byte : UInt8) : Except Fault Storage := do
  let (buffer, completed) ← storage.buffer.push byte
  match completed with
  | none => return { storage with buffer }
  | some sentence =>
      let (outcome, sentences) ← storage.sentences.push sentence
      match outcome with
      | .ok () =>
          let assembled ← Checked.add storage.assembled 1
          return ⟨buffer, sentences, assembled⟩
      | .error _ => return ⟨buffer, sentences, storage.assembled⟩

end Storage

structure IsIn (assembly : Assembly) (storage : Storage) : Prop where
  framer : assembly.framer.IsIn storage.buffer
  sentences : storage.sentences = assembly.sentences.cells
  assembled : storage.assembled = assembly.assembled

/-- All counters of an assembly stay below the limit while it takes `more` bytes. -/
structure Counts (assembly : Assembly) (more : Nat) : Prop where
  discarded : assembly.framer.weight + more < unsignedLimit
  assembled : assembly.assembled + more < unsignedLimit
  sentences : assembly.sentences.capacity < unsignedLimit

variable {assembly : Assembly} {storage : Storage}

private theorem IsIn.accept (holds : assembly.IsIn storage) (byte : UInt8)
    (counts : assembly.Counts 1) :
    ∃ next, storage.accept byte = .ok next ∧ (assembly.accept byte).IsIn next := by
  rcases holds.framer.push byte counts.discarded with ⟨buffer, pushes, held⟩
  have counted : Checked.add storage.assembled 1 = .ok (assembly.assembled + 1) := by
    rw [holds.assembled]
    exact Checked.add_eq counts.assembled
  unfold Storage.accept Assembly.accept
  simp only [pushes, bind, Except.bind, pure, Except.pure]
  cases completed : (assembly.framer.push byte).sentence with
  | none => exact ⟨_, rfl, held, holds.sentences, holds.assembled⟩
  | some sentence =>
      have queued := assembly.sentences.push_cells counts.sentences sentence
      rw [← holds.sentences] at queued
      simp only [queued]
      rcases pushed : assembly.sentences.push sentence with ⟨outcome, sentences⟩
      cases outcome with
      | ok =>
          simp only [counted]
          exact ⟨_, rfl, held, rfl, rfl⟩
      | error full => exact ⟨_, rfl, held, rfl, holds.assembled⟩

private theorem assembled_accept_le (assembly : Assembly) (byte : UInt8) :
    (assembly.accept byte).assembled ≤ assembly.assembled + 1 := by
  unfold Assembly.accept
  dsimp only
  split
  · exact Nat.le_succ _
  · split
    · exact Nat.le_refl _
    · exact Nat.le_succ _

private theorem Counts.accept {more : Nat} (counts : assembly.Counts (more + 1))
    (byte : UInt8) :
    (assembly.accept byte).Counts more := by
  have weighs := assembly.framer.weight_push_le byte
  have assembles := assembly.assembled_accept_le byte
  have discarded := counts.discarded
  have assembled := counts.assembled
  refine ⟨?_, by omega, ?_⟩
  · rw [framer_accept]
    omega
  · rw [capacity_accept]
    exact counts.sentences

private theorem IsIn.foldlM_accept (bytes : List UInt8) :
    ∀ {assembly : Assembly} {storage : Storage},
    assembly.IsIn storage → assembly.Counts bytes.length →
      ∃ next, bytes.foldlM Storage.accept storage = .ok next ∧
        (bytes.foldl Assembly.accept assembly).IsIn next := by
  induction bytes with
  | nil => exact fun holds _ => ⟨_, rfl, holds⟩
  | cons byte rest induction =>
      intro assembly storage holds counts
      have one : assembly.Counts 1 := by
        have discarded := counts.discarded
        have assembled := counts.assembled
        rw [List.length_cons] at discarded assembled
        exact ⟨by omega, by omega, counts.sentences⟩
      rcases holds.accept byte one with ⟨first, accepts, holds⟩
      rcases induction holds (counts.accept byte) with ⟨next, continues, holds⟩
      refine ⟨next, ?_, holds⟩
      rw [List.foldlM_cons, accepts]
      exact continues

end Assembly

def Framer.Buffer.drain (buffer : Buffer) (bytes : Ring.Cells UInt8)
    (sentences : Ring.Cells Sentence) :
    Except Fault (Ring.Cells UInt8 × Assembly.Storage) := do
  let (items, emptied) ← bytes.dequeue bytes.count
  let storage ← items.foldlM Assembly.Storage.accept ⟨buffer, sentences, 0⟩
  return (emptied, storage)

theorem Framer.IsIn.drain {framer : Framer} {buffer : Framer.Buffer}
    (holds : framer.IsIn buffer) {bytes : Ring UInt8} {sentences : Ring Sentence}
    (discarded : framer.weight + bytes.count < unsignedLimit)
    (byteRoom : bytes.capacity < unsignedLimit)
    (sentenceRoom : sentences.capacity < unsignedLimit) :
    ∃ storage, buffer.drain bytes.cells sentences.cells =
        .ok ((framer.drain bytes sentences).1.cells, storage) ∧
      (framer.drain bytes sentences).2.IsIn storage := by
  have begins :
      (⟨framer, sentences, 0, #[]⟩ : Assembly).IsIn ⟨buffer, sentences.cells, 0⟩ :=
    ⟨holds, rfl, rfl⟩
  have few : bytes.count < unsignedLimit := by omega
  have counts : (⟨framer, sentences, 0, #[]⟩ : Assembly).Counts bytes.toList.length := by
    rw [bytes.length_toList]
    exact ⟨discarded, by rwa [Nat.zero_add], sentenceRoom⟩
  rcases begins.foldlM_accept _ counts with ⟨storage, assembles, holds⟩
  have dequeued := bytes.dequeue_cells byteRoom bytes.count
  rw [← bytes.items_dequeue_count] at assembles holds
  refine ⟨storage, ?_, holds⟩
  rw [Framer.Buffer.drain, show bytes.cells.count = bytes.count from rfl, dequeued]
  simp only [bind, Except.bind, assembles]
  rfl

end ClockDiscipline.Nmea
