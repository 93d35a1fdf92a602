import ClockDiscipline.Nmea.Framer
import ClockDiscipline.Proofs.Queue

/-!
What bytes amount to. The sentences that wait in their queue are a list, and a byte adds
at most one to it or, where the queue is full, leaves none.
-/

namespace ClockDiscipline.Nmea

/-- A framer and the sentences that wait, with room for `capacity` of them, once one more
byte came in. -/
def collect (capacity : Nat) (heard : Framer × List Sentence) (byte : UInt8) :
    Framer × List Sentence :=
  let pushed := heard.1.push byte
  match pushed.sentence with
  | none => (pushed.framer, heard.2)
  | some sentence =>
      (pushed.framer, if heard.2.length < capacity then heard.2 ++ [sentence] else [])

def Assembly.contents (assembly : Assembly) : Framer × List Sentence :=
  (assembly.framer, assembly.sentences.toList)

namespace Assembly

theorem capacity_accept (assembly : Assembly) (byte : UInt8) :
    (assembly.accept byte).sentences.capacity = assembly.sentences.capacity := by
  unfold accept
  dsimp only
  split
  · rfl
  · rename_i sentence _
    have kept := assembly.sentences.capacity_push sentence
    split <;> rename_i pushed <;> rw [pushed] at kept <;> exact kept

theorem framer_accept (assembly : Assembly) (byte : UInt8) :
    (assembly.accept byte).framer = (assembly.framer.push byte).framer := by
  unfold Assembly.accept
  dsimp only
  split
  · rfl
  · split <;> rfl

private theorem contents_accept (assembly : Assembly) (byte : UInt8) :
    (assembly.accept byte).contents =
      collect assembly.sentences.capacity assembly.contents byte := by
  unfold accept collect contents
  dsimp only
  cases assembly.framer.push byte with
  | mk framer sentence entries =>
      cases sentence with
      | none => rfl
      | some sentence =>
          have items := assembly.sentences.toList_push sentence
          dsimp only
          split <;> rename_i pushed <;> rw [pushed] at items <;> rw [← items]

theorem foldl_accept (bytes : List UInt8) : ∀ assembly : Assembly,
    (bytes.foldl accept assembly).contents =
        bytes.foldl (collect assembly.sentences.capacity) assembly.contents ∧
      (bytes.foldl accept assembly).sentences.capacity = assembly.sentences.capacity := by
  induction bytes with
  | nil => exact fun _ => ⟨rfl, rfl⟩
  | cons byte rest induction =>
      intro assembly
      have follows := induction (assembly.accept byte)
      rw [capacity_accept, contents_accept] at follows
      exact follows

end Assembly

theorem Framer.drain_spec (framer : Framer) (bytes : Ring UInt8)
    (sentences : Ring Sentence) :
    (framer.drain bytes sentences).2.contents =
        bytes.toList.foldl (collect sentences.capacity) (framer, sentences.toList) ∧
      (framer.drain bytes sentences).2.sentences.capacity = sentences.capacity ∧
      (framer.drain bytes sentences).1.count = 0 ∧
      (framer.drain bytes sentences).1.capacity = bytes.capacity := by
  have accepted := Assembly.foldl_accept bytes.toList ⟨framer, sentences, 0, #[]⟩
  rw [← bytes.items_dequeue_count] at accepted ⊢
  exact ⟨accepted.1, accepted.2, bytes.count_dequeue_count, rfl⟩

/-! ## One arrival after the other -/

/-- What a framer meets: a byte, or the order to forget the line that has not ended. -/
inductive Arrival where
  | byte (byte : UInt8)
  | flush

namespace Framer

def meet (framer : Framer) : Arrival → Framer × Option Sentence
  | .byte byte => ((framer.push byte).framer, (framer.push byte).sentence)
  | .flush => (framer.reset, none)

def frame (framer : Framer) : List Arrival → Framer × List Sentence
  | [] => (framer, [])
  | arrival :: rest =>
      let met := framer.meet arrival
      let framed := met.1.frame rest
      (framed.1, met.2.toList ++ framed.2)

theorem frame_append (first rest : List Arrival) : ∀ framer : Framer,
    framer.frame (first ++ rest) =
      (((framer.frame first).1.frame rest).1,
        (framer.frame first).2 ++ ((framer.frame first).1.frame rest).2) := by
  induction first with
  | nil => exact fun _ => rfl
  | cons arrival first induction =>
      intro framer
      have follows := induction (framer.meet arrival).1
      simp only [List.cons_append, frame, follows, List.append_assoc]

theorem length_frame_le (arrivals : List Arrival) : ∀ framer : Framer,
    (framer.frame arrivals).2.length ≤ arrivals.length := by
  induction arrivals with
  | nil => exact fun _ => Nat.le_refl 0
  | cons arrival rest induction =>
      intro framer
      have completed := induction (framer.meet arrival).1
      have one : (framer.meet arrival).2.toList.length ≤ 1 := by
        cases (framer.meet arrival).2 <;> simp
      simp only [frame, List.length_append, List.length_cons]
      omega

theorem push_eq_some {framer : Framer} {byte : UInt8} {sentence : Sentence}
    (completes : (framer.push byte).sentence = some sentence) :
    byte = lineFeed ∧ sentence.bytes = (framer.clear byte).1.line ++ [byte] := by
  unfold push at completes
  dsimp only at completes
  split at completes
  · rename_i ends
    split at completes
    · rename_i taken
      cases completes
      exact ⟨ends, Sentence.bytes_of_ofBytes? taken⟩
    · cases completes
  · cases completes

theorem exists_lineFeed_of_mem_frame {sentence : Sentence} (bytes : List UInt8) :
    ∀ framer : Framer, sentence ∈ (framer.frame (bytes.map .byte)).2 →
      ∃ early late, bytes = early ++ lineFeed :: late ∧
        ((framer.frame (early.map .byte)).1.push lineFeed).sentence = some sentence := by
  induction bytes with
  | nil => exact fun _ member => absurd member List.not_mem_nil
  | cons byte rest induction =>
      intro framer member
      rcases List.mem_append.mp member with now | later
      · have completes := Option.mem_toList.mp now
        rcases push_eq_some completes with ⟨rfl, -⟩
        exact ⟨[], rest, rfl, completes⟩
      · rcases induction _ later with ⟨early, late, rfl, completes⟩
        exact ⟨byte :: early, late, rfl, completes⟩

/-- As long as the queue has room it gets what the bytes complete, and the framer does not
depend on it. -/
theorem foldl_collect (capacity : Nat) (bytes : List UInt8) :
    ∀ (framer : Framer) (waiting : List Sentence),
      (bytes.foldl (collect capacity) (framer, waiting)).1 =
          (framer.frame (bytes.map .byte)).1 ∧
        (waiting.length + (framer.frame (bytes.map .byte)).2.length ≤ capacity →
          (bytes.foldl (collect capacity) (framer, waiting)).2 =
            waiting ++ (framer.frame (bytes.map .byte)).2) := by
  induction bytes with
  | nil => simp [frame]
  | cons byte rest induction =>
      intro framer waiting
      rw [List.map_cons, List.foldl_cons]
      cases completed : (framer.push byte).sentence with
      | none =>
          have collected : collect capacity (framer, waiting) byte =
              ((framer.push byte).framer, waiting) := by
            simp [collect, completed]
          have follows := induction (framer.push byte).framer waiting
          rw [collected]
          simpa [frame, meet, completed] using follows
      | some sentence =>
          have collected : collect capacity (framer, waiting) byte =
              ((framer.push byte).framer,
              if waiting.length < capacity then waiting ++ [sentence] else []) := by
            simp [collect, completed]
          rw [collected]
          refine ⟨(induction _ _).1, fun fits => ?_⟩
          simp only [frame, meet, completed, Option.toList_some, List.length_append,
            List.length_singleton] at fits ⊢
          have room : waiting.length < capacity := by omega
          have enough : (waiting ++ [sentence]).length +
              ((framer.push byte).framer.frame (rest.map .byte)).2.length ≤ capacity := by
            simp only [List.length_append, List.length_singleton]
            omega
          rw [if_pos room, (induction _ _).2 enough, List.append_assoc]

end Framer

/-! ## Whole lines -/

/-- The sentence ends with its only line feed, and the line has room for it. -/
structure Sentence.IsLine (sentence : Sentence) : Prop where
  ends : ∃ body, sentence.bytes = body ++ [lineFeed] ∧ lineFeed ∉ body
  length_le : sentence.bytes.length ≤ maxLineLength

namespace Framer

private theorem clear_of_begins {framer : Framer} {byte : UInt8} {rest : List UInt8}
    {sentence : Sentence} (begins : framer.line ++ byte :: rest = sentence.bytes)
    (short : sentence.bytes.length ≤ maxLineLength) :
    framer.clear byte = (framer, []) := by
  have room : ¬maxLineLength ≤ framer.line.length := by
    rw [← begins, List.length_append, List.length_cons] at short
    omega
  have keeps : framer.restartsAt byte = false := by
    cases line : framer.line with
    | nil => simp [restartsAt, line]
    | cons first further =>
        have starts := sentence.starts
        rw [← begins, line, List.cons_append, List.head?_cons] at starts
        simp [restartsAt, line, starts]
  simp [clear, isFull, room, keeps]

/-- A framer that has taken the beginning of a sentence completes it with the rest. -/
theorem frame_of_begins {sentence : Sentence}
    (short : sentence.bytes.length ≤ maxLineLength)
    (rest : List UInt8) : ∀ framer : Framer, lineFeed ∉ rest →
      framer.line ++ (rest ++ [lineFeed]) = sentence.bytes →
        (framer.frame ((rest ++ [lineFeed]).map .byte)).1.line = [] ∧
          (framer.frame ((rest ++ [lineFeed]).map .byte)).2 = [sentence] := by
  induction rest with
  | nil =>
      intro framer _ begins
      have cleared := clear_of_begins begins short
      have taken : Sentence.ofBytes? (framer.line ++ [lineFeed]) = some sentence := by
        rw [show framer.line ++ [lineFeed] = sentence.bytes from begins]
        exact sentence.ofBytes?_bytes
      simp [frame, meet, push, cleared, taken, reset]
  | cons byte rest induction =>
      intro framer single begins
      have cleared := clear_of_begins begins short
      have inside : byte ≠ lineFeed := fun ends => single (by simp [ends])
      have later : lineFeed ∉ rest := fun member => single (List.mem_cons_of_mem _ member)
      have line : (framer.push byte).framer.line = framer.line ++ [byte] := by
        simp [push, cleared, inside]
      have incomplete : (framer.push byte).sentence = none := by
        simp [push, cleared, inside]
      have follows :=
        induction (framer.push byte).framer later (by simpa [line] using begins)
      simpa [frame, meet, incomplete] using follows

theorem frame_of_isLine {framer : Framer} {sentence : Sentence} (isLine : sentence.IsLine)
    (empty : framer.line = []) :
    (framer.frame (sentence.bytes.map .byte)).1.line = [] ∧
      (framer.frame (sentence.bytes.map .byte)).2 = [sentence] := by
  rcases isLine.ends with ⟨body, bytes, single⟩
  rw [bytes]
  exact frame_of_begins isLine.length_le body framer single (by rw [empty, bytes]; rfl)

end Framer

end ClockDiscipline.Nmea
