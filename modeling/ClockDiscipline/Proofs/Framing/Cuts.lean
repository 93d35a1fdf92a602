import ClockDiscipline.Proofs.Framing
import ClockDiscipline.Proofs.Queue.Service
import ClockDiscipline.Text.Latin

/-!
Bytes come in as it happens, and the framer is asked for sentences now and then. What it
pushes, the line that it keeps and the lines that it drops depend on the bytes alone: on
their order, and not on how many of them come at once, when they are drained or how many a
drain takes at a time.
-/

namespace ClockDiscipline.Nmea

/-! ## Drains -/

/-- A sentence pushed onto its queue, and what the queue said. -/
structure Attempt where
  sentence : Sentence
  outcome : Except Ring.Full Unit

def pushedOf (attempts : List Attempt) : List Sentence :=
  (attempts.filter fun attempt => attempt.outcome.isOk).map Attempt.sentence

@[simp] theorem pushedOf_append (first rest : List Attempt) :
    pushedOf (first ++ rest) = pushedOf first ++ pushedOf rest := by
  simp [pushedOf]

theorem pushedOf_of_isOk {attempts : List Attempt}
    (accepted : ∀ attempt ∈ attempts, attempt.outcome.isOk = true) :
    pushedOf attempts = attempts.map Attempt.sentence := by
  rw [pushedOf, List.filter_eq_self.mpr accepted]

namespace Assembly

def attempt? (assembly : Assembly) (byte : UInt8) : Option Attempt :=
  (assembly.framer.push byte).sentence.map fun sentence =>
    ⟨sentence, (assembly.sentences.push sentence).1⟩

def attempts (assembly : Assembly) : (bytes : List UInt8) → List Attempt
  | [] => []
  | byte :: rest =>
      (assembly.attempt? byte).toList ++ (assembly.accept byte).attempts rest

def drainInChunks (size : Nat) (bytes : Ring UInt8) (assembly : Assembly) :
    Ring UInt8 × Assembly :=
  if 0 < min size bytes.count then
    drainInChunks size (bytes.dequeue size).2
      ((bytes.dequeue size).1.foldl accept assembly)
  else
    (bytes, assembly)
termination_by bytes.count
decreasing_by
  show bytes.count - min size bytes.count < bytes.count
  omega

private theorem drainInChunks_eq {size : Nat} (positive : 0 < size) (bytes : Ring UInt8)
    (assembly : Assembly) : drainInChunks size bytes assembly =
      ((bytes.dequeue bytes.count).2, bytes.toList.foldl accept assembly) := by
  induction bytes, assembly using drainInChunks.induct size with
  | case1 bytes assembly more induction =>
      -- What the first chunk leaves is what a removal of everything takes behind it.
      have enough : bytes.count ≤ size + (bytes.dequeue size).2.count := by
        show bytes.count ≤ size + (bytes.count - min size bytes.count)
        omega
      rw [drainInChunks, if_pos more, induction, ← bytes.dequeue_of_count_le enough,
        bytes.dequeue_add, ← bytes.dequeue_append size, List.foldl_append]
  | case2 bytes assembly none =>
      have idle : bytes.count = 0 := by omega
      rw [drainInChunks, if_neg none, bytes.dequeue_of_count_eq_zero _ idle,
        bytes.toList_of_count_eq_zero idle, List.foldl_nil]

variable {assembly : Assembly}

private theorem assembled_accept (assembly : Assembly) (byte : UInt8) :
    (assembly.accept byte).assembled =
      assembly.assembled + (pushedOf (assembly.attempt? byte).toList).length := by
  unfold accept attempt?
  dsimp only
  cases (assembly.framer.push byte).sentence with
  | none => rfl
  | some sentence =>
      rcases pushed : assembly.sentences.push sentence with ⟨outcome, sentences⟩
      cases outcome <;> simp [pushedOf, Except.isOk, Except.toBool, pushed]

private theorem assembled_foldl_accept (bytes : List UInt8) : ∀ assembly : Assembly,
    (bytes.foldl accept assembly).assembled =
      assembly.assembled + (pushedOf (assembly.attempts bytes)).length := by
  induction bytes with
  | nil => exact fun _ => rfl
  | cons byte rest induction =>
      intro assembly
      rw [List.foldl_cons, induction, assembled_accept, attempts, pushedOf_append,
        List.length_append, Nat.add_assoc]

private theorem framer_foldl_accept (bytes : List UInt8) (assembly : Assembly) :
    (bytes.foldl accept assembly).framer =
      (assembly.framer.frame (bytes.map .byte)).1 := by
  have accepted := congrArg Prod.fst (foldl_accept bytes assembly).1
  exact accepted.trans (Framer.foldl_collect _ _ _ _).1

private theorem map_sentence_attempts (bytes : List UInt8) : ∀ assembly : Assembly,
    (assembly.attempts bytes).map Attempt.sentence =
      (assembly.framer.frame (bytes.map .byte)).2 := by
  induction bytes with
  | nil => exact fun _ => rfl
  | cons byte rest induction =>
      intro assembly
      have now : (assembly.attempt? byte).toList.map Attempt.sentence =
          (assembly.framer.meet (.byte byte)).2.toList := by
        unfold attempt? Framer.meet
        dsimp only
        cases (assembly.framer.push byte).sentence <;> rfl
      rw [attempts, List.map_append, now, induction, framer_accept]
      rfl

private theorem toList_accept {byte : UInt8}
    (accepted : ∀ attempt ∈ (assembly.attempt? byte).toList,
      attempt.outcome.isOk = true) :
    (assembly.accept byte).sentences.toList =
      assembly.sentences.toList ++ pushedOf (assembly.attempt? byte).toList := by
  rw [pushedOf_of_isOk accepted]
  unfold accept
  unfold attempt? at accepted ⊢
  dsimp only
  cases completed : (assembly.framer.push byte).sentence with
  | none => simp
  | some sentence =>
      rw [completed] at accepted
      have outcome : (assembly.sentences.push sentence).1.isOk = true :=
        accepted _ List.mem_cons_self
      have joined := assembly.sentences.toList_push_of_isOk outcome
      rcases pushed : assembly.sentences.push sentence with ⟨answer, sentences⟩
      rw [pushed] at outcome joined
      cases answer with
      | ok => simpa [pushed] using joined
      | error full => cases outcome

private theorem toList_foldl_accept (bytes : List UInt8) : ∀ assembly : Assembly,
    (∀ attempt ∈ assembly.attempts bytes, attempt.outcome.isOk = true) →
      (bytes.foldl accept assembly).sentences.toList =
        assembly.sentences.toList ++ pushedOf (assembly.attempts bytes) := by
  induction bytes with
  | nil => simp [attempts, pushedOf]
  | cons byte rest induction =>
      intro assembly accepted
      rw [attempts, List.forall_mem_append] at accepted
      rw [List.foldl_cons, induction _ accepted.2, toList_accept accepted.1, attempts,
        pushedOf_append, List.append_assoc]

end Assembly

/-! ## Operations -/

structure Intake where
  bytes : Ring UInt8
  framer : Framer
  sentences : Ring Sentence

namespace Intake

inductive Operation where
  | enqueue (bytes : List UInt8)
  | drain
  | dequeue (limit : Nat)

inductive Answer where
  | enqueued (outcome : Except Ring.Full Unit)
  | drained (assembled : Nat) (attempts : List Attempt)
  | dequeued (sentences : List Sentence)

def Operation.bytes : Operation → List UInt8
  | enqueue bytes => bytes
  | drain => []
  | dequeue _ => []

def Answer.overflows : Answer → Bool
  | enqueued outcome => !outcome.isOk
  | drained _ _ => false
  | dequeued _ => false

def Answer.attempts : Answer → List Attempt
  | enqueued _ => []
  | drained _ attempts => attempts
  | dequeued _ => []

def Answer.sentences : Answer → List Sentence
  | enqueued _ => []
  | drained _ _ => []
  | dequeued sentences => sentences

def assembly (intake : Intake) : Assembly := ⟨intake.framer, intake.sentences, 0, #[]⟩

def serve (intake : Intake) : Operation → Answer × Intake
  | .enqueue bytes =>
      (.enqueued (intake.bytes.enqueue bytes).1,
        { intake with bytes := (intake.bytes.enqueue bytes).2 })
  | .drain =>
      let drained := intake.framer.drain intake.bytes intake.sentences
      (.drained drained.2.assembled (intake.assembly.attempts intake.bytes.toList),
        ⟨drained.1, drained.2.framer, drained.2.sentences⟩)
  | .dequeue limit =>
      (.dequeued (intake.sentences.dequeue limit).1,
        { intake with sentences := (intake.sentences.dequeue limit).2 })

/-- A drain takes all bytes, however many at a time, and counts the sentences that it
pushed. -/
structure DrainsWhole (intake : Intake) : Prop where
  bytes : (intake.serve .drain).2.bytes.isEmpty = true
  counts : ∃ attempts,
    (intake.serve .drain).1 = .drained (pushedOf attempts).length attempts
  inChunks : ∀ size, 0 < size →
    Assembly.drainInChunks size intake.bytes intake.assembly =
      intake.framer.drain intake.bytes intake.sentences

private theorem drain_eq (intake : Intake) :
    intake.framer.drain intake.bytes intake.sentences =
    ((intake.bytes.dequeue intake.bytes.count).2,
      intake.bytes.toList.foldl Assembly.accept intake.assembly) := by
  rw [← intake.bytes.items_dequeue_count]
  rfl

private theorem drainsWhole (intake : Intake) : intake.DrainsWhole := by
  constructor
  case bytes =>
    show (intake.framer.drain intake.bytes intake.sentences).1.isEmpty = true
    rw [drain_eq, Ring.isEmpty, intake.bytes.count_dequeue_count]
    rfl
  case counts =>
    refine ⟨intake.assembly.attempts intake.bytes.toList, ?_⟩
    have counted := Assembly.assembled_foldl_accept intake.bytes.toList intake.assembly
    rw [show intake.assembly.assembled = 0 from rfl, Nat.zero_add] at counted
    rw [serve, drain_eq, counted]
  case inChunks =>
    intro size positive
    rw [Assembly.drainInChunks_eq positive, drain_eq]

end Intake

structure Feed where
  intake : Intake
  operations : List Intake.Operation

namespace Feed

variable (feed : Feed)

def answers : List Intake.Answer := (serveAll Intake.serve feed.intake feed.operations).1

def final : Intake := (serveAll Intake.serve feed.intake feed.operations).2

def stream : List UInt8 :=
  feed.intake.bytes.toList ++ feed.operations.flatMap Intake.Operation.bytes

def attempts : List Attempt := feed.answers.flatMap Intake.Answer.attempts

def pushed : List Sentence := pushedOf feed.attempts

def removed : List Sentence := feed.answers.flatMap Intake.Answer.sentences

def TakesAll : Prop := ∀ answer ∈ feed.answers, answer.overflows = false

structure Completes : Prop where
  takesAll : feed.TakesAll
  drained : feed.final.bytes.isEmpty = true

def PushesAll : Prop := ∀ attempt ∈ feed.attempts, attempt.outcome.isOk = true

instance : Decidable feed.TakesAll := inferInstanceAs (Decidable (∀ _ ∈ _, _))

instance : Decidable feed.PushesAll := inferInstanceAs (Decidable (∀ _ ∈ _, _))

/-! ## What becomes of the stream -/

private theorem exists_consumed_serve (intake : Intake) (operation : Intake.Operation)
    (takes : (intake.serve operation).1.overflows = false) :
    ∃ consumed,
      intake.bytes.toList ++ operation.bytes =
        consumed ++ (intake.serve operation).2.bytes.toList ∧
      intake.framer.frame (consumed.map .byte) =
        ((intake.serve operation).2.framer,
          (intake.serve operation).1.attempts.map Attempt.sentence) := by
  cases operation with
  | enqueue bytes =>
      have outcome : (intake.bytes.enqueue bytes).1.isOk = true := by
        simpa [Intake.serve, Intake.Answer.overflows] using takes
      exact ⟨[], (intake.bytes.toList_enqueue_of_isOk outcome).symm, rfl⟩
  | drain =>
      have emptied := (Ring.isEmpty_iff _).mp intake.drainsWhole.bytes
      refine ⟨intake.bytes.toList, by rw [emptied]; rfl, ?_⟩
      have framed := Assembly.framer_foldl_accept intake.bytes.toList intake.assembly
      have attempted := Assembly.map_sentence_attempts intake.bytes.toList intake.assembly
      apply Prod.ext
      · rw [Intake.serve, Intake.drain_eq]
        exact framed.symm
      · exact attempted.symm
  | dequeue limit => exact ⟨[], by simp [Intake.serve, Intake.Operation.bytes], rfl⟩

private theorem exists_consumed (operations : List Intake.Operation) : ∀ intake : Intake,
    (Feed.mk intake operations).TakesAll →
      ∃ consumed,
        (Feed.mk intake operations).stream =
          consumed ++ (Feed.mk intake operations).final.bytes.toList ∧
        intake.framer.frame (consumed.map .byte) =
          ((Feed.mk intake operations).final.framer,
            (Feed.mk intake operations).attempts.map Attempt.sentence) := by
  induction operations with
  | nil => exact fun intake _ => ⟨[], by simp [stream, final, serveAll], rfl⟩
  | cons operation rest induction =>
      intro intake takes
      rcases List.forall_mem_cons.mp takes with ⟨now, later⟩
      rcases exists_consumed_serve intake operation now with ⟨first, moved, framed⟩
      rcases induction (intake.serve operation).2 later with ⟨further, remains, follows⟩
      refine ⟨first ++ further, ?_, ?_⟩
      · rw [stream] at remains ⊢
        rw [List.flatMap_cons, ← List.append_assoc, moved, List.append_assoc, remains,
          List.append_assoc]
        rfl
      · rw [List.map_append, Framer.frame_append, framed, follows, ← List.map_append]
        rfl

private theorem pushed_append_serve {intake : Intake} {operation : Intake.Operation}
    (accepted : ∀ attempt ∈ (intake.serve operation).1.attempts,
      attempt.outcome.isOk = true) :
    intake.sentences.toList ++ pushedOf (intake.serve operation).1.attempts =
      (intake.serve operation).1.sentences ++
        (intake.serve operation).2.sentences.toList := by
  cases operation with
  | enqueue bytes => exact List.append_nil _
  | drain =>
      have joined :=
        Assembly.toList_foldl_accept intake.bytes.toList intake.assembly accepted
      rw [Intake.serve, Intake.drain_eq]
      exact joined.symm
  | dequeue limit =>
      rw [Intake.serve]
      exact (List.append_nil _).trans (intake.sentences.dequeue_append limit).symm

/-- The sentences that were there, and those that get in, come out in order or remain. -/
private theorem pushed_append (operations : List Intake.Operation) : ∀ intake : Intake,
    (Feed.mk intake operations).PushesAll →
      intake.sentences.toList ++ (Feed.mk intake operations).pushed =
        (Feed.mk intake operations).removed ++
          (Feed.mk intake operations).final.sentences.toList := by
  induction operations with
  | nil => exact fun intake _ => List.append_nil _
  | cons operation rest induction =>
      intro intake accepted
      rcases List.forall_mem_append.mp accepted with ⟨now, later⟩
      have follows := induction (intake.serve operation).2 later
      have both : (Feed.mk intake (operation :: rest)).pushed =
          pushedOf (intake.serve operation).1.attempts ++
            (Feed.mk (intake.serve operation).2 rest).pushed := pushedOf_append _ _
      rw [both, ← List.append_assoc, pushed_append_serve now, List.append_assoc, follows,
        ← List.append_assoc]
      rfl

theorem frame_of_completes {feed : Feed} (completes : feed.Completes) :
    feed.intake.framer.frame (feed.stream.map .byte) =
      (feed.final.framer, feed.attempts.map Attempt.sentence) := by
  rcases exists_consumed feed.operations feed.intake completes.takesAll with
    ⟨consumed, moved, framed⟩
  have emptied := (Ring.isEmpty_iff _).mp completes.drained
  rw [show feed.stream = consumed by rw [moved, emptied, List.append_nil]]
  exact framed

end Feed

/-! ## Slices of the stream -/

/-- The sentences stand in the stream one behind the other. -/
inductive SlicesOf : List Sentence → List UInt8 → Prop
  | nil (stream : List UInt8) : SlicesOf [] stream
  | cons (gap : List UInt8) (sentence : Sentence) {sentences : List Sentence}
      {rest : List UInt8} (later : SlicesOf sentences rest) :
      SlicesOf (sentence :: sentences) (gap ++ (sentence.bytes ++ rest))

namespace SlicesOf

variable {sentences : List Sentence} {stream : List UInt8}

private theorem append_left (slices : SlicesOf sentences stream) (before : List UInt8) :
    SlicesOf sentences (before ++ stream) := by
  cases slices with
  | nil => exact .nil _
  | cons gap sentence later =>
      rw [← List.append_assoc]
      exact .cons _ sentence later

private theorem append_right (slices : SlicesOf sentences stream) (behind : List UInt8) :
    SlicesOf sentences (stream ++ behind) := by
  induction slices with
  | nil => exact .nil _
  | cons gap sentence later induction =>
      rw [List.append_assoc, List.append_assoc]
      exact .cons gap sentence induction

end SlicesOf

namespace Framer

private theorem clear_cases (framer : Framer) (byte : UInt8) :
    (framer.clear byte).1 = framer ∨ (framer.clear byte).1 = framer.discard := by
  unfold clear
  split
  · exact .inr rfl
  · split
    · exact .inr rfl
    · exact .inl rfl

theorem line_clear_suffix (framer : Framer) (byte : UInt8) :
    (framer.clear byte).1.line <:+ framer.line := by
  rcases framer.clear_cases byte with kept | dropped
  · simp [kept]
  · simp [dropped, discard]

theorem push_of_ne (framer : Framer) {byte : UInt8} (inside : byte ≠ lineFeed) :
    (framer.push byte).framer.line = (framer.clear byte).1.line ++ [byte] ∧
      (framer.push byte).sentence = none := by
  simp [push, inside]

theorem push_lineFeed (framer : Framer) :
    (framer.push lineFeed).framer.line = [] ∧ (framer.push lineFeed).sentence =
      Sentence.ofBytes? ((framer.clear lineFeed).1.line ++ [lineFeed]) := by
  unfold push
  dsimp only
  rw [if_pos rfl]
  cases Sentence.ofBytes? ((framer.clear lineFeed).1.line ++ [lineFeed]) with
  | none => exact ⟨rfl, rfl⟩
  | some sentence => exact ⟨rfl, rfl⟩

private theorem lineFeed_notMem_push {framer : Framer} (byte : UInt8)
    (inside : lineFeed ∉ framer.line) :
    lineFeed ∉ (framer.push byte).framer.line := by
  by_cases ends : byte = lineFeed
  · rw [ends, framer.push_lineFeed.1]
    exact List.not_mem_nil
  · rw [(framer.push_of_ne ends).1, List.mem_append, List.mem_singleton]
    rintro (kept | last)
    · exact inside ((framer.line_clear_suffix byte).subset kept)
    · exact ends last.symm

private theorem slicesOf_frame (bytes : List UInt8) : ∀ framer : Framer,
    SlicesOf (framer.frame (bytes.map .byte)).2 (framer.line ++ bytes) := by
  induction bytes with
  | nil => exact fun _ => .nil _
  | cons byte rest induction =>
      intro framer
      -- What a byte drops lies in front of all sentences that follow.
      rcases framer.line_clear_suffix byte with ⟨dropped, line⟩
      rw [← line, List.append_assoc]
      refine SlicesOf.append_left ?_ dropped
      have follows := induction (framer.push byte).framer
      by_cases ends : byte = lineFeed
      · subst ends
        rcases framer.push_lineFeed with ⟨empty, taken⟩
        rw [empty, List.nil_append] at follows
        cases completed : (framer.push lineFeed).sentence with
        | none =>
            have later :=
              follows.append_left ((framer.clear lineFeed).1.line ++ [lineFeed])
            rw [List.append_assoc] at later
            simpa [frame, meet, completed] using later
        | some sentence =>
            have slice := SlicesOf.cons [] sentence follows
            rw [(push_eq_some completed).2, List.nil_append, List.append_assoc] at slice
            simpa [frame, meet, completed] using slice
      · rcases framer.push_of_ne ends with ⟨line, incomplete⟩
        rw [line, List.append_assoc] at follows
        simpa [frame, meet, incomplete] using follows

private theorem isLine_of_mem_frame {sentence : Sentence} (bytes : List UInt8) :
    ∀ framer : Framer,
    lineFeed ∉ framer.line → sentence ∈ (framer.frame (bytes.map .byte)).2 →
      sentence.IsLine := by
  induction bytes with
  | nil => exact fun _ _ member => absurd member List.not_mem_nil
  | cons byte rest induction =>
      intro framer inside member
      rcases List.mem_append.mp member with now | later
      · rcases push_eq_some (Option.mem_toList.mp now) with ⟨rfl, bytes⟩
        refine ⟨⟨_, bytes, fun kept => ?_⟩, ?_⟩
        · exact inside ((framer.line_clear_suffix lineFeed).subset kept)
        · rw [bytes, List.length_append]
          exact framer.length_line_clear_lt lineFeed
      · exact induction _ (lineFeed_notMem_push byte inside) later

end Framer

private theorem Sentence.IsLine.two_le {sentence : Sentence} (isLine : sentence.IsLine) :
    2 ≤ sentence.bytes.length := by
  rcases isLine.ends with ⟨body, bytes, -⟩
  have starts := sentence.starts
  rw [bytes] at starts ⊢
  cases body with
  | nil => cases starts
  | cons first rest => simp

/-! ## Feeds of one stream -/

namespace Feed

/-- The order of operations makes no difference to what becomes of a stream. -/
structure CutFreely (left right : Feed) : Prop where
  drains : ∀ intake : Intake, intake.DrainsWhole
  /-- The pushed sentences, the line that has not ended and the number of dropped
  lines. -/
  alike : left.intake.framer = right.intake.framer → left.stream = right.stream →
    left.Completes → left.PushesAll → right.Completes → right.PushesAll →
      left.pushed = right.pushed ∧ left.final.framer.line = right.final.framer.line ∧
        left.final.framer.discarded = right.final.framer.discarded
  queued : left.PushesAll → left.intake.sentences.toList ++ left.pushed =
    left.removed ++ left.final.sentences.toList
  sliced : left.intake.framer = .new → left.TakesAll → left.PushesAll →
    SlicesOf left.pushed left.stream ∧ ∀ sentence ∈ left.pushed, sentence.IsLine ∧
      sentence.bytes.head? = some dollar ∧ 2 ≤ sentence.bytes.length

variable {feed : Feed}

private theorem sliced (fresh : feed.intake.framer = .new) (takes : feed.TakesAll)
    (accepted : feed.PushesAll) :
    SlicesOf feed.pushed feed.stream ∧ ∀ sentence ∈ feed.pushed, sentence.IsLine := by
  rcases exists_consumed feed.operations feed.intake takes with ⟨consumed, moved, framed⟩
  have pushed : feed.pushed = (Framer.new.frame (consumed.map .byte)).2 := by
    rw [← fresh, framed]
    exact pushedOf_of_isOk accepted
  rw [pushed, show feed.stream = _ from moved]
  constructor
  · exact (Framer.new.slicesOf_frame consumed).append_right _
  · exact fun sentence member =>
      Framer.isLine_of_mem_frame consumed _ List.not_mem_nil member

/-- Two feeds of one stream come to the same. -/
theorem cutFreely (left right : Feed) : CutFreely left right := by
  constructor
  case drains => exact Intake.drainsWhole
  case alike =>
    intro framer stream completes accepts completesToo acceptsToo
    have framed := frame_of_completes completes
    rw [framer, stream, frame_of_completes completesToo] at framed
    rcases Prod.mk.inj framed with ⟨final, attempts⟩
    refine ⟨?_, by rw [final], by rw [final]⟩
    rw [pushed, pushed, pushedOf_of_isOk accepts, pushedOf_of_isOk acceptsToo, attempts]
  case queued => exact fun accepts => pushed_append left.operations left.intake accepts
  case sliced =>
    intro fresh takes accepts
    rcases left.sliced fresh takes accepts with ⟨slices, isLine⟩
    exact ⟨slices, fun sentence member =>
      ⟨isLine sentence member, sentence.starts, (isLine sentence member).two_le⟩⟩

/-- A framer that has met nothing, with room for 40 bytes and 4 sentences. -/
def fresh (operations : List Intake.Operation) : Feed where
  intake := ⟨.empty 40, .new, .empty 4⟩
  operations := operations

/-- Two sentences, with garbage before, between and behind them. -/
def received : List UInt8 := Text.Latin.encode "no$GPRMC,1\nise\n$GPRMC,2\n$GP"

theorem cutFreely_of_received :
    let whole := fresh [.enqueue received, .drain]
    let parts :=
      fresh [.enqueue (received.take 3), .enqueue ((received.drop 3).take 5), .drain,
      .enqueue (received.drop 8), .drain, .dequeue 1]
    whole.Completes ∧ whole.PushesAll ∧ parts.Completes ∧ parts.PushesAll ∧
      whole.pushed.map Sentence.bytes =
        ["$GPRMC,1\n", "$GPRMC,2\n"].map Text.Latin.encode ∧
      whole.pushed = parts.pushed ∧ parts.final.framer.discarded = 2 ∧
      SlicesOf parts.pushed received := by
  intro whole parts
  have completes : whole.Completes := ⟨by decide +kernel, by decide +kernel⟩
  have completesToo : parts.Completes := ⟨by decide +kernel, by decide +kernel⟩
  have accepts : whole.PushesAll := by decide +kernel
  have acceptsToo : parts.PushesAll := by decide +kernel
  have stream : parts.stream = received := by decide +kernel
  have same : whole.stream = parts.stream := by decide +kernel
  have alike :=
    (cutFreely whole parts).alike rfl same completes accepts completesToo acceptsToo
  have sliced := (cutFreely parts whole).sliced rfl completesToo.takesAll acceptsToo
  rw [stream] at sliced
  exact ⟨completes, accepts, completesToo, acceptsToo, by decide +kernel, alike.1,
    by decide +kernel, sliced.1⟩

end Feed

end ClockDiscipline.Nmea
