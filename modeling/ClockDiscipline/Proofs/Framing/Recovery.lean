import ClockDiscipline.Proofs.Framing.Cuts
import Mathlib.Data.List.DropRight

/-!
How the framer comes back to the sentences. As long as no dollar sign has come in since
the last line ended, whatever has come in costs nothing: the next line that begins with
one is taken whole if it is short enough, and dropped whole if it is not.
-/

namespace ClockDiscipline.Nmea

/-! ## Since the last line -/

namespace Arrival

def endsLine : Arrival → Bool
  | byte value => value == lineFeed
  | flush => true

/-- What has come in since the last line feed and since the line was last forgotten. -/
def sinceLineEnd (arrivals : List Arrival) : List Arrival :=
  arrivals.rtakeWhile fun arrival => !arrival.endsLine

private theorem sinceLineEnd_concat_of_ne (arrivals : List Arrival) {value : UInt8}
    (inside : value ≠ lineFeed) :
    sinceLineEnd (arrivals ++ [.byte value]) =
      sinceLineEnd arrivals ++ [.byte value] := by
  apply List.rtakeWhile_concat_pos
  simpa [endsLine] using inside

end Arrival

namespace Framer

private theorem frame_concat (framer : Framer) (arrivals : List Arrival)
    (arrival : Arrival) :
    (framer.frame (arrivals ++ [arrival])).1 =
      ((framer.frame arrivals).1.meet arrival).1 := by
  rw [frame_append]
  rfl

private theorem line_suffix_sinceLineEnd (arrivals : List Arrival) :
    (Framer.new.frame arrivals).1.line.map .byte <:+ Arrival.sinceLineEnd arrivals := by
  induction arrivals using List.reverseRecOn with
  | nil => exact List.suffix_refl _
  | append_singleton arrivals arrival induction =>
      rw [frame_concat]
      cases arrival with
      | flush => exact List.nil_suffix
      | byte value =>
          by_cases ends : value = lineFeed
          · rw [ends, meet, (push_lineFeed _).1]
            exact List.nil_suffix
          · rw [meet, (push_of_ne _ ends).1,
              Arrival.sinceLineEnd_concat_of_ne arrivals ends, List.map_append]
            apply List.suffix_append_self_iff.mpr
            exact ((line_clear_suffix _ value).map _).trans induction

/-! ## One line -/

/-- The line that was framed is gone, and no part of it is a sentence. -/
structure Drops (framed : Framer × List Sentence) : Prop where
  line : framed.1.line = []
  sentences : framed.2 = []

private theorem frame_cons_of_ne (framer : Framer) {byte : UInt8}
    (inside : byte ≠ lineFeed)
    (rest : List UInt8) : framer.frame ((byte :: rest).map .byte) =
      (framer.push byte).framer.frame (rest.map .byte) := by
  simp [frame, meet, (framer.push_of_ne inside).2]

private theorem drops_lineFeed {framer : Framer}
    (garbage : (framer.clear lineFeed).1.line.head? ≠ some dollar) :
    Drops (framer.frame ([lineFeed].map .byte)) := by
  rcases framer.push_lineFeed with ⟨empty, taken⟩
  have starts : ((framer.clear lineFeed).1.line ++ [lineFeed]).head? ≠ some dollar := by
    cases line : (framer.clear lineFeed).1.line with
    | nil => decide
    | cons first rest =>
        rw [line] at garbage
        exact garbage
  have none : (framer.push lineFeed).sentence = none := by
    rw [taken, Sentence.ofBytes?, dif_neg fun valid => starts valid.1]
  exact ⟨empty, by simp [frame, meet, none]⟩

private theorem drops_of_noDollar (body : List UInt8) :
    ∀ framer : Framer, dollar ∉ framer.line →
    dollar ∉ body → lineFeed ∉ body →
      Drops (framer.frame ((body ++ [lineFeed]).map .byte)) := by
  induction body with
  | nil =>
      intro framer garbage _ _
      apply drops_lineFeed
      intro starts
      have member := List.mem_of_mem_head? starts
      exact garbage ((framer.line_clear_suffix lineFeed).subset member)
  | cons byte rest induction =>
      intro framer garbage none single
      rw [List.mem_cons, not_or] at none single
      rw [List.cons_append, frame_cons_of_ne framer (Ne.symm single.1)]
      refine induction _ ?_ none.2 single.2
      rw [(framer.push_of_ne (Ne.symm single.1)).1, List.mem_append, List.mem_singleton,
        not_or]
      refine ⟨fun kept => ?_, none.1⟩
      exact garbage ((framer.line_clear_suffix byte).subset kept)

private theorem line_clear_of_isFull {framer : Framer} (byte : UInt8)
    (full : maxLineLength ≤ framer.line.length) : (framer.clear byte).1.line = [] := by
  simp [clear, isFull, full, discard]

private theorem clear_of_ne_dollar {framer : Framer} {byte : UInt8}
    (inside : byte ≠ dollar)
    (room : ¬maxLineLength ≤ framer.line.length) : (framer.clear byte).1 = framer := by
  simp [clear, isFull, room, restartsAt, inside]

/-- A line that is too long is given up where it is full, and its rest is garbage. -/
private theorem drops_of_overlong (body : List UInt8) : ∀ framer : Framer,
    maxLineLength ≤ framer.line.length + body.length → dollar ∉ body → lineFeed ∉ body →
      Drops (framer.frame ((body ++ [lineFeed]).map .byte)) := by
  induction body with
  | nil =>
      intro framer full _ _
      apply drops_lineFeed
      rw [line_clear_of_isFull lineFeed full]
      simp
  | cons byte rest induction =>
      intro framer overlong none single
      rw [List.mem_cons, not_or] at none single
      have line := (framer.push_of_ne (Ne.symm single.1)).1
      rw [List.cons_append, frame_cons_of_ne framer (Ne.symm single.1)]
      by_cases full : maxLineLength ≤ framer.line.length
      · -- The line is given up here, so what is left of it begins with no dollar sign.
        rw [line_clear_of_isFull byte full, List.nil_append] at line
        refine drops_of_noDollar rest _ ?_ none.2 single.2
        rw [line, List.mem_singleton]
        exact none.1
      · rw [clear_of_ne_dollar (Ne.symm none.1) full] at line
        refine induction _ ?_ none.2 single.2
        rw [line, List.length_append]
        rw [List.length_cons] at overlong
        simp only [List.length_singleton]
        omega

private theorem line_push_dollar {framer : Framer} (garbage : dollar ∉ framer.line) :
    (framer.push dollar).framer.line = [dollar] := by
  rw [(framer.push_of_ne (by decide)).1]
  suffices empty : (framer.clear dollar).1.line = [] by rw [empty, List.nil_append]
  by_cases full : maxLineLength ≤ framer.line.length
  · exact line_clear_of_isFull dollar full
  · have room : framer.isFull = false := by simpa [isFull] using full
    cases line : framer.line with
    | nil => simp [clear, room, restartsAt, line]
    | cons first rest =>
        have other : first ≠ dollar := fun same => garbage (by simp [line, same])
        simp [clear, room, restartsAt, line, other, discard]

private theorem frame_of_garbage {framer : Framer} {body : List UInt8}
    (garbage : dollar ∉ framer.line) (single : lineFeed ∉ body) :
    let line := dollar :: (body ++ [lineFeed])
    (line.length ≤ maxLineLength → (framer.frame (line.map .byte)).1.line = [] ∧
      (framer.frame (line.map .byte)).2.map Sentence.bytes = [line]) ∧
    (maxLineLength < line.length → dollar ∉ body →
      Drops (framer.frame (line.map .byte))) := by
  intro line
  have begun := line_push_dollar garbage
  have next : framer.frame (line.map .byte) =
      (framer.push dollar).framer.frame ((body ++ [lineFeed]).map .byte) :=
    frame_cons_of_ne framer (by decide) _
  rw [next]
  constructor
  · intro short
    let sentence : Sentence := ⟨line, rfl, Nat.le_trans short (by decide)⟩
    have fits : sentence.bytes.length ≤ maxLineLength := short
    have framed := frame_of_begins fits body _ single (by rw [begun]; rfl)
    refine ⟨framed.1, ?_⟩
    rw [framed.2]
    rfl
  · intro long none
    refine drops_of_overlong body _ ?_ none single
    rw [begun]
    simp only [line, List.length_cons, List.length_append, List.length_nil] at long ⊢
    omega

end Framer

/-! ## Feeds of one line -/

namespace Feed

structure TakesWhole (feed : Feed) : Prop where
  attempts : feed.attempts.map (fun attempt => attempt.sentence.bytes) = [feed.stream]
  pushed : feed.PushesAll → feed.pushed.map Sentence.bytes = [feed.stream]
  line : feed.final.framer.line = []

private theorem takesWhole_of_frame {feed : Feed} (completes : feed.Completes)
    (framed : (feed.intake.framer.frame (feed.stream.map .byte)).1.line = [] ∧
      (feed.intake.framer.frame (feed.stream.map .byte)).2.map Sentence.bytes =
        [feed.stream]) :
    feed.TakesWhole := by
  rw [frame_of_completes completes] at framed
  have attempts := framed.2
  rw [List.map_map] at attempts
  refine ⟨attempts, fun accepts => ?_, framed.1⟩
  rw [pushed, pushedOf_of_isOk accepts, List.map_map]
  exact attempts

/-- The line is dropped, and whatever feed comes next with a whole line takes it. -/
structure DropsLine (feed : Feed) : Prop where
  attempts : feed.attempts = []
  line : feed.final.framer.line = []
  recovers : ∀ next : Feed, next.intake = feed.final → next.Completes →
    ∀ sentence : Sentence, sentence.IsLine → next.stream = sentence.bytes →
      next.TakesWhole

/-- A feed that meets no dollar sign before its own line takes the line, or drops it. -/
theorem resynchronises (feed : Feed) {arrivals : List Arrival} {body : List UInt8}
    (garbage : .byte dollar ∉ Arrival.sinceLineEnd arrivals)
    (framer : feed.intake.framer = (Framer.new.frame arrivals).1)
    (line : feed.stream = dollar :: (body ++ [lineFeed])) (single : lineFeed ∉ body)
    (completes : feed.Completes) :
    (feed.stream.length ≤ maxLineLength → feed.TakesWhole) ∧
      (maxLineLength < feed.stream.length → dollar ∉ body → feed.DropsLine) := by
  have noDollar : dollar ∉ feed.intake.framer.line := by
    rw [framer]
    intro member
    exact garbage ((Framer.line_suffix_sinceLineEnd arrivals).subset
      (List.mem_map_of_mem member))
  have framed := Framer.frame_of_garbage noDollar single
  rw [← line] at framed
  constructor
  · exact fun short => takesWhole_of_frame completes (framed.1 short)
  · intro long none
    have drops := framed.2 long none
    rw [frame_of_completes completes] at drops
    refine ⟨List.map_eq_nil_iff.mp drops.sentences, drops.line, ?_⟩
    intro next follows completes sentence isLine stream
    have empty : next.intake.framer.line = [] := by
      rw [follows]
      exact drops.line
    have taken := Framer.frame_of_isLine isLine empty
    apply takesWhole_of_frame completes
    rw [stream]
    exact ⟨taken.1, by rw [taken.2]; rfl⟩

def fullLine : List Arrival := List.replicate maxLineLength (.byte 0x78)

def behindFullLine (bytes : List UInt8) : Feed where
  intake := ⟨.empty 256, (Framer.new.frame fullLine).1, .empty 4⟩
  operations := [.enqueue bytes, .drain]

private theorem framer_behindFullLine (bytes : List UInt8) :
    (behindFullLine bytes).intake.framer = (Framer.new.frame fullLine).1 := by
  rw [behindFullLine]

def lineOf (size : Nat) : List UInt8 := dollar :: (List.replicate size 0x41 ++ [lineFeed])

private theorem garbage_fullLine : .byte dollar ∉ Arrival.sinceLineEnd fullLine := by
  intro member
  have within := (List.rtakeWhile_suffix _ fullLine).subset member
  cases (List.mem_replicate.mp within).2

private theorem notMem_replicate (size : Nat) {byte : UInt8} (other : byte ≠ 0x41) :
    byte ∉ List.replicate size (0x41 : UInt8) :=
  fun member => other (List.mem_replicate.mp member).2

/-- The longest line that is taken, and a line that is longer by one byte. -/
theorem resynchronises_of_fullLine :
    let short := behindFullLine (lineOf 124)
    let long := behindFullLine (lineOf 125)
    let next : Feed := ⟨long.final, [.enqueue (lineOf 3), .drain]⟩
    short.stream.length = maxLineLength ∧ short.TakesWhole ∧ long.DropsLine ∧
      next.TakesWhole := by
  intro short long next
  have shortLine : short.stream = lineOf 124 := by decide +kernel
  have longLine : long.stream = lineOf 125 := by decide +kernel
  have completes : short.Completes := ⟨by decide +kernel, by decide +kernel⟩
  have completesToo : long.Completes := ⟨by decide +kernel, by decide +kernel⟩
  have taken := short.resynchronises garbage_fullLine (framer_behindFullLine _) shortLine
    (notMem_replicate 124 (by decide)) completes
  have dropped := long.resynchronises garbage_fullLine (framer_behindFullLine _) longLine
    (notMem_replicate 125 (by decide)) completesToo
  have shortEnough : short.stream.length = maxLineLength := by decide +kernel
  have drops := dropped.2 (by decide +kernel) (notMem_replicate 125 (by decide))
  let sentence : Sentence := ⟨lineOf 3, rfl, by decide⟩
  have isLine : sentence.IsLine :=
    ⟨⟨dollar :: List.replicate 3 0x41, rfl, by decide⟩, by decide⟩
  have recovered :=
    drops.recovers next rfl ⟨by decide +kernel, by decide +kernel⟩ sentence isLine
    (by decide +kernel)
  exact ⟨shortEnough, taken.1 (Nat.le_of_eq shortEnough), drops, recovered⟩

end Feed

end ClockDiscipline.Nmea
