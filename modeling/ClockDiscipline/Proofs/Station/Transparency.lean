import ClockDiscipline.Proofs.Station.Replay

/-!
What becomes of the bytes. The station hears the sentences that the framer makes of all
bytes of a run taken one at a time, each of them once, in order and in the poll that reads
its end. How reads, polls and sentences are cut makes no difference, as long as no read
completes more sentences than their queue has room for. The queue of bytes never
overflows.
-/

namespace ClockDiscipline

def Sync.Effect.arrivals : Sync.Effect → List Nmea.Arrival
  | .flushQueues => [.flush]
  | _ => []

namespace Station

variable {World : Type} {devices : Devices World}

/-! ## What a framer meets -/

private theorem framer_act (effects : List Sync.Effect) :
    ∀ (station : Station) (world : World),
    station.framer.frame (effects.flatMap Sync.Effect.arrivals) =
      ((act devices effects station world).framer, []) := by
  induction effects with
  | nil => exact fun _ _ => rfl
  | cons effect rest induction =>
      intro station world
      have follows := induction (station.carriedOut (devices.window? world) effect)
        (devices.after (station.requests effect) world)
      rw [act, ← follows]
      cases effect <;> rfl

namespace Tick

variable (tick : Tick devices)

/-- The bytes that the poll reads, and then the flush that its step may ask for. -/
def arrivals : List Nmea.Arrival :=
  tick.received.map .byte ++ tick.step.effects.flatMap Sync.Effect.arrivals

theorem framer_acting : tick.acting.framer = tick.listening.assembled.framer := by
  rcases tick.observed_eq with ⟨fix, observed⟩
  show tick.observed.framer = _
  rw [observed]
  rfl

theorem framer_assembled (resting : tick.before.Resting) :
    tick.listening.assembled.framer =
      (tick.before.framer.frame (tick.received.map .byte)).1 := by
  have heard := congrArg Prod.fst (tick.heard_eq resting).1
  rw [heardFrom, (Nmea.Framer.foldl_collect _ _ _ _).1] at heard
  exact heard

private theorem frame_arrivals (resting : tick.before.Resting) :
    tick.before.framer.frame tick.arrivals =
      (tick.after.framer, (tick.before.framer.frame (tick.received.map .byte)).2) := by
  rw [arrivals, Nmea.Framer.frame_append, ← tick.framer_assembled resting,
    ← tick.framer_acting, framer_act tick.step.effects tick.acting tick.middle,
    List.append_nil]
  rfl

theorem sentences_eq (resting : tick.before.Resting)
    (fits : (tick.before.framer.frame (tick.received.map .byte)).2.length ≤
      sentenceCapacity) :
    tick.sentences = (tick.before.framer.frame (tick.received.map .byte)).2 := by
  have heard := congrArg Prod.snd (tick.heard_eq resting).1
  rw [heardFrom, (Nmea.Framer.foldl_collect _ _ _ _).2 (by simpa using fits)] at heard
  exact heard

end Tick

def arrivalsOf (past : List (Tick devices)) : List Nmea.Arrival :=
  past.reverse.flatMap Tick.arrivals

theorem arrivalsOf_cons (tick : Tick devices) (past : List (Tick devices)) :
    arrivalsOf (tick :: past) = arrivalsOf past ++ tick.arrivals := by
  simp [arrivalsOf]

def framerOf (past : List (Tick devices)) : Nmea.Framer :=
  (Nmea.Framer.new.frame (arrivalsOf past)).1

theorem Run.framer_eq {timings : Sync.Timings} {past : List (Tick devices)}
    {station : Station}
    (run : Run devices timings past station) : station.framer = framerOf past := by
  induction run with
  | start => rfl
  | poll tick run induction =>
      rw [framerOf, arrivalsOf_cons, Nmea.Framer.frame_append, ← framerOf, ← induction,
        tick.frame_arrivals run.resting]

/-! ## Transparent queues -/

def Tick.completed (tick : Tick devices) (earlier : List (Tick devices)) :
    List Nmea.Sentence :=
  ((framerOf earlier).frame (tick.received.map .byte)).2

/-- The polls of a run hear what its bytes amount to. -/
structure HearsAll (past : List (Tick devices)) : Prop where
  sentences : past.reverse.flatMap Tick.sentences =
    (Nmea.Framer.new.frame (arrivalsOf past)).2
  /-- In the poll that reads its bytes up to the line feed that ends it. -/
  prompt : ∀ tick earlier, tick :: earlier <:+ past →
    tick.sentences = tick.completed earlier ∧
    ∀ sentence ∈ tick.sentences, ∃ early late,
      tick.received = early ++ Nmea.lineFeed :: late ∧
      (((framerOf earlier).frame (early.map .byte)).1.push Nmea.lineFeed).sentence =
        some sentence

namespace Run

variable {timings : Sync.Timings} {past : List (Tick devices)} {station : Station}

private theorem sentences_eq {tick : Tick devices} {earlier : List (Tick devices)}
    (run : Run devices timings (tick :: earlier) station)
    (fits : (tick.completed earlier).length ≤ sentenceCapacity) :
    tick.sentences = tick.completed earlier := by
  rcases run.of_cons with ⟨before, -⟩
  rw [Tick.completed, ← before.framer_eq] at fits ⊢
  exact tick.sentences_eq before.resting fits

private theorem flatMap_sentences (run : Run devices timings past station)
    (fits : ∀ tick earlier, tick :: earlier <:+ past →
      (tick.completed earlier).length ≤ sentenceCapacity) :
    past.reverse.flatMap Tick.sentences =
      (Nmea.Framer.new.frame (arrivalsOf past)).2 := by
  induction run with
  | start => rfl
  | @poll earlier tick run induction =>
      have before := induction fun other older suffix =>
        fits other older (suffix.trans (List.suffix_cons _ _))
      have heard :=
        (Run.poll tick run).sentences_eq (fits tick earlier (List.suffix_refl _))
      rw [Tick.completed, ← run.framer_eq] at heard
      rw [arrivalsOf_cons, Nmea.Framer.frame_append, ← framerOf, ← run.framer_eq,
        tick.frame_arrivals run.resting, ← before, ← heard]
      simp

/-- The polls of a run hear all sentences that its bytes make, unless a read completes
more of them than can wait. In any case the bytes of a poll fit into their queue, and it
leaves both queues empty. -/
theorem transparent (run : Run devices timings past station) :
    ((∀ tick earlier, tick :: earlier <:+ past →
        (tick.completed earlier).length ≤ sentenceCapacity) → HearsAll past) ∧
      ∀ tick ∈ past, (tick.before.bytes.enqueue tick.received).1 = .ok () ∧
        tick.after.bytes.isEmpty = true ∧ tick.after.sentences.isEmpty = true := by
  constructor
  · intro fits
    refine ⟨run.flatMap_sentences fits, fun tick earlier suffix => ?_⟩
    have heard := (run.of_suffix suffix).sentences_eq (fits tick earlier suffix)
    refine ⟨heard, fun sentence member => ?_⟩
    rw [heard] at member
    exact Nmea.Framer.exists_lineFeed_of_mem_frame tick.received _ member
  · intro tick member
    rcases run.exists_suffix_of_mem member with ⟨earlier, -, before⟩
    have limited : tick.received.length ≤ readLimit := length_bytesOf_le _
    have fits := Nat.le_trans limited before.resting.readLimit_le_available
    have rests := tick.resting_after before.resting
    refine ⟨(tick.before.bytes.enqueue_of_fits fits).1, ?_, ?_⟩
    · rw [Ring.isEmpty, beq_iff_eq, ← Ring.length_toList, rests.bytes, List.length_nil]
    · rw [Ring.isEmpty, beq_iff_eq, ← Ring.length_toList, rests.sentences,
        List.length_nil]

end Run

def telling (text : String) : Script :=
  { Script.initial with incoming := Text.Latin.encode text }

/-- A line that the station forgets when it wakes, and then a sentence in two parts. -/
def brokenSentence : List (Nat × Int × Script) :=
  atIntervals
    [telling "noise$GPRMC,134724,A,", telling "47$GPRMC,134724,A,4700.0000,N,00800",
    telling ".0000,E,0.0,0.0,180510,0,\r\n"]

theorem transparent_of_brokenSentence :
    ∃ (past : List (Tick Script.devices)) (station : Station),
      Run Script.devices .standard past station ∧ past.map Tick.poll = brokenSentence ∧
        station.reception.fix = ⟨true, 200, "4700.0000", "00800.0000"⟩ ∧
        (∀ tick earlier, tick :: earlier <:+ past →
          (tick.completed earlier).length ≤ sentenceCapacity) ∧
        HearsAll past ∧
        ∀ tick ∈ past, (tick.before.bytes.enqueue tick.received).1 = .ok () ∧
          tick.after.bytes.isEmpty = true ∧ tick.after.sentences.isEmpty = true := by
  have replays : ((replay? Script.devices .standard brokenSentence).map fun run =>
      run.2.reception.fix) = some ⟨true, 200, "4700.0000", "00800.0000"⟩ := by
    decide +kernel
  have short : brokenSentence.all fun poll =>
      (bytesOf (Script.devices.read poll.2.2).1).length ≤ sentenceCapacity := by
    decide +kernel
  rcases Option.map_eq_some_iff.mp replays with ⟨⟨replayed, final⟩, replayed, fix⟩
  rcases exists_run_of_replay? replayed with ⟨past, station, run, polls, -, rfl⟩
  have fits : ∀ tick earlier, tick :: earlier <:+ past →
      (tick.completed earlier).length ≤ sentenceCapacity := by
    intro tick earlier suffix
    have polled : tick.poll ∈ brokenSentence := by
      rw [← polls]
      exact List.mem_map_of_mem (suffix.subset List.mem_cons_self)
    have few : tick.received.length ≤ sentenceCapacity :=
      of_decide_eq_true (List.all_eq_true.mp short tick.poll polled)
    have bounded :=
      Nmea.Framer.length_frame_le (tick.received.map .byte) (framerOf earlier)
    rw [List.length_map] at bounded
    exact Nat.le_trans bounded few
  exact ⟨past, station, run, polls, fix, fits, run.transparent.1 fits, run.transparent.2⟩

end Station

end ClockDiscipline
