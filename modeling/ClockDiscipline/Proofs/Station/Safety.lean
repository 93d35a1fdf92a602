import ClockDiscipline.Proofs.Checked.Fields
import ClockDiscipline.Proofs.Checked.Framing
import ClockDiscipline.Proofs.Checked.Rates
import ClockDiscipline.Proofs.Station.Halting
import ClockDiscipline.Proofs.Station.Progress
import ClockDiscipline.Proofs.Station.Transparency

/-!
Polls that nothing can stop. With delays and instants that a signed quantity holds, and as
long as the bytes of a run can be counted, every poll comes to an end. All that it
computes on the way comes to the same with checks: no sum overflows, no place is missing
and nothing is divided by zero.
-/

namespace ClockDiscipline

namespace Nmea

/-! ## What can be counted -/

def Arrival.size : Arrival → Nat
  | .byte _ => 1
  | .flush => 0

private theorem Framer.weight_frame_le (arrivals : List Arrival) : ∀ framer : Framer,
    (framer.frame arrivals).1.weight ≤
      framer.weight + (arrivals.map Arrival.size).sum := by
  induction arrivals with
  | nil => exact fun _ => Nat.le_refl _
  | cons arrival rest induction =>
      intro framer
      have follows := induction (framer.meet arrival).1
      have met : (framer.meet arrival).1.weight ≤ framer.weight + arrival.size := by
        cases arrival with
        | byte byte => exact framer.weight_push_le byte
        | flush => exact framer.weight_reset_le
      rw [List.map_cons, List.sum_cons]
      exact Nat.le_trans follows (by omega)

private theorem Framer.exists_isIn (framer : Framer) : ∃ buffer, framer.IsIn buffer := by
  have fits : framer.line.length ≤ maxSentenceLength :=
    Nat.le_trans framer.length_le (Nat.sub_le _ _)
  refine ⟨⟨(framer.line ++
    List.replicate (maxSentenceLength - framer.line.length) 0).toArray,
    framer.line.length, framer.discarded⟩, ?_, rfl, ?_, rfl⟩
  · simp
    omega
  · simp

end Nmea

namespace Station

variable {World : Type} {devices : Devices World}

def receivedOf (past : List (Tick devices)) : Nat :=
  (past.map fun tick => tick.received.length).sum

private theorem sum_size_flushes (effects : List Sync.Effect) :
    ((effects.flatMap Sync.Effect.arrivals).map Nmea.Arrival.size).sum = 0 := by
  induction effects with
  | nil => rfl
  | cons effect rest induction =>
      rw [List.flatMap_cons, List.map_append, List.sum_append, induction]
      cases effect <;> rfl

private theorem Tick.sum_size_arrivals (tick : Tick devices) :
    (tick.arrivals.map Nmea.Arrival.size).sum = tick.received.length := by
  have bytes : (tick.received.map Nmea.Arrival.byte).map Nmea.Arrival.size =
      List.replicate tick.received.length 1 := by
    rw [List.map_map]
    exact List.map_const'
  rw [arrivals, List.map_append, List.sum_append, sum_size_flushes, bytes]
  simp

private theorem sum_size_arrivalsOf (past : List (Tick devices)) :
    ((arrivalsOf past).map Nmea.Arrival.size).sum = receivedOf past := by
  induction past with
  | nil => rfl
  | cons tick past induction =>
      rw [arrivalsOf_cons, List.map_append, List.sum_append, induction,
        tick.sum_size_arrivals, receivedOf, receivedOf, List.map_cons, List.sum_cons,
        Nat.add_comm]

private theorem Run.weight_le {timings : Sync.Timings} {past : List (Tick devices)}
    {station : Station}
    (run : Run devices timings past station) :
    station.framer.weight ≤ receivedOf past := by
  rw [run.framer_eq, framerOf, ← sum_size_arrivalsOf, ← Nat.zero_add (List.sum _)]
  exact Nmea.Framer.new.weight_frame_le (arrivalsOf past)

/-! ## A poll with checks -/

/-- What a poll computes comes to the same with checks. -/
structure Tick.Faultless (tick : Tick devices) : Prop where
  read : tick.received.length ≤ readLimit
  queued : tick.before.bytes.cells.enqueue tick.received =
    .ok ((tick.before.bytes.enqueue tick.received).1,
      (tick.before.bytes.enqueue tick.received).2.cells)
  /-- There is a buffer for the line, and any such buffer will do. -/
  buffered : ∃ buffer, tick.before.framer.IsIn buffer
  assembled : ∀ buffer, tick.before.framer.IsIn buffer →
    ∃ storage, buffer.drain tick.listening.bytes.cells tick.listening.sentences.cells =
        .ok (tick.listening.assembled.bytes.cells, storage) ∧
      storage.sentences = tick.listening.assembled.sentences.cells ∧
      tick.listening.assembled.framer.IsIn storage.buffer
  dequeued : tick.listening.assembled.sentences.cells.dequeue
      tick.listening.assembled.sentences.count =
    .ok (tick.sentences, (tick.listening.assembled.sentences.dequeue
      tick.listening.assembled.sentences.count).2.cells)
  fields : ∀ sentence ∈ tick.sentences, ∃ table,
    Nmea.fill (Array.replicate Nmea.maxFields .empty) 0 .empty sentence.bytes =
      .ok table ∧
      ∀ index,
        (table[index]?.getD .empty).text = (Nmea.Fields.ofBytes sentence.bytes).get index
  seconds : ∀ sentence ∈ tick.sentences, ∀ utc, sentence.utc? = some utc →
    Checked.signed .addition (utc + 1) = .ok (utc + 1)
  sampledDrift : ∀ sample, tick.before.sync.driftAgreement.cells.insert sample =
    .ok (tick.before.sync.driftAgreement.insert sample).cells
  sampledError : ∀ sample, tick.before.sync.errorAgreement.cells.insert sample =
    .ok (tick.before.sync.errorAgreement.insert sample).cells
  adjusted : ∀ adjustment, .applyCompensation adjustment ∈ tick.step.effects →
    ∃ rate,
      Adjustment.compute (Adjustment.direction rate) (Adjustment.partsPerMillion rate) =
        .ok adjustment ∧ adjustment.rate? = .ok adjustment.rate
  commands : ∀ index, .sendInit index ∈ tick.step.effects →
    index < Nmea.initialisation.length ∧ Checked.add index 1 = .ok (index + 1)

private theorem Tick.faultless {tick : Tick devices} (resting : tick.before.Resting)
    (counts : tick.before.framer.weight + tick.received.length < unsignedLimit) :
    tick.Faultless := by
  have byteRoom : byteCapacity < unsignedLimit := by decide
  have sentenceRoom : sentenceCapacity < unsignedLimit := by decide
  have limited : tick.received.length ≤ readLimit := length_bytesOf_le _
  have heard := tick.heard_eq resting
  have listening := tick.listens.2
  have framer : tick.listening.framer = tick.before.framer := by rw [listening]
  have waiting : tick.listening.sentences = tick.before.sentences := by rw [listening]
  have bytes : tick.listening.bytes = (tick.before.bytes.enqueue tick.received).2 := by
    rw [listening]
  have fits := Nat.le_trans limited resting.readLimit_le_available
  rcases tick.before.bytes.enqueue_of_fits fits with ⟨-, queued, kept⟩
  have count : tick.listening.bytes.count = tick.received.length := by
    rw [← Ring.length_toList, bytes, queued, resting.bytes, List.nil_append]
  refine ⟨limited, ?_, tick.before.framer.exists_isIn, fun buffer holds => ?_, ?_,
    fun sentence _ => Nmea.fill_empty sentence.bytes, fun sentence _ utc told => ?_,
    tick.before.sync.driftAgreement.insert_cells,
    tick.before.sync.errorAgreement.insert_cells, fun adjustment applies => ?_,
    fun index sends => ?_⟩
  · exact Ring.enqueue_cells _ (by rwa [resting.byteRoom]) _
  · rw [← framer] at holds counts
    rw [← count] at counts
    have room : tick.listening.sentences.capacity < unsignedLimit := by
      rwa [waiting, resting.sentenceRoom]
    rcases holds.drain counts (by rwa [bytes, kept, resting.byteRoom]) room with
      ⟨storage, drains, held⟩
    exact ⟨storage, drains, held.sentences, held.framer⟩
  · have room : tick.listening.assembled.sentences.capacity < unsignedLimit := by
      rwa [heard.2.2.2]
    rw [Ring.dequeue_cells _ room, Ring.items_dequeue_count]
    rfl
  · unfold Nmea.Sentence.utc? at told
    dsimp only at told
    split at told
    · exact Nmea.Fields.signed_next told
    · cases told
  · rcases tick.rule.exists_rate applies with ⟨rate, rfl⟩
    exact ⟨rate, Adjustment.compute_ofRate rate, Adjustment.rate?_ofRate rate⟩
  · have listed := tick.rule.of_sendInit sends
    have small : Nmea.initialisation.length < unsignedLimit := by decide
    exact ⟨listed, Checked.add_eq (by omega)⟩

/-! ## All polls of a run -/

/-- With delays and instants that a signed quantity holds, and bytes that can be counted,
no poll of a run is stopped, and none finds anything that could stop it. -/
theorem Run.neverStops {timings : Sync.Timings} {past : List (Tick devices)}
    {station : Station} (run : Run devices timings past station)
    (delays : ∀ delay ∈ timings.delays, delay ≤ signedMaximum)
    (instants : ∀ tick ∈ past, tick.now ≤ signedMaximum)
    (bytes : receivedOf past < unsignedLimit) :
    (∀ now wallTime,
      now ≤ signedMaximum → (station.poll devices now wallTime).Completes) ∧
      ∀ tick ∈ past, tick.Faultless := by
  constructor
  · intro now wallTime present world
    rcases run.exists_tick instants delays (by decide)
      (by decide) present wallTime world with
      ⟨tick, rfl, rfl, rfl, rfl⟩
    exact ⟨_, _, _, Tick.reaches_poll_iff.mpr ⟨tick, rfl, rfl, rfl, rfl, rfl, rfl, rfl⟩⟩
  · intro tick member
    rcases run.exists_suffix_of_mem member with ⟨earlier, ⟨later, rfl⟩, before⟩
    have whole : receivedOf (later ++ tick :: earlier) =
        receivedOf later + (tick.received.length + receivedOf earlier) := by
      simp [receivedOf]
    have weight := before.weight_le
    exact Tick.faultless before.resting (by omega)

def waitingIn (devices : Devices World) (polls : List (Nat × Int × World)) : Nat :=
  (polls.map fun poll => (bytesOf (devices.read poll.2.2).1).length).sum

private theorem receivedOf_eq (past : List (Tick devices)) :
    receivedOf past = waitingIn devices (past.map Tick.poll) := by
  rw [receivedOf, waitingIn, List.map_map]
  rfl

/-- A whole synchronisation, and any poll that may follow it. -/
theorem neverStops_of_steadyClock :
    ∃ (past : List (Tick Script.devices)) (station : Station),
      Run Script.devices .standard past station ∧
        past.map Tick.poll = atIntervals (List.replicate 24 (dated today)) ∧
        station.sync.phase = .waitForNextSync ∧
        (∀ delay ∈ Sync.Timings.standard.delays, delay ≤ signedMaximum) ∧
        (∀ tick ∈ past, tick.now ≤ signedMaximum) ∧ receivedOf past < unsignedLimit ∧
        (∀ now wallTime, now ≤ signedMaximum →
          (station.poll Script.devices now wallTime).Completes) ∧
        ∀ tick ∈ past, tick.Faultless := by
  have replays : ((replay? Script.devices .standard
      (atIntervals (List.replicate 24 (dated today)))).map fun run => run.2.sync.phase) =
      some .waitForNextSync := by
    decide +kernel
  have early : (atIntervals (List.replicate 24 (dated today))).all
      (fun poll => poll.1 ≤ signedMaximum) = true := by
    decide +kernel
  have few : waitingIn Script.devices (atIntervals (List.replicate 24 (dated today))) <
      unsignedLimit := by
    decide +kernel
  have delays : ∀ delay ∈ Sync.Timings.standard.delays, delay ≤ signedMaximum := by decide
  rcases Option.map_eq_some_iff.mp replays with ⟨⟨replayed, final⟩, replayed, phase⟩
  rcases exists_run_of_replay? replayed with ⟨past, station, run, polls, -, rfl⟩
  have instants : ∀ tick ∈ past, tick.now ≤ signedMaximum := by
    intro tick member
    have polled : tick.poll ∈ atIntervals (List.replicate 24 (dated today)) := by
      rw [← polls]
      exact List.mem_map_of_mem member
    exact of_decide_eq_true (List.all_eq_true.mp early tick.poll polled)
  have bytes : receivedOf past < unsignedLimit := by
    rw [receivedOf_eq, polls]
    exact few
  have stopless := run.neverStops delays instants bytes
  exact ⟨past, station, run, polls, phase, delays, instants, bytes, stopless.1,
    stopless.2⟩

end Station

end ClockDiscipline
