import ClockDiscipline.Proofs.Framing
import ClockDiscipline.Proofs.Station.Run

/-!
The queues of a station are empty between two polls. So the sentences of a poll come from
the bytes that it has read itself, and a station that hears one knows that the receiver
has power.
-/

namespace ClockDiscipline.Station

variable {World : Type} {devices : Devices World}

/-! ## Reading into an empty queue -/

/-- The bytes that a read gives. A failed one gives none. -/
def bytesOf (received : Except LinkFailure Received) : List UInt8 :=
  match received with
  | .ok bytes => bytes.val
  | .error _ => []

theorem length_bytesOf_le (received : Except LinkFailure Received) :
    (bytesOf received).length ≤ readLimit := by
  cases received with
  | ok bytes => exact bytes.property
  | error failure => exact Nat.zero_le _

/-- What bytes tell about the receiver's power. -/
def listen (now : Nat) (power : ReceiverPower) (bytes : List UInt8) :
    Except Overflow ReceiverPower :=
  if bytes.isEmpty then .ok power else power.hear now

theorem receive_eq (now : Nat) (station : Station)
    (received : Except LinkFailure Received) :
    station.receive now received =
      (listen now station.power (bytesOf received)).map fun power =>
        { station with
          power
          bytes := (station.bytes.enqueue (bytesOf received)).2 } := by
  have nothing : (station.bytes.enqueue []).2 = station.bytes := by simp [Ring.enqueue]
  cases received with
  | error failure => simp [receive, bytesOf, listen, nothing, Except.map]
  | ok bytes =>
      cases silent : bytes.val.isEmpty with
      | true =>
          have none : bytes.val = [] := List.isEmpty_iff.mp silent
          simp [receive, bytesOf, listen, none, nothing, Except.map]
      | false =>
          cases station.power.hear now <;>
            simp [receive, bytesOf, listen, silent, Except.map, bind, Except.bind, pure,
              Except.pure]

/-! ## Empty queues -/

structure Resting (station : Station) : Prop where
  bytes : station.bytes.toList = []
  byteRoom : station.bytes.capacity = byteCapacity
  sentences : station.sentences.toList = []
  sentenceRoom : station.sentences.capacity = sentenceCapacity

private theorem resting_initial (timings : Sync.Timings) : (initial timings).Resting where
  bytes := rfl
  byteRoom := Ring.capacity_empty _
  sentences := rfl
  sentenceRoom := Ring.capacity_empty _

private theorem Resting.carriedOut {station : Station} (resting : station.Resting)
    (window : Option Pulse.Window) (effect : Sync.Effect) :
    (station.carriedOut window effect).Resting := by
  cases effect with
  | flushQueues => exact ⟨rfl, resting.byteRoom, rfl, resting.sentenceRoom⟩
  | _ => exact ⟨resting.bytes, resting.byteRoom, resting.sentences, resting.sentenceRoom⟩

private theorem Resting.act (effects : List Sync.Effect) :
    ∀ {station : Station} (_ : station.Resting)
    (world : World), (act devices effects station world).Resting := by
  induction effects with
  | nil => exact fun resting _ => resting
  | cons effect rest induction =>
      exact fun resting world => induction (resting.carriedOut _ effect) _

/-! ## What a poll hears -/

def heardFrom (framer : Nmea.Framer) (bytes : List UInt8) :
    Nmea.Framer × List Nmea.Sentence :=
  bytes.foldl (Nmea.collect sentenceCapacity) (framer, [])

theorem Resting.readLimit_le_available {station : Station} (resting : station.Resting) :
    readLimit ≤ station.bytes.available := by
  have idle : station.bytes.count = 0 := by
    rw [← Ring.length_toList, resting.bytes, List.length_nil]
  rw [Ring.available, resting.byteRoom, idle]
  decide

/-- Empty queues take in what one read gives and pass on what it holds. -/
theorem Resting.assembled_eq {station : Station} (resting : station.Resting)
    (power : ReceiverPower) {bytes : List UInt8} (limited : bytes.length ≤ readLimit) :
    let assembled :=
      { station with power, bytes := (station.bytes.enqueue bytes).2 : Station }.assembled
    (assembled.framer, assembled.sentences.toList) = heardFrom station.framer bytes ∧
      assembled.bytes.toList = [] ∧ assembled.bytes.capacity = byteCapacity ∧
      assembled.sentences.capacity = sentenceCapacity := by
  have fits := Nat.le_trans limited resting.readLimit_le_available
  rcases station.bytes.enqueue_of_fits fits with ⟨-, queued, room⟩
  rcases station.framer.drain_spec (station.bytes.enqueue bytes).2 station.sentences with
    ⟨contents, capacity, drained, kept⟩
  rw [queued, resting.bytes, resting.sentences, resting.sentenceRoom,
    List.nil_append] at contents
  rw [resting.sentenceRoom] at capacity
  rw [room, resting.byteRoom] at kept
  exact ⟨contents, Ring.toList_of_count_eq_zero _ drained, kept, capacity⟩

namespace Tick

variable (tick : Tick devices)

def received : List UInt8 := bytesOf (devices.read tick.world).1

theorem listens :
    listen tick.now tick.before.power tick.received = .ok tick.listening.power ∧
    tick.listening = { tick.before with
      power := tick.listening.power
      bytes := (tick.before.bytes.enqueue tick.received).2 } := by
  have read := tick.read
  rw [receive_eq] at read
  cases heard : listen tick.now tick.before.power
    (bytesOf (devices.read tick.world).1) with
  | error overflow => simp [heard, Except.map] at read
  | ok power =>
      simp only [heard, Except.map, Except.ok.injEq] at read
      rw [← read]
      exact ⟨heard, rfl⟩

theorem heard_eq (resting : tick.before.Resting) :
    (tick.listening.assembled.framer, tick.sentences) =
        heardFrom tick.before.framer tick.received ∧
      tick.listening.assembled.bytes.toList = [] ∧
      tick.listening.assembled.bytes.capacity = byteCapacity ∧
      tick.listening.assembled.sentences.capacity = sentenceCapacity := by
  unfold sentences
  rw [tick.listens.2]
  exact resting.assembled_eq _ (length_bytesOf_le _)

private theorem resting_observed (resting : tick.before.Resting) :
    tick.observed.Resting := by
  rcases tick.heard_eq resting with ⟨-, bytes, byteRoom, sentenceRoom⟩
  rcases tick.observed_eq with ⟨fix, observed⟩
  rw [observed]
  exact ⟨bytes, byteRoom, Ring.toList_of_count_eq_zero _ (Ring.count_dequeue_count _),
    sentenceRoom⟩

theorem resting_after (resting : tick.before.Resting) : tick.after.Resting :=
  (⟨(tick.resting_observed resting).bytes, (tick.resting_observed resting).byteRoom,
    (tick.resting_observed resting).sentences,
    (tick.resting_observed resting).sentenceRoom⟩ : tick.acting.Resting).act _ _

theorem powered_of_sentences (resting : tick.before.Resting)
    (heard : tick.sentences ≠ []) : tick.inputs.receiverPower = true := by
  have bytes : tick.received.isEmpty = false := by
    by_contra silent
    have none : tick.received = [] := by simpa using silent
    have nothing := congrArg Prod.snd (tick.heard_eq resting).1
    rw [none] at nothing
    exact heard nothing
  have heard := tick.listens.1
  rw [listen, bytes, if_neg Bool.false_ne_true, ReceiverPower.hear] at heard
  rcases tick.observed_eq with ⟨fix, observed⟩
  show tick.observed.power.powered = true
  rw [observed]
  cases deadline : addUnsigned tick.now powerTimeout with
  | error overflow => simp [deadline, bind, Except.bind] at heard
  | ok limit =>
      simp only [deadline, bind, Except.bind, pure, Except.pure, Except.ok.injEq] at heard
      have later : ¬limit < tick.now := by
        have sum := (addUnsigned_eq_ok_iff.mp deadline).2
        omega
      simp [← heard, ReceiverPower.watch, later]

end Tick

/-- Between the polls of any run nothing waits in the queues. -/
theorem Run.resting {timings : Sync.Timings} {past : List (Tick devices)}
    {station : Station}
    (run : Run devices timings past station) : station.Resting := by
  induction run with
  | start => exact resting_initial timings
  | poll tick run induction => exact tick.resting_after induction

end ClockDiscipline.Station
