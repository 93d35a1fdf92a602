import ClockDiscipline.Proofs.Fields.Pieces
import ClockDiscipline.Proofs.Pulse.Record
import ClockDiscipline.Proofs.Station.Completion
import ClockDiscipline.Proofs.Station.FixAge

/-!
What the station publishes. A status tells the position of the sentence that confirmed the
fix last, and there is such a sentence whenever a synchronisation is completed. A position
is short enough for its slot in the record.
-/

namespace ClockDiscipline

/-! ## The size of a position -/

namespace Nmea

private theorem utf8ByteSize_ofList (characters : List Char) :
    (String.ofList characters).utf8ByteSize = width characters := by
  rw [← Pulse.length_utf8, Pulse.utf8, String.toList_ofList]
  induction characters with
  | nil => rfl
  | cons character rest induction =>
      rw [List.flatMap_cons, List.length_append, String.length_utf8EncodeChar, induction,
        width]

private theorem utf8ByteSize_decode (piece : List UInt8) :
    (Text.Latin.decode piece).utf8ByteSize = places piece := by
  rw [Text.Latin.decode, utf8ByteSize_ofList, width_eq_places]

namespace Fields

private theorem utf8ByteSize_get_le (bytes : List UInt8) (index : Nat) :
    ((Fields.ofBytes bytes).get index).utf8ByteSize ≤ maxPlaces := by
  rw [get_ofBytes]
  split
  case isTrue kept =>
    rcases kept with ⟨ended, -, narrow⟩
    have present : index < (pieces bytes).length := by omega
    have among : (pieces bytes).getD index [] ∈ (pieces bytes).take (index + 1) := by
      rw [List.getD, List.getElem?_eq_getElem present, Option.getD_some,
        List.mem_take_iff_getElem]
      exact ⟨index, by omega, rfl⟩
    rw [utf8ByteSize_decode]
    exact narrow _ among
  case isFalse => exact Nat.zero_le _

private theorem coordinate_eq (value hemisphere negativeHemisphere : String) :
    coordinate value hemisphere negativeHemisphere =
      (if hemisphere = negativeHemisphere then "-" else "") ++ value := by
  unfold coordinate
  split
  · rfl
  · exact String.empty_append.symm

private theorem utf8ByteSize_coordinate_le (bytes : List UInt8) (index : Nat)
    (hemisphere negativeHemisphere : String) :
    (coordinate ((ofBytes bytes).get index) hemisphere negativeHemisphere).utf8ByteSize ≤
      19 := by
  have narrow := utf8ByteSize_get_le bytes index
  rw [coordinate_eq, String.utf8ByteSize_append]
  have sign : (if hemisphere = negativeHemisphere then "-" else "").utf8ByteSize ≤ 1 := by
    split <;> decide
  exact Nat.add_le_add sign narrow

end Fields

end Nmea

/-! ## The latest position -/

def Fix.position (fix : Fix) : String × String := (fix.latitude, fix.longitude)

def Nmea.Sentence.position (sentence : Nmea.Sentence) : String × String :=
  let fields := Nmea.Fields.ofBytes sentence.bytes
  (fields.latitude, fields.longitude)

/-! ## Phases after the first fix -/

namespace Sync

def Phase.followsFix : Phase → Bool
  | .waitForPower => false
  | .init1 => false
  | .init2 => false
  | .init3 => false
  | .waitForFirstFix => false
  | _ => true

namespace Rule

variable {before after : State} {inputs : Inputs} {effects : List Effect}

private theorem hasFix_of_followsFix (rule : Rule before inputs effects after)
    (follows : after.phase.followsFix = true) :
    before.phase.followsFix = true ∨ inputs.hasFix = true := by
  cases rule with
  | openFirstWindow _ phase =>
      rcases phase with ⟨phase, -⟩ | phase <;> simp [phase, Phase.followsFix]
  | _ => simp_all [Phase.followsFix]

private theorem of_publishStatus (rule : Rule before inputs effects after) {time : Int}
    {error : Float} (publishes : .publishStatus time error ∈ effects) :
    time = inputs.wallTime ∧ before.phase = .measureError := by
  cases rule with
  | synchronise powered phase =>
      cases running : before.pseudoPulseRunning <;>
        simp_all [State.synchronisationEffects]
  | _ => simp_all

end Rule

end Sync

namespace Station

variable {World : Type} {devices : Devices World}

/-! ## One poll -/

/-- The latest sentence that confirmed the fix, of all that were handled. -/
def latestConfirming (past : List (Tick devices)) : Option Nmea.Sentence :=
  (past.flatMap fun tick => tick.sentences.reverse).find? Nmea.Sentence.confirmsFix

private theorem latestConfirming_cons (tick : Tick devices)
    (earlier : List (Tick devices)) :
    latestConfirming (tick :: earlier) =
      (tick.sentences.reverse.find? Nmea.Sentence.confirmsFix).or
        (latestConfirming earlier) := by
  rw [latestConfirming, List.flatMap_cons, List.find?_append, ← latestConfirming]

private theorem isSome_latestConfirming_cons (tick : Tick devices)
    {earlier : List (Tick devices)} (known : (latestConfirming earlier).isSome = true) :
    (latestConfirming (tick :: earlier)).isSome = true := by
  rw [latestConfirming_cons, Option.isSome_or, known, Bool.or_true]

/-- The fix goes back to the latest sentence that confirmed one. -/
structure GoesBack (past : List (Tick devices)) (fix : Fix) : Prop where
  position : fix.position =
    (latestConfirming past).elim Fix.initial.position Nmea.Sentence.position
  known : fix.held = true → (latestConfirming past).isSome = true

namespace GoesBack

variable {tick : Tick devices} {earlier : List (Tick devices)} {fix : Fix}

private theorem lose (goesBack : GoesBack earlier fix) : GoesBack earlier fix.lose :=
  ⟨goesBack.position, fun held => by cases held⟩

private theorem observed (goesBack : GoesBack earlier tick.before.reception.fix) :
    GoesBack (tick :: earlier) tick.observed.reception.fix := by
  have heard : GoesBack (tick :: earlier) tick.reception.fix := by
    rw [tick.fix_heard, Fix.hear_eq]
    constructor
    · rw [latestConfirming_cons]
      cases tick.sentences.reverse.find? Nmea.Sentence.confirmsFix with
      | none => exact goesBack.position
      | some sentence => rfl
    · rw [latestConfirming_cons]
      cases tick.sentences.reverse.find? Nmea.Sentence.confirmsFix with
      | none => exact goesBack.known
      | some sentence => exact fun _ => rfl
  rcases tick.fix_observed with kept | lost
  · rw [kept]
    exact heard
  · rw [lost]
    exact heard.lose

private theorem after (goesBack : GoesBack earlier tick.before.reception.fix) :
    GoesBack (tick :: earlier) tick.after.reception.fix := by
  cases clears : tick.clearsFix with
  | true =>
      rw [tick.fix_after_of_clears clears]
      exact goesBack.observed.lose
  | false =>
      rw [tick.fix_after_of_keeps clears]
      exact goesBack.observed

end GoesBack

namespace Tick

variable (tick : Tick devices)

private theorem of_publish {status : Pulse.Status}
    (publishes : .pulse (.publish status) ∈ tick.requests) :
    tick.before.sync.phase = .measureError ∧
      status.lastSynchronised = tick.wallTime ∧
      (status.latitude, status.longitude) = tick.observed.reception.fix.position := by
  rw [requests_eq] at publishes
  rcases List.mem_append.mp publishes with heard | acted
  · rcases List.mem_map.mp heard with ⟨call, member, asks⟩
    have elsewhere := tick.hears.requests call member
    rw [asks] at elsewhere
    cases elsewhere
  · rcases List.mem_flatMap.mp acted with ⟨effect, member, made⟩
    cases effect with
    | publishStatus time error =>
        rcases tick.rule.of_publishStatus member with ⟨now, phase⟩
        cases List.mem_singleton.mp made
        exact ⟨phase, now, rfl⟩
    | _ => simp [Station.requests] at made

end Tick

/-! ## All polls of a run -/

/-- The status tells the position of a sentence, whole and with a sign. -/
structure TellsPosition (status : Pulse.Status) (fields : Nmea.Fields) : Prop where
  latitude : status.latitude = (if fields.get 4 = "S" then "-" else "") ++ fields.get 3
  longitude : status.longitude = (if fields.get 6 = "W" then "-" else "") ++ fields.get 5
  short : status.latitude.utf8ByteSize ≤ 19 ∧ status.longitude.utf8ByteSize ≤ 19
  uncut : status.latitude.toByteArray.data.toList <+: Pulse.slot 1 status.record ∧
    status.longitude.toByteArray.data.toList <+: Pulse.slot 2 status.record

private theorem tellsPosition_of_position {status : Pulse.Status}
    {sentence : Nmea.Sentence}
    (told : (status.latitude, status.longitude) = sentence.position) :
    TellsPosition status (.ofBytes sentence.bytes) := by
  rcases Prod.mk.inj told with ⟨latitude, longitude⟩
  have short : status.latitude.utf8ByteSize ≤ 19 ∧
      status.longitude.utf8ByteSize ≤ 19 := by
    rw [latitude, longitude]
    exact ⟨Nmea.Fields.utf8ByteSize_coordinate_le _ 3 _ _,
      Nmea.Fields.utf8ByteSize_coordinate_le _ 5 _ _⟩
  refine ⟨latitude.trans (Nmea.Fields.coordinate_eq _ _ _),
    longitude.trans (Nmea.Fields.coordinate_eq _ _ _), short, ?_, ?_⟩
  · exact Pulse.Status.uncut_of_short rfl (by omega)
  · exact Pulse.Status.uncut_of_short rfl (by omega)

/-- What a run publishes, and what other programs read. -/
structure PublishesPositions (past : List (Tick devices)) : Prop where
  statuses : ∀ tick earlier, tick :: earlier <:+ past → ∀ status,
    .pulse (.publish status) ∈ tick.requests →
      status.lastSynchronised = tick.wallTime ∧
        ∃ sentence, latestConfirming (tick :: earlier) = some sentence ∧
          TellsPosition status (.ofBytes sentence.bytes)
  records : ∀ status : Pulse.Status, status.IsReadable

namespace Run

variable {timings : Sync.Timings} {past : List (Tick devices)} {station : Station}

private theorem goesBack (run : Run devices timings past station) :
    GoesBack past station.reception.fix := by
  induction run with
  | start => exact ⟨rfl, fun held => by cases held⟩
  | poll tick run induction => exact induction.after

private theorem isSome_latestConfirming (run : Run devices timings past station)
    (follows : station.sync.phase.followsFix = true) :
    (latestConfirming past).isSome = true := by
  induction run with
  | start => cases follows
  | poll tick run induction =>
      rcases tick.rule.hasFix_of_followsFix follows with before | hasFix
      · exact isSome_latestConfirming_cons tick (induction before)
      · exact run.goesBack.observed.known hasFix

theorem publishesPositions (run : Run devices timings past station) :
    PublishesPositions past where
  statuses tick earlier suffix status publishes := by
    rcases (run.of_suffix suffix).of_cons with ⟨before, -⟩
    rcases tick.of_publish publishes with ⟨phase, now, told⟩
    have known : (latestConfirming (tick :: earlier)).isSome = true := by
      apply isSome_latestConfirming_cons
      apply before.isSome_latestConfirming
      rw [phase]
      rfl
    rcases Option.isSome_iff_exists.mp known with ⟨sentence, latest⟩
    refine ⟨now, sentence, latest, tellsPosition_of_position ?_⟩
    rw [told, before.goesBack.observed.position, latest]
    rfl
  records := Pulse.Status.isReadable

end Run

def published? : Request → Option (Int × String × String)
  | .pulse (.publish status) =>
      some (status.lastSynchronised, status.latitude, status.longitude)
  | _ => none

def fastClockAt (position : String) : Script :=
  { fastClock with
    incoming := Text.Latin.encode
      s!"$GPRMC,134724,A,{position},0.0,0.0,{today},0,\r\n" }

/-- The receiver is still for a long time. Then it moves, and the synchronisation is
completed. -/
theorem publishesPositions_of_lateMove :
    ∃ (past : List (Tick Script.devices)) (station : Station),
      Run Script.devices everyMinute past station ∧
        past.head?.map (fun tick => tick.requests.filterMap published?) =
          some [(2200, "-4701.0000", "-00800.0000")] ∧
        PublishesPositions past := by
  have reads : ((replay? Script.devices everyMinute (atIntervals
      (List.replicate 22 (fastClockAt "4700.0000,S,00800.0000,W") ++
        [fastClockAt "4701.0000,S,00800.0000,W"]))).map fun run =>
          (run.1.head?.map fun played =>
            (played.calls.map Call.request).filterMap published?)) =
      some (some [(2200, "-4701.0000", "-00800.0000")]) := by
    decide +kernel
  rcases exists_run_of_reads reads with ⟨past, station, run, -, told⟩
  rw [List.head?_map, Option.map_map] at told
  exact ⟨past, station, run, told, run.publishesPositions⟩

end Station

end ClockDiscipline
