import ClockDiscipline.Proofs.Station.Progress
import ClockDiscipline.Proofs.Station.Transparency
import ClockDiscipline.Proofs.Station.WindowOutcome

/-!
Polls in which all is well: the receiver has sent one whole sentence that tells a second,
no device refuses anything, and every window that is read has a rate. Such a poll finds
power and fix, serves whatever is pending, and leaves nothing pending but what its own
step asks for.
-/

namespace ClockDiscipline.Station

variable {World : Type} {devices : Devices World}

/-- The poll reads one whole sentence that tells a second, and nothing fails. -/
structure Tick.Steady (tick : Tick devices) : Prop where
  reads : ∃ sentence : Nmea.Sentence,
    tick.received = sentence.bytes ∧ sentence.IsLine ∧ sentence.utc?.isSome = true
  accepted : ∀ call ∈ tick.calls, call.accepted = true
  rated : ∀ window, ⟨.pulse .getDrift, .ok window⟩ ∈ tick.calls →
    ∃ rate, window.driftRate = .ok rate

structure Cleared (station : Station) : Prop where
  line : station.framer.line = []
  timeSetting : station.reception.timeSetting.pending = false
  clockError : station.reception.clockError = ⟨false, none⟩
  driftResult : station.driftResult = none

private theorem exists_of_accepted {call : Call} {request : Request}
    (asks : call.request = request) (accepted : call.accepted = true) :
    ∃ reply : request.Reply, call = ⟨request, .ok reply⟩ := by
  subst asks
  rcases call with ⟨request, answer⟩
  cases answer with
  | ok reply => exact ⟨reply, rfl⟩
  | error failure => cases accepted

namespace Tick

variable {tick : Tick devices}

section Hearing

variable {sentence : Nmea.Sentence}

private theorem sentences_of_isLine (resting : tick.before.Resting)
    (empty : tick.before.framer.line = []) (received : tick.received = sentence.bytes)
    (isLine : sentence.IsLine) :
    tick.acting.framer.line = [] ∧ tick.sentences = [sentence] := by
  rcases Nmea.Framer.frame_of_isLine isLine empty with ⟨line, framed⟩
  rw [← received] at line framed
  refine ⟨?_, ?_⟩
  · rw [tick.framer_acting, tick.framer_assembled resting]
    exact line
  · rw [← framed]
    refine tick.sentences_eq resting ?_
    rw [framed, List.length_singleton]
    decide

private theorem heard_alone {utc : Int} (alone : tick.sentences = [sentence])
    (told : sentence.utc? = some utc) :
    ∃ fix atPulse, tick.reception = tick.before.reception.hear fix utc atPulse ∧
      tick.hearing.map Call.request = tick.before.reception.requests utc ∧
      ∀ shown, ⟨.pulse .getTime, .ok shown⟩ ∈ tick.hearing ↔
        tick.before.reception.clockError.pending = true ∧ atPulse = some shown := by
  rcases tick.listening_eq with ⟨power, bytes, listening⟩
  have same : tick.listening.assembled.reception = tick.before.reception := by
    rw [listening]
    rfl
  have heard := tick.heard
  rw [show tick.listening.assembled.sentences.toList = [sentence] from alone,
    same] at heard
  rcases Reception.hear_of_evaluatesTo devices tick.now told heard with ⟨atPulse, hears⟩
  exact ⟨_, atPulse, hears⟩

private theorem hasFix_of_alone (alone : tick.sentences = [sentence])
    (told : sentence.utc?.isSome = true) : tick.inputs.hasFix = true := by
  have usable : (Nmea.Fields.ofBytes sentence.bytes).tag = Nmea.fixTag ∧
      (Nmea.Fields.ofBytes sentence.bytes).isActive = true := by
    by_contra unusable
    simp [Nmea.Sentence.utc?, unusable] at told
  have confirmed : tick.reception.fix =
      Reception.confirm (Nmea.Fields.ofBytes sentence.bytes) tick.now := by
    rw [tick.fix_heard, alone]
    simp [Fix.hear, Nmea.Sentence.fixAfter, usable]
  have watched := tick.watch_heard
  rw [confirmed] at watched
  show tick.observed.reception.fix.held = true
  rw [Fix.watch_lastConfirmed watched]
  rfl

end Hearing

theorem Steady.exists_rate (steady : tick.Steady)
    (finishes : .finishDrift ∈ tick.step.effects) :
    ∃ window rate,
      devices.window? tick.middle = some window ∧ window.driftRate = .ok rate := by
  have calls := tick.calls_of_finishDrift finishes
  let answer := (devices.perform (.pulse .getDrift)
    (devices.after [.pulse .stopDrift] tick.middle)).answer
  have member : ⟨.pulse .getDrift, answer⟩ ∈ tick.calls := by
    rw [calls]
    exact List.mem_append_right _ (List.mem_cons_of_mem _ (List.mem_singleton_self _))
  rcases exists_of_accepted rfl (steady.accepted _ member) with ⟨window, told⟩
  have answered : answer = .ok window := by simpa using told
  rw [answered] at member
  rcases steady.rated window member with ⟨rate, rated⟩
  refine ⟨window, rate, ?_, rated⟩
  show answer.toOption = some window
  rw [answered]
  rfl

/-- What a steady poll tells the step of synchronisation, and what it leaves to the
effects. -/
structure Informs (tick : Tick devices) : Prop where
  powered : tick.inputs.receiverPower = true
  hasFix : tick.inputs.hasFix = true
  timeSetDone : tick.before.reception.timeSetting.pending = true →
    tick.inputs.timeSetDone = true
  errorResult : tick.before.reception.clockError.pending = true →
    tick.inputs.errorResult.isSome = true
  hearing : ∃ utc, tick.hearing.map Call.request = tick.before.reception.requests utc
  cleared : tick.acting.Cleared
  drift : tick.acting.drift = tick.before.drift

theorem Steady.informs (steady : tick.Steady) (resting : tick.before.Resting)
    (empty : tick.before.framer.line = []) : tick.Informs := by
  rcases steady.reads with ⟨sentence, received, isLine, isTold⟩
  rcases Option.isSome_iff_exists.mp isTold with ⟨utc, told⟩
  rcases sentences_of_isLine resting empty received isLine with ⟨line, alone⟩
  rcases heard_alone alone told with ⟨fix, atPulse, reception, hearing, answered⟩
  have hasFix := hasFix_of_alone alone isTold
  have timeSetting := congrArg Reception.timeSetting reception
  have clockError := congrArg Reception.clockError reception
  rw [← tick.clockError_observed] at clockError
  have pulse (pending : tick.before.reception.clockError.pending = true) :
      ∃ shown, atPulse = some shown := by
    have asked : .pulse .getTime ∈ tick.hearing.map Call.request := by
      rw [hearing]
      simp [Reception.requests, pending]
    rcases List.mem_map.mp asked with ⟨call, member, asks⟩
    have accepted := steady.accepted call (List.mem_append_left _ member)
    rcases exists_of_accepted asks accepted with ⟨shown, rfl⟩
    exact ⟨shown, ((answered shown).mp member).2⟩
  refine ⟨tick.powered_of_sentences resting (by simp [alone]), hasFix, fun pending => ?_,
    fun pending => ?_, ⟨utc, hearing⟩, ⟨line, ?_, ?_, rfl⟩, ?_⟩
  · show tick.observed.reception.timeSetting.done = true
    simp [timeSetting, Reception.hear, pending, TimeSetting.served]
  · rcases pulse pending with ⟨shown, rfl⟩
    show tick.observed.reception.clockError.result.isSome = true
    rw [clockError, tick.before.reception.clockError_hear_some fix utc shown pending]
    rfl
  · show tick.observed.reception.timeSetting.pending = false
    cases pending : tick.before.reception.timeSetting.pending <;>
      simp [timeSetting, Reception.hear, pending, TimeSetting.served]
  · show (⟨tick.observed.reception.clockError.pending, none⟩ : ErrorMeasurement) =
      ⟨false, none⟩
    cases pending : tick.before.reception.clockError.pending with
    | false =>
        rw [clockError,
          tick.before.reception.clockError_hear_of_idle fix utc atPulse pending, pending]
    | true =>
        rcases pulse pending with ⟨shown, rfl⟩
        rw [clockError, tick.before.reception.clockError_hear_some fix utc shown pending]
  · show tick.observed.drift = tick.before.drift
    rw [tick.drift_observed, hasFix]
    simp [DriftWindow.observe]

end Tick

end ClockDiscipline.Station
