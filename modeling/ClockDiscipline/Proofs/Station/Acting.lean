import ClockDiscipline.Proofs.Dialogue
import ClockDiscipline.Station.Basic

/-!
What the effects of a step do. Each makes the same requests however they are answered, and
the station that follows depends on one answer only: the window that the driver has
measured.
-/

namespace ClockDiscipline

/-- What the driver tells of the window that is being closed. -/
def Devices.window? {World : Type} (devices : Devices World) (world : World) :
    Option Pulse.Window :=
  (devices.perform (.pulse .getDrift)
    (devices.after [.pulse .stopDrift] world)).answer.toOption

/-- The outcome of a window for which the driver tells `window`. -/
def DriftWindow.outcome (drift : DriftWindow) : (window : Option Pulse.Window) →
    Except Rejection Float
  | none => .error .driverFailure
  | some window => drift.judge window

namespace Station

open Dialogue

variable {World : Type} (devices : Devices World) (station : Station)

/-! ## One effect -/

def requests : Sync.Effect → List Request
  | .sendInit index => Nmea.initialisation[index]?.toList.map .write
  | .abortDrift => [.pulse .stopDrift]
  | .startDrift => [.pulse .startDrift]
  | .finishDrift => [.pulse .stopDrift, .pulse .getDrift]
  | .applyCompensation adjustment => [.adjust adjustment]
  | .persistHardwareClock => [.persist]
  | .startPseudoPulse => [.pulse .startPseudoPulse]
  | .publishStatus lastSynchronised error =>
      [.pulse (.publish (station.status lastSynchronised error))]
  | .flushQueues => []
  | .clearFix => []
  | .requestTimeSet => []
  | .startError => []

def carriedOut (window : Option Pulse.Window) : Sync.Effect → Station
  | .flushQueues =>
      { station with
        bytes := station.bytes.flush
        sentences := station.sentences.flush
        framer := station.framer.reset }
  | .clearFix =>
      { station with
        reception := { station.reception with fix := station.reception.fix.lose } }
  | .abortDrift => { station with drift := { station.drift with isOpen := false } }
  | .startDrift => { station with drift := ⟨true, false⟩ }
  | .finishDrift =>
      { station with
        drift := { station.drift with isOpen := false }
        driftResult := some (station.drift.outcome window) }
  | .requestTimeSet =>
      { station with reception := { station.reception with timeSetting := .requested } }
  | .startError =>
      { station with reception := { station.reception with clockError := ⟨true, none⟩ } }
  | _ => station

private theorem makes_askThen {request : Request}
    {continuation : request.Answer → Dialogue World Unit}
    (quiet : ∀ answer world, Makes devices (continuation answer) world () [])
    (world : World) :
    Makes devices (ask devices request >>= continuation) world () [request] :=
  (Makes.ask devices request world).bind (quiet _ _)

private theorem makes_sendCommand (index : Nat) (world : World) :
    Makes devices (sendCommand devices index) world ()
      (Nmea.initialisation[index]?.toList.map .write) := by
  unfold sendCommand
  cases Nmea.initialisation[index]? with
  | none => exact evaluatesTo_say _ _
  | some command =>
      refine .after_say _ (makes_askThen devices (fun answer _ => ?_) world)
      cases answer with
      | ok => exact .pure _ _
      | error failure => exact evaluatesTo_say _ _

private theorem makes_adjustClock (adjustment : Adjustment) (world : World) :
    Makes devices (adjustClock devices adjustment) world () [.adjust adjustment] := by
  refine .after_say _ (makes_askThen devices (fun answer _ => ?_) world)
  cases answer with
  | ok => exact .pure _ _
  | error failure => exact evaluatesTo_say _ _

private theorem makes_persistClock (world : World) :
    Makes devices (persistClock devices) world () [.persist] := by
  refine makes_askThen devices (fun answer _ => ?_) world
  cases answer with
  | ok => exact .pure _ _
  | error failure => exact evaluatesTo_say _ _

private theorem makes_flushQueues (world : World) :
    Makes devices station.flushQueues world
      { station with
        bytes := station.bytes.flush
        sentences := station.sentences.flush
        framer := station.framer.reset } [] := by
  unfold flushQueues
  cases station.bytes.isEmpty && station.sentences.isEmpty with
  | true => exact .pure _ world
  | false => exact .after_say _ (.pure _ world)

theorem makes_start (drift : DriftWindow) (world : World) :
    Makes devices (drift.start devices) world ⟨true, false⟩ [.pulse .startDrift] := by
  refine .after_say _ ?_
  exact (Makes.askPulse devices .startDrift world).returning fun _ =>
    DriftWindow.mk true false

private theorem makes_abort (drift : DriftWindow) (world : World) :
    Makes devices (drift.abort devices) world { drift with isOpen := false }
      [.pulse .stopDrift] := by
  exact (Makes.askPulse devices .stopDrift world).returning fun _ =>
    DriftWindow.mk false drift.lostFix

theorem makes_stop (drift : DriftWindow) (world : World) :
    Makes devices (drift.stop devices) world
      (drift.outcome (devices.window? world), { drift with isOpen := false })
      [.pulse .stopDrift, .pulse .getDrift] := by
  unfold DriftWindow.stop
  refine .after_say _ ((Makes.askPulse devices .stopDrift world).bind ?_)
  have asked := Makes.askPulse devices .getDrift
    (devices.after [.pulse .stopDrift] world)
  cases told : devices.window? world with
  | none =>
      rw [Devices.window?] at told
      rw [told] at asked
      exact asked.bind (.pure _ _)
  | some window =>
      rw [Devices.window?] at told
      rw [told] at asked
      exact asked.bind (.after_say _ (.pure _ _))

theorem makes_carryOut (effect : Sync.Effect) (world : World) :
    Makes devices (carryOut devices station effect) world
      (station.carriedOut (devices.window? world) effect) (station.requests effect) := by
  cases effect with
  | flushQueues => exact makes_flushQueues devices station world
  | sendInit index =>
      exact (makes_sendCommand devices index world).returning fun _ => station
  | clearFix => exact .pure _ world
  | abortDrift =>
      exact (makes_abort devices station.drift world).returning fun drift =>
        { station with drift }
  | startDrift =>
      exact (makes_start devices station.drift world).returning fun drift =>
        { station with drift }
  | finishDrift =>
      exact (makes_stop devices station.drift world).returning fun stopped =>
        { station with drift := stopped.2, driftResult := some stopped.1 }
  | requestTimeSet => exact .pure _ world
  | startError => exact .pure _ world
  | applyCompensation adjustment =>
      exact (makes_adjustClock devices adjustment world).returning fun _ => station
  | persistHardwareClock =>
      exact (makes_persistClock devices world).returning fun _ => station
  | startPseudoPulse => exact (Makes.askPulse devices _ world).returning fun _ => station
  | publishStatus lastSynchronised error =>
      exact (Makes.askPulse devices _ world).returning fun _ => station

/-! ## All effects of a step -/

/-- No effect changes what the station asks for another one. -/
@[simp] theorem requests_carriedOut (window : Option Pulse.Window)
    (effect : Sync.Effect) :
    (station.carriedOut window effect).requests = station.requests := by
  funext other
  cases effect <;> cases other <;> rfl

def act : (effects : List Sync.Effect) → Station → World → Station
  | [], station, _ => station
  | effect :: rest, station, world =>
      act rest (station.carriedOut (devices.window? world) effect)
        (devices.after (station.requests effect) world)

theorem makes_act (effects : List Sync.Effect) :
    ∀ (station : Station) (world : World),
      Makes devices (effects.foldlM (carryOut devices) station) world
        (act devices effects station world) (effects.flatMap station.requests) := by
  induction effects with
  | nil => exact fun station world => .pure station world
  | cons effect rest induction =>
      intro station world
      have continues := induction (station.carriedOut (devices.window? world) effect)
        (devices.after (station.requests effect) world)
      rw [requests_carriedOut] at continues
      rw [List.foldlM_cons, List.flatMap_cons]
      exact (makes_carryOut devices station effect world).bind continues

theorem regular_act (effects : List Sync.Effect) :
    (effects.foldlM (carryOut devices) station).Regular :=
  fun world => ⟨_, _, _, makes_act devices effects station world⟩

@[simp] theorem sync_carriedOut (window : Option Pulse.Window) (effect : Sync.Effect) :
    (station.carriedOut window effect).sync = station.sync := by
  cases effect <;> rfl

theorem part_act {Part : Type} (part : Station → Part) (effects : List Sync.Effect)
    (same : ∀ effect ∈ effects, ∀ (station : Station) (window : Option Pulse.Window),
      part (station.carriedOut window effect) = part station) :
    ∀ (station : Station) (world : World),
      part (act devices effects station world) = part station := by
  induction effects with
  | nil => exact fun _ _ => rfl
  | cons effect rest induction =>
      intro station world
      rcases List.forall_mem_cons.mp same with ⟨first, others⟩
      rw [act, induction others, first]

theorem sync_act (effects : List Sync.Effect) : ∀ (station : Station) (world : World),
    (act devices effects station world).sync = station.sync := by
  apply part_act
  intro effect _ station window
  exact sync_carriedOut station window effect

end Station

end ClockDiscipline
