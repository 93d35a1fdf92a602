import ClockDiscipline.Host.Machine.Devices
import ClockDiscipline.Host.Machine.Installation
import ClockDiscipline.Main
import ClockDiscipline.Proofs.Station.Outstanding
import ClockDiscipline.Proofs.Station.TimeAcceptance
import ClockDiscipline.Proofs.Station.WindowAcceptance
import ClockDiscipline.Proofs.Station.WindowOrder
import ClockDiscipline.Pulse.Control
import ClockDiscipline.Worker.Rehearsal
import ClockDiscipline.Proofs.Station.Transparency
import ClockDiscipline.Proofs.Sync.Delays
import ClockDiscipline.Proofs.Checked.Basic
import ClockDiscipline.Proofs.Checked.Queue
import ClockDiscipline.Proofs.Checked.Framing
import ClockDiscipline.Proofs.Checked.Fields
import ClockDiscipline.Proofs.Checked.Rates
import ClockDiscipline.Proofs.Station.Progress
import ClockDiscipline.Proofs.Station.Safety
import ClockDiscipline.Proofs.Sync.Schedule
import ClockDiscipline.Proofs.Station.SteadyPoll
import ClockDiscipline.Proofs.Station.FirstSynchronisation
import ClockDiscipline.Proofs.Queue.Service
import ClockDiscipline.Proofs.Station.Completion
import ClockDiscipline.Proofs.Station.RateAcceptance
import ClockDiscipline.Proofs.Station.PseudoPulse
import ClockDiscipline.Proofs.Station.FixAge
import ClockDiscipline.Proofs.Station.Silence
import ClockDiscipline.Proofs.Sync.Preparation
import ClockDiscipline.Proofs.Sync.Precedence
import ClockDiscipline.Proofs.Framing.Recovery
import ClockDiscipline.Proofs.Station.Comparison
import ClockDiscipline.Proofs.Worker.Lifecycle
import ClockDiscipline.Proofs.Fields.Pieces
import ClockDiscipline.Proofs.Fields.Digits
import ClockDiscipline.Proofs.Calendar
import ClockDiscipline.Proofs.Fields.Instants
import ClockDiscipline.Proofs.Adjustment
import ClockDiscipline.Proofs.Agreement.Verdicts
import ClockDiscipline.Proofs.Reception.Serving
import ClockDiscipline.Proofs.Station.Publication
import ClockDiscipline.Proofs.Toml.Documents
import ClockDiscipline.Proofs.Configuration.Saving
