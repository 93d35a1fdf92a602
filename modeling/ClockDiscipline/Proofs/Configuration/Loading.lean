import ClockDiscipline.Configuration.Files
import ClockDiscipline.Proofs.Configuration.Settings
import ClockDiscipline.Proofs.Host.Files
import ClockDiscipline.Proofs.Toml.Documents

/-!
Loading a configuration. What a document gives replaces the defaults, in whatever order it
stands and whatever else stands beside it, and the result is refused exactly if the
program cannot work with it.
-/

namespace ClockDiscipline.Configuration

open Toml (Entries Origin Block)

/-! ## What is refused -/

structure IsUsable (configuration : Configuration) : Prop where
  port : configuration.serial.port ≠ ""
  baudRate : configuration.serial.baudRate ≠ 0
  device : configuration.pulse.device ≠ ""
  syncPeriod : configuration.sync.syncPeriod ≠ 0
  driftMeasurementPeriod : configuration.sync.driftMeasurementPeriod ≠ 0
  pollInterval : configuration.sync.pollIntervalMilliseconds ≠ 0

theorem flaw?_eq_none_iff {configuration : Configuration} :
    configuration.flaw? = none ↔ configuration.IsUsable := by
  constructor
  · intro flawless
    unfold flaw? at flawless
    split_ifs at flawless with port baudRate device syncPeriod driftPeriod pollInterval
    exact ⟨port, baudRate, device, syncPeriod, driftPeriod, pollInterval⟩
  · intro usable
    rw [flaw?, if_neg usable.port, if_neg usable.baudRate, if_neg usable.device,
      if_neg usable.syncPeriod, if_neg usable.driftMeasurementPeriod,
      if_neg usable.pollInterval]

private theorem exists_flaw {configuration : Configuration}
    (unusable : ¬configuration.IsUsable) :
    ∃ flaw, configuration.flaw? = some flaw :=
  Option.ne_none_iff_exists'.mp (mt flaw?_eq_none_iff.mp unusable)

private theorem ofText_eq {text : String} {configuration : Configuration}
    (read : Toml.parse? text >>= ofDocument? = some configuration) :
    ofText text =
      configuration.flaw?.elim (.ok configuration) fun flaw =>
        .error (.invalid flaw) := by
  rw [ofText, read]
  dsimp only
  cases configuration.flaw? with
  | none => rfl
  | some flaw => rfl

/-! ## Documents that give the same -/

/-- A section that changes no default: it is missing or empty, or it gives every default
that there is. -/
inductive LeavesDefaults (document : Entries) (heading : String) : Prop where
  | missing (absent : document.find? heading = none)
  | empty {origin : Origin} (stands : document.find? heading = some (.table origin []))
  | explicit {origin : Origin} {entries : Entries}
      (stands : document.find? heading = some (.table origin entries))
      (given : ∀ setting : Setting, setting.heading = heading →
        entries.find? setting.key = setting.value? .standard)

private theorem LeavesDefaults.given?_or {document : Entries} {setting : Setting}
    (leaves : LeavesDefaults document setting.heading) :
    (setting.given? document).or (setting.value? .standard) =
      setting.value? .standard := by
  rw [Setting.given?, entriesIn]
  cases leaves with
  | missing absent =>
      rw [absent]
      rfl
  | empty stands =>
      rw [stands]
      rfl
  | explicit stands given =>
      rw [stands]
      dsimp only
      rw [given setting rfl, Option.or_self]

/-- In each section, both leave the defaults or both give the same settings. -/
def GiveTheSame (left right : Entries) : Prop :=
  ∀ setting : Setting,
    LeavesDefaults left setting.heading ∧ LeavesDefaults right setting.heading ∨
      setting.given? left = setting.given? right

private theorem GiveTheSame.isReplaced {left right : Entries}
    {configuration : Configuration}
    (same : GiveTheSame left right) (replaced : IsReplaced left configuration) :
    IsReplaced right configuration := by
  intro setting
  rw [replaced setting]
  rcases same setting with ⟨leavesLeft, leavesRight⟩ | same
  · rw [leavesLeft.given?_or, leavesRight.given?_or]
  · rw [same]

/-! ## Files -/

section Files

variable {World : Type} {host : Host (StateM World)} {path : String} {world : World}
  {document : Entries}

/-- A file holds a document, and what the document gives for the settings is of their
kinds. -/
structure Holds (host : Host (StateM World)) (path : String) (world : World)
    (document : Entries) : Prop where
  text : ∃ text,
    (host.readText path world).1 = .ok text ∧ Toml.parse? text = some document
  admitted : IsAdmitted document

private theorem load_eq {text : String} (held : (host.readText path world).1 = .ok text) :
    (load host path world).1 = ofText text := by
  change ofContent (host.readText path world).1 = ofText text
  rw [held]
  rfl

theorem Holds.load_of_replaced {configuration : Configuration}
    (holds : Holds host path world document)
    (replaced : IsReplaced document configuration) :
    (load host path world).1 =
      configuration.flaw?.elim (.ok configuration) fun flaw =>
        .error (.invalid flaw) := by
  rcases holds.text with ⟨text, held, parsed⟩
  rcases exists_ofDocument? holds.admitted with ⟨other, read, otherReplaced⟩
  rw [otherReplaced.unique replaced] at read
  rw [load_eq held, ofText_eq]
  rw [parsed, Option.bind_eq_bind, Option.bind_some, read]

/-- A file that keeps texts can hold any sections of admitted values. -/
theorem exists_holds (keeps : host.Keeps path world) {blocks : List Block}
    (fits : ∀ block ∈ blocks, block.Fits) (distinct : (blocks.map Block.heading).Nodup)
    (admitted : IsAdmitted (Block.document blocks)) :
    ∃ after, host.writeText path (Block.text blocks) world = (.ok (), after) ∧
      Holds host path after (Block.document blocks) := by
  rcases keeps (Block.text blocks) with ⟨after, written, read⟩
  exact ⟨after, written, ⟨_, read, Block.parse?_text fits distinct⟩, admitted⟩

/-- A file with a document of admitted values is loaded as the standard configuration with
the values that are given, if the program can work with it, and refused otherwise. Nothing
else of the document counts. -/
theorem load_replaces (holds : Holds host path world document) :
    ∃ configuration, IsReplaced document configuration ∧
      (configuration.IsUsable → (load host path world).1 = .ok configuration) ∧
      (¬configuration.IsUsable → ∃ flaw, configuration.flaw? = some flaw ∧
        (load host path world).1 = .error (.invalid flaw)) ∧
      ∀ (otherPath : String) (otherWorld : World) (other : Entries),
        Holds host otherPath otherWorld other → GiveTheSame document other →
          (load host otherPath otherWorld).1 = (load host path world).1 := by
  rcases exists_ofDocument? holds.admitted with ⟨configuration, -, replaced⟩
  have loaded := holds.load_of_replaced replaced
  refine ⟨configuration, replaced, ?_, ?_, ?_⟩
  · intro usable
    rw [loaded, flaw?_eq_none_iff.mpr usable, Option.elim_none]
  · intro unusable
    rcases exists_flaw unusable with ⟨flaw, flawed⟩
    exact ⟨flaw, flawed, by rw [loaded, flawed, Option.elim_some]⟩
  · intro otherPath otherWorld other otherHolds same
    rw [otherHolds.load_of_replaced (same.isReplaced replaced), loaded]

end Files

/-- Sections in reverse order. One is unknown, one is missing and one is empty. -/
def reversedBlocks : List Block :=
  [⟨"logging", [("log_file", .text "/var/log/\"clock\".log")]⟩,
    ⟨"terminal", [("baud_rate", .text "none")]⟩,
    ⟨"sync", [("colour", .natural 1), ("poll_interval_ms", .natural 20),
      ("sync_period", .natural 7200)]⟩,
    ⟨"pps", []⟩]

def explicitBlocks : List Block :=
  [⟨"serial", [("port", .text "/dev/ttyS0"), ("baud_rate", .natural 4800)]⟩,
    ⟨"pps", [("device", .text "/dev/gps_pps")]⟩,
    ⟨"sync", [("sync_period", .natural 7200), ("poll_interval_ms", .natural 20)]⟩,
    ⟨"logging", [("log_file", .text "/var/log/\"clock\".log")]⟩]

def replacedConfiguration : Configuration :=
  { standard with
    sync :=
      { SyncSettings.standard with syncPeriod := 7200, pollIntervalMilliseconds := 20 }
    logging := { LogSettings.standard with logFile := some "/var/log/\"clock\".log" } }

private theorem giveTheSame_explicitBlocks :
    GiveTheSame (Block.document reversedBlocks) (Block.document explicitBlocks) := by
  have serial : LeavesDefaults (Block.document explicitBlocks) "serial" := by
    refine .explicit rfl fun setting within => ?_
    cases setting with
    | port => rfl
    | baudRate => rfl
    | _ => exact absurd within (by decide)
  have pulse : LeavesDefaults (Block.document explicitBlocks) "pps" := by
    refine .explicit rfl fun setting within => ?_
    cases setting with
    | device => rfl
    | installCommand => rfl
    | removeCommand => rfl
    | _ => exact absurd within (by decide)
  intro setting
  cases setting with
  | port => exact .inl ⟨.missing rfl, serial⟩
  | baudRate => exact .inl ⟨.missing rfl, serial⟩
  | device => exact .inl ⟨.empty rfl, pulse⟩
  | installCommand => exact .inl ⟨.empty rfl, pulse⟩
  | removeCommand => exact .inl ⟨.empty rfl, pulse⟩
  | _ => exact .inr rfl

theorem load_replaces_of_reversedBlocks :
    ∃ machine other : Machine,
      Holds Machine.host "gps" machine (Block.document reversedBlocks) ∧
      Holds Machine.host "gps" other (Block.document explicitBlocks) ∧
      (load Machine.host "gps" machine).1 = .ok replacedConfiguration ∧
      (load Machine.host "gps" other).1 = .ok replacedConfiguration := by
  have admitted : IsAdmitted (Block.document reversedBlocks) :=
    ⟨fun setting => by cases setting <;> rfl, fun setting => by cases setting <;> rfl⟩
  have otherAdmitted : IsAdmitted (Block.document explicitBlocks) :=
    ⟨fun setting => by cases setting <;> rfl, fun setting => by cases setting <;> rfl⟩
  have replaced : IsReplaced (Block.document reversedBlocks) replacedConfiguration := by
    intro setting
    cases setting <;> rfl
  have usable : replacedConfiguration.IsUsable := flaw?_eq_none_iff.mp (by decide)
  rcases exists_holds Machine.keeps_bare (by decide) (by decide) admitted with
    ⟨machine, -, holds⟩
  rcases exists_holds Machine.keeps_bare (by decide) (by decide) otherAdmitted with
    ⟨other, -, otherHolds⟩
  rcases load_replaces holds with ⟨configuration, found, loads, -, alike⟩
  rw [found.unique replaced] at loads
  refine ⟨machine, other, holds, otherHolds, loads usable, ?_⟩
  rw [alike "gps" other _ otherHolds giveTheSame_explicitBlocks, loads usable]

end ClockDiscipline.Configuration
