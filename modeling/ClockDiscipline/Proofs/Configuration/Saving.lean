import ClockDiscipline.Configuration.Counting
import ClockDiscipline.Proofs.Configuration.Loading

/-!
Saving a configuration. It is written as sections in order, which are read back as they
were.
-/

namespace ClockDiscipline.Configuration

open Toml (Scalar IsBare Line Block keyLine headerLine naturalText?)

/-! ## Sections of a configuration -/

def sections : List (String × List Setting) :=
  [("serial", [.port, .baudRate]),
    ("pps", [.device, .installCommand, .removeCommand]),
    ("sync",
      [.syncPeriod, .driftMeasurementPeriod, .initStepDelay, .firstFixSettle,
        .timeSetSettle, .pollIntervalMilliseconds, .hardwareClockCommand]),
    ("logging", [.level, .logFile])]

/-- What a configuration has for some settings, without those that are absent. -/
def presentIn (configuration : Configuration) (settings : List Setting) :
    List (String × Scalar) :=
  settings.filterMap fun setting => (setting.scalar? configuration).map (setting.key, ·)

def blocks (configuration : Configuration) : List Block :=
  sections.map fun (heading, settings) => ⟨heading, configuration.presentIn settings⟩

/-- Numbers that are within their types, and not too large for the format. -/
structure IsInRange (configuration : Configuration) : Prop where
  baudRate : configuration.serial.baudRate < 0x100000000
  syncPeriod : configuration.sync.syncPeriod ≤ signedMaximum
  driftMeasurementPeriod : configuration.sync.driftMeasurementPeriod ≤ signedMaximum
  initStepDelay : configuration.sync.initStepDelay ≤ signedMaximum
  firstFixSettle : configuration.sync.firstFixSettle ≤ signedMaximum
  timeSetSettle : configuration.sync.timeSetSettle ≤ signedMaximum
  pollInterval : configuration.sync.pollIntervalMilliseconds ≤ signedMaximum

variable {configuration : Configuration}

private theorem given?_blocks (configuration : Configuration) (setting : Setting) :
    setting.given? (Block.document configuration.blocks) =
      setting.value? configuration := by
  rcases configuration with ⟨serial, ⟨device, install, remove⟩, sync, ⟨level, logFile⟩⟩
  cases setting with
  | installCommand => cases install <;> cases remove <;> rfl
  | removeCommand => cases install <;> cases remove <;> rfl
  | logFile => cases logFile <;> rfl
  | _ => rfl

private theorem value?_standard_of_absent {setting : Setting}
    (absent : setting.value? configuration = none) : setting.value? .standard = none := by
  cases setting with
  | installCommand => rfl
  | removeCommand => rfl
  | logFile => rfl
  | _ => cases absent

private theorem isReplaced_blocks (configuration : Configuration) :
    IsReplaced (Block.document configuration.blocks) configuration := by
  intro setting
  rw [given?_blocks]
  cases present : setting.value? configuration with
  | none => exact (value?_standard_of_absent present).symm
  | some value => rfl

private theorem IsInRange.fits (range : configuration.IsInRange) {setting : Setting}
    {scalar : Scalar} (present : setting.scalar? configuration = some scalar) :
    scalar.Fits ∧ setting.kind.admits scalar.value = true := by
  have natural {value limit : Nat} (fits : value ≤ signedMaximum)
      (below : value < limit) :
      (Scalar.natural value).Fits ∧
        (Setting.Kind.natural limit).admits (Scalar.natural value).value = true :=
    ⟨fits, by simpa [Setting.Kind.admits, Scalar.value] using below⟩
  have seconds {value : Nat} (fits : value ≤ signedMaximum) :=
    natural fits
      (Nat.lt_of_le_of_lt fits (by decide : signedMaximum < 0x10000000000000000))
  cases setting with
  | baudRate =>
      cases present
      exact natural (Nat.le_trans range.baudRate.le (by decide)) range.baudRate
  | syncPeriod => cases present; exact seconds range.syncPeriod
  | driftMeasurementPeriod => cases present; exact seconds range.driftMeasurementPeriod
  | initStepDelay => cases present; exact seconds range.initStepDelay
  | firstFixSettle => cases present; exact seconds range.firstFixSettle
  | timeSetSettle => cases present; exact seconds range.timeSetSettle
  | pollIntervalMilliseconds => cases present; exact seconds range.pollInterval
  | installCommand =>
      rcases Option.map_eq_some_iff.mp present with ⟨text, -, rfl⟩
      exact ⟨trivial, rfl⟩
  | removeCommand =>
      rcases Option.map_eq_some_iff.mp present with ⟨text, -, rfl⟩
      exact ⟨trivial, rfl⟩
  | logFile =>
      rcases Option.map_eq_some_iff.mp present with ⟨text, -, rfl⟩
      exact ⟨trivial, rfl⟩
  | _ => cases present; exact ⟨trivial, rfl⟩

private theorem isAdmitted_blocks (range : configuration.IsInRange) :
    IsAdmitted (Block.document configuration.blocks) := by
  constructor
  · intro setting
    cases setting <;> rfl
  · intro setting
    rw [given?_blocks, Setting.value?, Option.all_eq_true]
    intro value given
    rcases Option.map_eq_some_iff.mp given with ⟨scalar, present, rfl⟩
    exact (range.fits present).2

private theorem keys_presentIn (settings : List Setting) :
    ((configuration.presentIn settings).map Prod.fst).Sublist
      (settings.map Setting.key) := by
  induction settings with
  | nil => exact List.nil_sublist _
  | cons setting settings induction =>
      rw [presentIn, List.filterMap_cons, ← presentIn]
      cases setting.scalar? configuration with
      | none => exact induction.cons _
      | some scalar => exact induction.cons_cons _

private theorem headings_blocks (configuration : Configuration) :
    configuration.blocks.map Block.heading = sections.map Prod.fst := by
  rw [blocks, List.map_map]
  rfl

private theorem fits_blocks (range : configuration.IsInRange) :
    ∀ block ∈ configuration.blocks, block.Fits := by
  have bare (setting : Setting) : IsBare setting.key := by cases setting <;> decide
  have proper : ∀ entry ∈ sections, IsBare entry.1 ∧ (entry.2.map Setting.key).Nodup := by
    decide
  rw [blocks, List.forall_mem_map]
  intro entry among
  refine ⟨(proper entry among).1, ?_,
    (keys_presentIn entry.2).nodup (proper entry among).2⟩
  intro item member
  rcases List.mem_filterMap.mp member with ⟨setting, -, shown⟩
  rcases Option.map_eq_some_iff.mp shown with ⟨scalar, present, rfl⟩
  exact ⟨bare setting, (range.fits present).1⟩

/-! ## Texts -/

def linesOf (configuration : Configuration) (settings : List Setting) : List Char :=
  (configuration.presentIn settings).flatMap fun (key, scalar) =>
    keyLine key scalar.written

private theorem linesOf_nil : configuration.linesOf [] = [] := rfl

private theorem linesOf_cons (setting : Setting) (settings : List Setting) :
    configuration.linesOf (setting :: settings) =
      ((setting.scalar? configuration).elim [] fun scalar =>
        keyLine setting.key scalar.written) ++
        configuration.linesOf settings := by
  rw [linesOf, presentIn, List.filterMap_cons, ← presentIn]
  cases setting.scalar? configuration with
  | none => rfl
  | some scalar => rfl

private theorem written_lines (heading : String) (settings : List Setting) :
    (Block.lines ⟨heading, configuration.presentIn settings⟩).flatMap Line.written =
      headerLine heading ++ configuration.linesOf settings := by
  rw [Block.lines, List.flatMap_cons, List.flatMap_map]
  rfl

private theorem optionalLine_eq (key : String) (value : Option String) :
    optionalLine key value =
      (value.map Scalar.text).elim [] fun scalar => keyLine key scalar.written := by
  cases value with
  | none => rfl
  | some value => rfl

private theorem naturalLine?_eq (key : String) {value : Nat}
    (fits : value ≤ signedMaximum) :
    naturalLine? key value = some (keyLine key (Scalar.natural value).written) := by
  rw [naturalLine?, naturalText?, if_pos fits]
  rfl

section Sections

variable (range : configuration.IsInRange)

include range

private theorem serialText?_eq :
    serialText? configuration.serial =
      some (headerLine "serial" ++ configuration.linesOf [.port, .baudRate]) := by
  have fits : configuration.serial.baudRate ≤ signedMaximum :=
    Nat.le_trans range.baudRate.le (by decide)
  rw [serialText?, naturalLine?_eq _ fits]
  simp [linesOf_cons, linesOf_nil, Setting.scalar?, Setting.key, textLine, Scalar.written]

private theorem syncText?_eq :
    syncText? configuration.sync =
      some (headerLine "sync" ++
        configuration.linesOf [.syncPeriod, .driftMeasurementPeriod,
        .initStepDelay, .firstFixSettle, .timeSetSettle, .pollIntervalMilliseconds,
        .hardwareClockCommand]) := by
  rw [syncText?, naturalLine?_eq _ range.syncPeriod,
    naturalLine?_eq _ range.driftMeasurementPeriod, naturalLine?_eq _ range.initStepDelay,
    naturalLine?_eq _ range.firstFixSettle, naturalLine?_eq _ range.timeSetSettle,
    naturalLine?_eq _ range.pollInterval]
  simp [linesOf_cons, linesOf_nil, Setting.scalar?, Setting.key, textLine, Scalar.written]

end Sections

private theorem pulseText_eq : pulseText configuration.pulse =
    headerLine "pps" ++
      configuration.linesOf [.device, .installCommand, .removeCommand] := by
  rw [pulseText, optionalLine_eq, optionalLine_eq]
  simp [linesOf_cons, linesOf_nil, Setting.scalar?, Setting.key, textLine, Scalar.written]

private theorem loggingText_eq : loggingText configuration.logging =
    headerLine "logging" ++ configuration.linesOf [.level, .logFile] := by
  rw [loggingText, optionalLine_eq]
  simp [linesOf_cons, linesOf_nil, Setting.scalar?, Setting.key, textLine, Scalar.written]

private theorem toText?_eq (range : configuration.IsInRange) :
    configuration.toText? = some (Block.text configuration.blocks) := by
  rw [toText?, serialText?_eq range, syncText?_eq range, pulseText_eq, loggingText_eq]
  simp only [Option.bind_eq_bind, Option.bind_some]
  -- The empty lines between the sections stand alike on both sides.
  refine congrArg (fun characters => some (String.ofList characters)) ?_
  simp [blocks, sections, Block.layout, List.flatMap_append, written_lines, Line.written]

/-! ## Files -/

section Files

variable {World : Type} {host : Host (StateM World)} {path : String} {world : World}

/-- Save a configuration, and load what was saved. -/
def saveAndLoad {m : Type → Type} [Monad m] (configuration : Configuration)
    (host : Host m)
    (path : String) : m (Except Failure Configuration) := do
  match ← configuration.save host path with
  | .error failure => return .error failure
  | .ok () => load host path

private theorem exists_saved (range : configuration.IsInRange)
    (keeps : host.Keeps path world) :
    ∃ after, configuration.save host path world = (.ok (), after) ∧
      Holds host path after (Block.document configuration.blocks) := by
  have distinct : (configuration.blocks.map Block.heading).Nodup := by
    rw [headings_blocks]
    decide
  rcases exists_holds keeps (fits_blocks range) distinct (isAdmitted_blocks range) with
    ⟨after, written, holds⟩
  refine ⟨after, ?_, holds⟩
  rw [save, toText?_eq range]
  change ((host.writeText path (Block.text configuration.blocks) world).1.mapError _,
    (host.writeText path (Block.text configuration.blocks) world).2) = _
  rw [written]
  rfl

/-- What is saved is loaded as it was, whatever its texts hold. -/
theorem saveAndLoad_eq (usable : configuration.IsUsable) (range : configuration.IsInRange)
    (keeps : host.Keeps path world) :
    (configuration.saveAndLoad host path world).1 = .ok configuration := by
  rcases exists_saved range keeps with ⟨after, saved, holds⟩
  have loads : configuration.saveAndLoad host path world = load host path after := by
    dsimp only [saveAndLoad, bind, StateT.bind]
    rw [saved]
  rw [loads, holds.load_of_replaced (isReplaced_blocks configuration),
    flaw?_eq_none_iff.mpr usable, Option.elim_none]

def intricateConfiguration : Configuration where
  serial := ⟨"C:\\gps \"one\"", 0xffffffff⟩
  pulse := ⟨"\n\'\'\'\n\"\"\"\n\\", some "", none⟩
  sync := ⟨0x7fffffffffffffff, 1, 0, 0, 0, 1, "\x00\t\r\n\x1f\x7f é \"\"\" \'\'\'"⟩
  logging := ⟨"", some (String.ofList (List.replicate 1000 '"'))⟩

theorem saveAndLoad_of_intricateTexts :
    intricateConfiguration.IsUsable ∧ intricateConfiguration.IsInRange ∧
      Machine.host.Keeps "gps" .bare ∧
      (intricateConfiguration.saveAndLoad Machine.host "gps" .bare).1 =
        .ok intricateConfiguration := by
  have usable : intricateConfiguration.IsUsable := flaw?_eq_none_iff.mp (by decide)
  have range : intricateConfiguration.IsInRange := by constructor <;> decide
  exact ⟨usable, range, Machine.keeps_bare,
    saveAndLoad_eq usable range Machine.keeps_bare⟩

/-! ## Counted quotes -/

/-- A text has more equal quotes in a row than can be counted below a limit. -/
def HasQuoteRun (limit : Nat) (text : String) : Prop :=
  ∃ quote ∈ ['"', '\''], List.replicate limit quote <:+: text.toList

private theorem isCountable_iff {limit : Nat} (positive : 0 < limit) :
    configuration.isCountable limit = true ↔
      ∀ text ∈ configuration.texts, ¬HasQuoteRun limit text := by
  obtain ⟨longest, rfl⟩ := Nat.exists_eq_add_one.mpr positive
  have short (quote : Char) (text : List Char) :
      Toml.longestRun quote 0 0 text < longest + 1 ↔
        ¬List.replicate (longest + 1) quote <:+: text :=
    Nat.lt_succ_iff.trans Toml.longestRun_le_iff
  rw [isCountable, List.all_eq_true]
  refine forall₂_congr fun text _ => ?_
  rw [Bool.and_eq_true, decide_eq_true_eq, decide_eq_true_eq, short, short, HasQuoteRun]
  simp

/-- Counting changes nothing where no text reaches the limit. Otherwise nothing is
written. -/
theorem saveWithin_eq (range : configuration.IsInRange) {limit : Nat}
    (positive : 0 < limit) :
    ((∀ text ∈ configuration.texts, ¬HasQuoteRun limit text) →
      configuration.saveWithin limit host path world =
        ((configuration.save host path world).map .ok id)) ∧
    (¬(∀ text ∈ configuration.texts, ¬HasQuoteRun limit text) →
      configuration.saveWithin limit host path world = (.error .addition, world)) := by
  rw [← isCountable_iff positive, saveWithin, toText?_eq range, Option.isNone_some,
    Bool.false_or]
  constructor
  · intro countable
    rw [if_pos countable]
    rfl
  · intro uncountable
    rw [if_neg uncountable]
    rfl

end Files

end ClockDiscipline.Configuration
