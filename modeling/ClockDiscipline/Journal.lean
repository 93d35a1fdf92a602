/-!
The journal: what the station says about its work. An entry has a level, the component
that wrote it and one line of text.
-/

namespace ClockDiscipline

inductive Level where
  | trace
  | debug
  | info
  | warn
  | error
  deriving DecidableEq, Repr

namespace Level

def name : Level → String
  | trace => "TRACE"
  | debug => "DEBUG"
  | info => "INFO"
  | warn => "WARN"
  | error => "ERROR"

def weight : Level → Nat
  | trace => 0
  | debug => 1
  | info => 2
  | warn => 3
  | error => 4

end Level

inductive Component where
  | program
  | station
  | synchronisation
  | framing
  | reception
  | measurement
  | compensation
  | receiver
  | pulse
  | clock
  | link
  deriving DecidableEq, Repr

namespace Component

/-- The name by which a log filter addresses a component. -/
def target : Component → String
  | program => "gps_clock_sync"
  | station => "gps_clock_sync::gps_worker"
  | synchronisation => "gps_clock_sync::sync_state"
  | framing => "gps_clock_sync::assembler"
  | reception => "gps_clock_sync::fix"
  | measurement => "gps_clock_sync::measurement"
  | compensation => "gps_clock_sync::compensator"
  | receiver => "gps_clock_sync::watchdog"
  | pulse => "gps_clock_sync::pps"
  | clock => "gps_clock_sync::clock"
  | link => "gps_clock_sync::serial"

end Component

structure Entry where
  level : Level
  component : Component
  text : String
  deriving DecidableEq, Repr

namespace Entry

def debug (component : Component) (text : String) : Entry := ⟨.debug, component, text⟩
def info (component : Component) (text : String) : Entry := ⟨.info, component, text⟩
def warn (component : Component) (text : String) : Entry := ⟨.warn, component, text⟩
def error (component : Component) (text : String) : Entry := ⟨.error, component, text⟩

def line (entry : Entry) : String :=
  entry.level.name ++ " " ++ entry.text

/-- Whether a character could steer a terminal. Tabs and line ends may pass. -/
def isSteering (character : Char) : Bool :=
  "\x07\x08\x0c\x1b\x7f".toList.contains character ||
    (0x80 ≤ character.toNat && character.toNat ≤ 0x9f)

def printedCharacter (character : Char) : List Char :=
  if isSteering character then
    let digits := Nat.toDigits 16 character.toNat
    if character.toNat < 0x80 then
      '\\' :: 'x' :: List.replicate (2 - digits.length) '0' ++ digits
    else '\\' :: 'u' :: '\x7b' :: digits ++ ['\x7d']
  else [character]

def harmless (entry : Entry) : Entry :=
  { entry with text := String.ofList (entry.text.toList.flatMap printedCharacter) }

def printed (time : String) (entry : Entry) : String :=
  let padding := String.ofList (List.replicate (5 - entry.level.name.length) ' ')
  time ++ " " ++ padding ++ entry.harmless.line

example :
    (info .program "ready\x1b[0m").printed "12:00" = "12:00  INFO ready\\x1b[0m" := by
  decide +kernel

end Entry

/-! ## Writing the journal -/

/-- Work in the course of which the journal is written, to wherever whoever asks for the
work wants it to go. -/
abbrev Journaled (m : Type → Type) : Type → Type := ReaderT (Entry → m Unit) m

namespace Journaled

variable {m : Type → Type} [Monad m]

def say (entries : List Entry) : Journaled m Unit := fun write => entries.forM write

end Journaled

end ClockDiscipline
