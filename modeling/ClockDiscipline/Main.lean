import ClockDiscipline.Startup
import Std.Time

/-!
The command line: the program on the host that runs it. This host reads and writes files
and opens devices; it neither runs commands nor sets up terminals, which it reports as not
implemented.
-/

namespace ClockDiscipline.CommandLine

def causeOf : IO.Error → HostError
  | .alreadyExists _ number _ | .interrupted _ number _ | .noFileOrDirectory _ number _
  | .invalidArgument _ number _ | .permissionDenied _ number _
  | .resourceExhausted _ number _
  | .inappropriateType _ number _ | .noSuchThing _ number _ | .otherError number _
  | .resourceBusy number _ | .resourceVanished number _ | .unsupportedOperation number _
  | .hardwareFault number _ | .unsatisfiedConstraints number _
  | .illegalOperation number _
  | .protocolError number _ | .timeExpired number _ => .errno ⟨number.toNat⟩
  | .unexpectedEof => .malformed "unexpected end of file"
  | .userError description => .malformed description

def attempt {α : Type} (action : IO α) : IO (Except HostError α) := do
  try
    return .ok (← action)
  catch failure =>
    return .error (causeOf failure)

def refused : HostError := .errno .notImplemented

def timeOfDay : IO String := do
  let now ← Std.Time.Timestamp.now
  let { date, time } := Std.Time.PlainDateTime.ofWallTime
    (.ofNanoseconds now.toNanosecondsSinceUnixEpoch)
  let two (value : Int) : String := Decimal.paddedSigned 2 value
  return s!"{Decimal.paddedSigned 4 date.year}-{two date.month.val}-{two date.day.val}T" ++
    s!"{two time.hour.val}:{two time.minute.val}:{two time.second.val}." ++
    Decimal.paddedSigned 6 (time.nanosecond.val / 1000) ++ "Z"

def host : Host IO where
  pathExists path := return (← attempt (IO.FS.Handle.mk path .read)).isOk
  readText path := return (← attempt (IO.FS.readBinFile path)) >>= fun content =>
    Host.textOfBytes content.toList
  writeText path content := attempt (IO.FS.writeFile path content)
  -- A file without a directory in its path stands in the working directory.
  createDirectories path := attempt do
    unless path.isEmpty do IO.FS.createDirAll path
  appendText path content := attempt do
    let file ← IO.FS.Handle.mk path .append
    file.putStr content
  run _ _ := return .error refused
  openDevice path := attempt do
    let _ ← IO.FS.Handle.mk path .readWrite
  saveTerminal _ := return .error refused
  openTerminal _ _ := return .error Errno.notImplemented.description
  printLine line := IO.println line
  stamp entry := return entry.printed (← timeOfDay)

def run (arguments : List String) : IO UInt32 := do
  let invocation := ⟨arguments, ← IO.getEnv "RUST_LOG"⟩
  match ← (Startup.run host invocation).run with
  | .ok _ => return 0
  | .error failure =>
      IO.eprintln failure.report
      return failure.exitCode.toUInt32

end ClockDiscipline.CommandLine

def main (arguments : List String) : IO UInt32 :=
  ClockDiscipline.CommandLine.run arguments
