import ClockDiscipline.Host.Machine
import ClockDiscipline.Host.Program.Shell.Evaluation
import ClockDiscipline.Text.Lossy

/-!
The machine in memory as it is usually installed: its directories, and programs that can
be run, with a shell among them. Nothing else in the library depends on what these
programs do.
-/

namespace ClockDiscipline.Machine

/-! ## Files -/

def directoryPlaces : List Place :=
  [["usr", "bin"], ["usr", "games"], ["usr", "include"], ["usr", "lib"], ["usr", "lib64"],
    ["usr", "local", "bin"], ["usr", "local", "etc"], ["usr", "local", "lib"],
    ["usr", "local", "sbin"], ["usr", "local", "share"], ["usr", "sbin"],
    ["usr", "share"], ["usr", "src"], ["var", "cache"], ["var", "lib"], ["var", "log"],
    ["var", "spool"], ["var", "tmp"], ["boot"], ["dev", "pts"], ["dev", "shm"], ["etc"],
    ["home"], ["media"], ["mnt"], ["opt"], ["proc"], ["root"], ["run"], ["srv"], ["sys"],
    ["tmp"]]

def linkPlaces : List (Place × Place) :=
  [(["bin"], ["usr", "bin"]), (["sbin"], ["usr", "sbin"]), (["lib"], ["usr", "lib"]),
    (["lib64"], ["usr", "lib64"]), (["usr", "bin", "sh"], ["usr", "bin", "dash"])]

def devicePlaces : List (Place × Device) :=
  [(["dev", "full"], .full), (["dev", "null"], .null), (["dev", "random"], .null),
    (["dev", "tty"], .absent), (["dev", "urandom"], .null), (["dev", "zero"], .null)]

def streamPlaces : List (Place × Nat) :=
  [(["dev", "stdin"], 0), (["dev", "stdout"], 1), (["dev", "stderr"], 2),
    (["dev", "fd", "0"], 0), (["dev", "fd", "1"], 1), (["dev", "fd", "2"], 2),
    (["proc", "self", "fd", "0"], 0), (["proc", "self", "fd", "1"], 1),
    (["proc", "self", "fd", "2"], 2)]

def textPlaces : List Place :=
  [["etc", "group"], ["etc", "hostname"], ["etc", "hosts"], ["etc", "passwd"],
    ["etc", "resolv.conf"]]

def workingDirectory : Place := ["work"]

def installedFiles : FileSystem where
  workingDirectory
  root :=
    let programs := (Program.simpleNames ++ Program.startingNames).filter (· ≠ "sh")
    let places : List (Place × Node) :=
      (directoryPlaces ++ [workingDirectory]).map (·, .directory []) ++
        linkPlaces.map (fun (place, target) => (place, .link target)) ++
        programs.map (["usr", "bin", ·], .program) ++
        devicePlaces.map (fun (place, kind) => (place, .device kind)) ++
        streamPlaces.map (fun (place, number) => (place, .stream number)) ++
        textPlaces.map (·, .file "localhost\n")
    places.foldl (fun root (place, node) => Node.put node place root) (.directory [])

/-! ## Programs -/

def environment : List (String × String) :=
  [("HOME", "/root"),
    ("PATH", "/usr/local/sbin:/usr/local/bin:/usr/sbin:/usr/bin:/sbin:/bin"),
    ("PWD", Program.placeText workingDirectory)]

def process (files : FileSystem) (name : String) (arguments : List String) : Process where
  files
  streams := .standard ""
  environment
  name
  arguments
  number := 1000
  ancestors := [999]
  lastProcess := 1000
  mask := 0x12
  ignored := []
  limits := []
  clock := 0

def written (finished : Finished) (opening : Nat) : String :=
  match finished.streams.openings[opening]?.map Opening.channel with
  | some (.pipe text _) => Text.Lossy.decode (Text.Latin.encode text)
  | _ => ""

def installedPrograms : Programs := fun files name arguments => do
  if (name :: arguments).any (·.toList.contains '\x00') then
    throw (.malformed "nul byte found in provided data")
  let name := Text.Latin.ofText name
  let arguments := arguments.map Text.Latin.ofText
  let program ← (Program.start files environment name arguments).mapError .errno
  let finished := Shell.runToEnd (process files name arguments) program
  return ⟨finished.status, finished.files.root, written finished 1, written finished 2⟩

def standard : Machine :=
  { bare with files := installedFiles, programs := installedPrograms }

end ClockDiscipline.Machine
