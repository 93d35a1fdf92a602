import ClockDiscipline.Host.Errno
import ClockDiscipline.Host.Path
import ClockDiscipline.Host.Table
import ClockDiscipline.Text.Latin

/-!
A file system in memory: a tree of named nodes. A path is walked from the root or from a
working directory. Each step needs a directory to stand in, and a link on the way leads to
another place.

Names, paths and contents are bytes, one for a character. The operations at the end take
and give texts instead, which are stored as UTF-8.
-/

namespace ClockDiscipline

abbrev Place := List String

inductive Device where
  | null
  | full
  | absent
  deriving DecidableEq, Repr

inductive Node where
  | directory (entries : List (String × Node))
  | file (content : String)
  | program
  | device (kind : Device)
  | terminal
  | stream (descriptor : Nat)
  | link (target : Place)

namespace Node

def isDirectory : Node → Bool
  | directory _ => true
  | _ => false

def entries : Node → List (String × Node)
  | directory entries => entries
  | _ => []

def put (new : Node) : Place → Node → Node
  | [], _ => new
  | name :: rest, node =>
      let below := (node.entries.lookup name).getD (.directory [])
      .directory (Table.put name (put new rest below) node.entries)

def erase : Place → Node → Node
  | [], node => node
  | [name], node => .directory (Table.erase name node.entries)
  | name :: rest, node =>
      match node.entries.lookup name with
      | some below => .directory (Table.put name (erase rest below) node.entries)
      | none => node

end Node

structure FileSystem where
  root : Node
  workingDirectory : Place

namespace FileSystem

/-! ## Walking -/

/-- A walk so far: the names that led to where it stands, what is there, and the nodes on
the way. The nearest come first. -/
structure Walk where
  names : List String
  node : Option Node
  above : List Node

namespace Walk

def place (walk : Walk) : Place := walk.names.reverse

def down (walk : Walk) (name : String) : Walk :=
  ⟨name :: walk.names, walk.node.bind (·.entries.lookup name),
    walk.node.toList ++ walk.above⟩

def up (walk : Walk) : Walk :=
  match walk.above with
  | node :: above => ⟨walk.names.tail, some node, above⟩
  | [] => walk

end Walk

def goTo (files : FileSystem) (place : Place) : Walk :=
  place.foldl Walk.down ⟨[], some files.root, []⟩

def node? (files : FileSystem) (place : Place) : Option Node := (files.goTo place).node

def maxNameSize : Nat := 255

def pathLimit : Nat := 4096

/-- The names along a path. A slash at the end asks for a directory, as a dot does. -/
def names (path : String) : List String :=
  let parts := path.splitOn "/"
  parts.filter (· ≠ "") ++ if parts.getLast? = some "" ∧ path ≠ "" then ["."] else []

def follow (files : FileSystem) (walk : Walk) : Walk :=
  match walk.node with
  | some (.link target) => files.goTo target
  | _ => walk

/-- One step of a walk: where a name leads, whether or not there is anything. -/
def enter (files : FileSystem) (walk : Walk) (name : String) : Except Errno Walk :=
  let walk := files.follow walk
  match walk.node with
  | none => .error .noSuchEntry
  | some node =>
      if node.isDirectory then
        if name = "." then .ok walk
        else if name = ".." then .ok walk.up
        else if maxNameSize < name.length then .error .nameTooLong
        else .ok (walk.down name)
      else .error .notADirectory

def walk (files : FileSystem) (path : String) (names : List String) :
    Except HostError Walk :=
  if path.toList.contains '\x00' then
    .error (.malformed "file name contained an unexpected NUL byte")
  else if path = "" then
    .error (.errno .noSuchEntry)
  else if pathLimit ≤ path.length then
    .error (.errno .nameTooLong)
  else
    let start := if path.startsWith "/" then [] else files.workingDirectory
    (names.foldlM files.enter (files.goTo start)).mapError .errno

/-- Where a path leads. Only its last name may be missing. -/
def resolve (files : FileSystem) (path : String) : Except HostError Walk :=
  return files.follow (← files.walk path (names path))

def lookup (files : FileSystem) (path : String) : Except HostError Node := do
  match (← files.resolve path).node with
  | some node => return node
  | none => throw (.errno .noSuchEntry)

def pathExists (files : FileSystem) (path : String) : Bool := (files.lookup path).isOk

def isDirectory (files : FileSystem) (path : String) : Bool :=
  match files.lookup path with
  | .ok node => node.isDirectory
  | .error _ => false

def lookupLink (files : FileSystem) (path : String) : Except HostError Node := do
  match (← files.walk path (names path)).node with
  | some node => return node
  | none => throw (.errno .noSuchEntry)

def areSame (files : FileSystem) (left right : String) : Bool :=
  match files.resolve left, files.resolve right with
  | .ok first, .ok second => first.node.isSome && first.place = second.place
  | _, _ => false

/-! ## Files -/

def read (files : FileSystem) (path : String) : Except HostError String := do
  match ← files.lookup path with
  | .directory _ => throw (.errno .isADirectory)
  | .file content => return content
  | _ => return ""

def put (files : FileSystem) (place : Place) (node : Node) : FileSystem :=
  { files with root := Node.put node place files.root }

/-- Where a file to be written lies. A new name needs a directory around it, and a slash
behind the name asks for a directory, which cannot be written. -/
def writable (files : FileSystem) (path : String) : Except HostError (Place × Node) := do
  if path.endsWith "/" then
    match (files.follow (← files.walk path (names path).dropLast.dropLast)).node with
    | some (.directory _) => throw (.errno .isADirectory)
    | some _ => throw (.errno .notADirectory)
    | none => throw (.errno .noSuchEntry)
  let walk ← files.resolve path
  match walk.node with
  | some (.directory _) => throw (.errno .isADirectory)
  | some node => return (walk.place, node)
  | none => return (walk.place, .file "")

def write (files : FileSystem) (path content : String) : Except HostError FileSystem := do
  match ← files.writable path with
  | (place, .file _) => return files.put place (.file content)
  | (place, .program) => return files.put place (.file content)
  | _ => return files

def append (files : FileSystem) (path content : String) :
    Except HostError FileSystem := do
  match ← files.writable path with
  | (place, .file existing) => return files.put place (.file (existing ++ content))
  | _ => return files

/-! ## Directories -/

def makeDirectory (files : FileSystem) (path : String) : Except HostError FileSystem := do
  let names := names path
  let names := if path.endsWith "/" then names.dropLast else names
  let around := files.follow (← files.walk path names.dropLast)
  match around.node, names.getLast? with
  | none, _ => throw (.errno .noSuchEntry)
  | some node, last =>
      if !node.isDirectory then throw (.errno .notADirectory)
      else
        match last with
        | none | some "." | some ".." => throw (.errno .fileExists)
        | some name =>
            if maxNameSize < name.length then throw (.errno .nameTooLong)
            else if (around.down name).node.isSome then throw (.errno .fileExists)
            else return files.put (around.down name).place (.directory [])

/-- Take away a name. A directory goes only if that is asked for and it is empty. -/
def remove (files : FileSystem) (wantsDirectory : Bool) (path : String) :
    Except HostError FileSystem := do
  let walk ← files.walk path (names path)
  let without : FileSystem := { files with root := Node.erase walk.place files.root }
  match walk.node, wantsDirectory with
  | none, _ => throw (.errno .noSuchEntry)
  | some (.directory []), true => return without
  | some (.directory _), true => throw (.errno .directoryNotEmpty)
  | some (.directory _), false => throw (.errno .isADirectory)
  | some _, true => throw (.errno .notADirectory)
  | some _, false => return without

def makeDirectoriesWithin (files : FileSystem) : (depth : Nat) → (path : String) →
    Except HostError FileSystem
  | 0, _ => return files
  | depth + 1, path =>
      if path = "" then return files
      else
        match files.makeDirectory path with
        | .ok files => return files
        | .error (.errno cause) =>
            if cause = .noSuchEntry then do
              let files ← match Path.parent? path with
                | some parent => makeDirectoriesWithin files depth parent
                | none => pure files
              match files.makeDirectory path with
              | .ok files => return files
              | .error cause =>
                  if files.isDirectory path then return files else throw cause
            else if files.isDirectory path then return files
            else throw (.errno cause)
        | .error cause => throw cause

def makeDirectories (files : FileSystem) (path : String) : Except HostError FileSystem :=
  files.makeDirectoriesWithin (path.length + 1) path

/-! ## Texts -/

def readText (files : FileSystem) (path : String) : Except HostError String := do
  match Text.Latin.toText? (← files.read (Text.Latin.ofText path)) with
  | some text => return text
  | none => throw (.malformed "stream did not contain valid UTF-8")

def writeText (files : FileSystem) (path content : String) :
    Except HostError FileSystem :=
  files.write (Text.Latin.ofText path) (Text.Latin.ofText content)

def appendText (files : FileSystem) (path content : String) :
    Except HostError FileSystem :=
  files.append (Text.Latin.ofText path) (Text.Latin.ofText content)

def createDirectories (files : FileSystem) (path : String) :
    Except HostError FileSystem :=
  files.makeDirectories (Text.Latin.ofText path)

end FileSystem

end ClockDiscipline
