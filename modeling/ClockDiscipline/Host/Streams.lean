import ClockDiscipline.Host.FileSystem

/-!
Streams of a process. Each of its descriptors leads to an opening, which remembers how far
it has been read or written and may be shared: by other descriptors, and by other
processes.
-/

namespace ClockDiscipline

inductive Channel where
  /-- Bytes that were written and wait to be read. There may be room for only so many
  more. -/
  | pipe (waiting : String) (room : Option Nat)
  | file (place : Place)
  | directory
  | device (kind : Device)
  deriving DecidableEq, Repr

structure Opening where
  channel : Channel
  isReadable : Bool
  isWritable : Bool
  position : Nat
  isAppending : Bool
  deriving DecidableEq, Repr

structure Streams where
  openings : Array Opening
  descriptors : List (Nat × Nat)

inductive Opening.Purpose where
  | read
  | replace
  | create
  | append
  | update
  deriving DecidableEq, Repr

namespace Opening

def Purpose.reads : Purpose → Bool
  | read | update => true
  | replace | create | append => false

def Purpose.writes : Purpose → Bool
  | read => false
  | replace | create | append | update => true

def ofChannel (purpose : Purpose) (channel : Channel) : Opening where
  channel
  isReadable := purpose.reads
  isWritable := purpose.writes
  position := 0
  isAppending := purpose = .append

end Opening

namespace Streams

def standard (input : String) : Streams where
  openings := #[.ofChannel .read (.pipe input none), .ofChannel .append (.pipe "" none),
    .ofChannel .append (.pipe "" none)]
  descriptors := [(0, 0), (1, 1), (2, 2)]

/-! ## Descriptors -/

def close (streams : Streams) (descriptor : Nat) : Streams :=
  { streams with descriptors := streams.descriptors.filter (·.1 ≠ descriptor) }

def connect (streams : Streams) (descriptor opening : Nat) : Streams :=
  { streams with
    descriptors :=
      (descriptor, opening) :: streams.descriptors.filter (·.1 ≠ descriptor) }

def add (streams : Streams) (descriptor : Nat) (opening : Opening) : Streams :=
  { streams with openings := streams.openings.push opening }.connect descriptor
    streams.openings.size

def opening? (streams : Streams) (descriptor : Nat) : Option (Nat × Opening) := do
  let number ← streams.descriptors.lookup descriptor
  return (number, ← streams.openings[number]?)

def duplicate (streams : Streams) (source target : Nat) : Except Errno Streams :=
  match streams.descriptors.lookup source with
  | some opening => .ok (streams.connect target opening)
  | none => .error .badDescriptor

/-- Open a file for a descriptor. The name of a stream leads to where that stream
leads. -/
def openFile (streams : Streams) (files : FileSystem) (descriptor : Nat)
    (purpose : Opening.Purpose) (path : String) :
    Except Errno (Streams × FileSystem) := do
  let causeOf (cause : HostError) : Errno :=
    match cause with
    | .errno cause => cause
    | .malformed _ => .noSuchEntry
  let changed ← Except.mapError causeOf <|
    match purpose with
    | .read => return files
    | .replace => files.write path ""
    | .create =>
        if files.pathExists path then throw (.errno .fileExists) else files.write path ""
    | .append | .update => files.append path ""
  let walk ← (changed.resolve path).mapError causeOf
  let connected (channel : Channel) : Except Errno (Streams × FileSystem) :=
    return (streams.add descriptor (.ofChannel purpose channel), changed)
  match walk.node with
  | none => throw .noSuchEntry
  | some (.stream number) =>
      match streams.opening? number with
      | none => throw .noSuchEntry
      | some (number, opening) =>
          match opening.channel with
          | .file _ => connected opening.channel
          | _ => return (streams.connect descriptor number, changed)
  | some (.device .absent) => throw .noSuchDevice
  | some (.device kind) => connected (.device kind)
  | some .terminal => connected (.device .null)
  | some (.directory _) => connected .directory
  | some (.file _) | some .program | some (.link _) => connected (.file walk.place)

/-! ## Reading -/

def waiting (streams : Streams) (files : FileSystem) (descriptor : Nat) :
    Except Errno String :=
  match streams.opening? descriptor with
  | none => .error .badDescriptor
  | some (_, opening) =>
      if !opening.isReadable then .error .badDescriptor
      else
        match opening.channel with
        | .pipe waiting _ => .ok waiting
        | .file place =>
            match files.node? place with
            | some (.file content) => .ok (content.drop opening.position).toString
            | _ => .ok ""
        | .directory => .error .isADirectory
        | .device _ => .ok ""

def advance (streams : Streams) (descriptor count : Nat) : Streams :=
  match streams.opening? descriptor with
  | none => streams
  | some (number, opening) =>
      let moved : Opening := match opening.channel with
        | .pipe waiting room =>
            { opening with
              channel := .pipe (waiting.drop count).toString (room.map (· + count)) }
        | _ => { opening with position := opening.position + count }
      { streams with openings := streams.openings.set! number moved }

def readAll (streams : Streams) (files : FileSystem) (descriptor : Nat) :
    Except Errno (String × Streams) := do
  let text ← streams.waiting files descriptor
  return (text, streams.advance descriptor text.length)

/-! ## Writing -/

/-- A text with another one at a position in it. What lies between them is filled with
zeros. -/
def overwritten (content : String) (position : Nat) (text : String) : String :=
  if content.length ≤ position then
    content.pushn '\x00' (position - content.length) ++ text
  else
    (content.take position).toString ++ text ++
      (content.drop (position + text.length)).toString

def write (streams : Streams) (files : FileSystem) (descriptor : Nat) (text : String) :
    Except Errno (Streams × FileSystem) :=
  match streams.opening? descriptor with
  | none => .error .badDescriptor
  | some (number, opening) =>
      let withOpening (opening : Opening) : Streams :=
        { streams with openings := streams.openings.set! number opening }
      if !opening.isWritable then .error .badDescriptor
      else
        match opening.channel with
        | .pipe waiting room =>
            if room.any (· < text.length) then .error .brokenPipe
            else
              let channel := .pipe (waiting ++ text) (room.map (· - text.length))
              .ok (withOpening { opening with channel }, files)
        | .file place =>
            match files.node? place with
            | some (.file content) =>
                let position :=
                  if opening.isAppending then content.length else opening.position
                .ok (withOpening { opening with position := position + text.length },
                  files.put place (.file (overwritten content position text)))
            | _ => .ok (streams, files)
        | .directory => .error .isADirectory
        | .device .full => .error .noSpace
        | .device _ => .ok (streams, files)

end Streams

end ClockDiscipline
