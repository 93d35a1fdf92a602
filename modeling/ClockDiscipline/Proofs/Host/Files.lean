import ClockDiscipline.Host.Machine
import ClockDiscipline.Proofs.Pulse.Record
import Mathlib

/-!
Texts in files. A host keeps the texts of a path if each text that is written there is
read back. A file system does so where directories lead to a file or to nothing, and so
does the host in memory.
-/

namespace ClockDiscipline

/-- Whatever is written to a path can be read from it. -/
def Host.Keeps {World : Type} (host : Host (StateM World)) (path : String)
    (world : World) : Prop :=
  ∀ text, ∃ after, host.writeText path text world = (.ok (), after) ∧
    (host.readText path after).1 = .ok text

/-! ## Places -/

namespace Node

/-- Whether directories lead from a node to a place where a file lies or nothing. -/
def hasRoom : Place → Option Node → Bool
  | [], none => true
  | [], some (.file _) => true
  | name :: rest, some (.directory entries) => hasRoom rest (entries.lookup name)
  | _, _ => false

private theorem hasRoom_nil {node : Option Node} (room : hasRoom [] node = true) :
    node = none ∨ ∃ content, node = some (.file content) := by
  cases node with
  | none => exact .inl rfl
  | some node =>
      cases node with
      | file content => exact .inr ⟨content, rfl⟩
      | _ => cases room

private theorem hasRoom_cons {name : String} {rest : Place} {node : Option Node}
    (room : hasRoom (name :: rest) node = true) :
    ∃ entries,
      node = some (.directory entries) ∧ hasRoom rest (entries.lookup name) = true := by
  cases node with
  | none => cases room
  | some node =>
      cases node with
      | directory entries => exact ⟨entries, rfl, room⟩
      | _ => cases room

-- What is missing on the way is created as directories.
private theorem hasRoom_put (content : String) (place : Place) : ∀ node : Node,
    hasRoom place (some (put (.file content) place node)) = true := by
  induction place with
  | nil => exact fun _ => rfl
  | cons name rest induction =>
      intro node
      rw [put, hasRoom, Table.lookup_put_self]
      exact induction _

end Node

namespace FileSystem

variable {files : FileSystem}

private theorem node_foldl_down_put (new : Node) (place : Place) :
    ∀ (walk : Walk) (node : Node),
    walk.node = some (Node.put new place node) →
      (place.foldl Walk.down walk).node = some new := by
  induction place with
  | nil => exact fun walk node stands => stands
  | cons name rest induction =>
      intro walk node stands
      refine induction (walk.down name)
        ((node.entries.lookup name).getD (.directory [])) ?_
      rw [Walk.down, stands, Node.put]
      exact Table.lookup_put_self name _ _

private theorem place_foldl_down (place : Place) : ∀ walk : Walk,
    (place.foldl Walk.down walk).place = walk.place ++ place := by
  induction place with
  | nil => exact fun walk => (List.append_nil walk.place).symm
  | cons name rest induction =>
      intro walk
      rw [List.foldl_cons, induction, Walk.place, Walk.down, List.reverse_cons,
        List.append_assoc]
      rfl

private theorem hasRoom_foldl_down (start place : Place) : ∀ walk : Walk,
    Node.hasRoom (start ++ place) walk.node = true →
      Node.hasRoom place (start.foldl Walk.down walk).node = true := by
  induction start with
  | nil => exact fun walk room => room
  | cons name rest induction =>
      intro walk room
      rcases Node.hasRoom_cons room with ⟨entries, stands, below⟩
      refine induction (walk.down name) ?_
      rw [Walk.down, stands]
      exact below

/-! ## Paths -/

/-- A name that is no step to the directory itself or the one above, and not too long. -/
def IsPlainName (name : String) : Prop :=
  name ≠ "." ∧ name ≠ ".." ∧ name.length ≤ maxNameSize

/-- A path along plain names that is neither empty nor too long. -/
structure IsPlainPath (path : String) : Prop where
  ends : path.toList.contains '\x00' = false
  nonempty : path ≠ ""
  short : path.length < pathLimit
  names : ∀ name ∈ names path, IsPlainName name
  file : path.endsWith "/" = false

def target (files : FileSystem) (path : String) : Place :=
  (if path.startsWith "/" then [] else files.workingDirectory) ++ names path

private theorem enter_of_directory {walk : Walk} {name : String}
    {entries : List (String × Node)}
    (stands : walk.node = some (.directory entries)) (plain : IsPlainName name) :
    files.enter walk name = .ok (walk.down name) := by
  have stays : files.follow walk = walk := by rw [follow, stands]
  have directory : (Node.directory entries).isDirectory = true := rfl
  rw [enter, stays, stands]
  dsimp only
  rw [if_pos directory, if_neg plain.1, if_neg plain.2.1,
    if_neg (Nat.not_lt.mpr plain.2.2)]

private theorem node_goTo {place : Place}
    (room : Node.hasRoom place (some files.root) = true) :
    (files.goTo place).node = none ∨ ∃ content,
      (files.goTo place).node = some (.file content) := by
  apply Node.hasRoom_nil
  apply hasRoom_foldl_down place
  rw [List.append_nil]
  exact room

private theorem follow_of_room {place : Place}
    (room : Node.hasRoom place (some files.root) = true) :
    files.follow (files.goTo place) = files.goTo place := by
  rcases node_goTo room with missing | ⟨content, stands⟩
  · rw [follow, missing]
  · rw [follow, stands]

private theorem foldlM_enter (names : List String) : ∀ walk : Walk,
    Node.hasRoom names walk.node = true → (∀ name ∈ names, IsPlainName name) →
      names.foldlM files.enter walk = .ok (names.foldl Walk.down walk) := by
  induction names with
  | nil => exact fun _ _ _ => rfl
  | cons name names induction =>
      intro walk room plain
      rw [List.forall_mem_cons] at plain
      rcases Node.hasRoom_cons room with ⟨entries, stands, below⟩
      rw [List.foldlM_cons, enter_of_directory stands plain.1]
      refine induction (walk.down name) ?_ plain.2
      rw [Walk.down, stands]
      exact below

section Plain

variable {path : String} (plain : IsPlainPath path)

include plain

private theorem resolve_of_room
    (room : Node.hasRoom (files.target path) (some files.root) = true) :
    files.resolve path = .ok (files.goTo (files.target path)) := by
  let start := if path.startsWith "/" then [] else files.workingDirectory
  have split : files.goTo (files.target path) =
      (names path).foldl Walk.down (files.goTo start) := List.foldl_append
  have walked : files.walk path (names path) = .ok (files.goTo (files.target path)) := by
    have behind : Node.hasRoom (names path) (files.goTo start).node = true :=
      hasRoom_foldl_down start _ ⟨[], some files.root, []⟩ room
    rw [walk, if_neg (by rw [plain.ends]; exact Bool.false_ne_true),
      if_neg plain.nonempty, if_neg (Nat.not_le.mpr plain.short), split]
    exact congrArg (Except.mapError HostError.errno) (foldlM_enter _ _ behind plain.names)
  rw [resolve, walked]
  exact congrArg Except.ok (follow_of_room room)

private theorem writable_of_room
    (room : Node.hasRoom (files.target path) (some files.root) = true) :
    ∃ content, files.writable path = .ok (files.target path, .file content) := by
  have place : (files.goTo (files.target path)).place = files.target path :=
    place_foldl_down (files.target path) ⟨[], some files.root, []⟩
  have slashless : ¬path.endsWith "/" = true := by
    rw [plain.file]
    exact Bool.false_ne_true
  rcases node_goTo room with missing | ⟨content, stands⟩
  · refine ⟨"", ?_⟩
    rw [writable, if_neg slashless, resolve_of_room plain room]
    dsimp only [bind, Except.bind]
    rw [missing, place]
    rfl
  · refine ⟨content, ?_⟩
    rw [writable, if_neg slashless, resolve_of_room plain room]
    dsimp only [bind, Except.bind]
    rw [stands, place]
    rfl

private theorem write_of_room
    (room : Node.hasRoom (files.target path) (some files.root) = true)
    (content : String) :
    files.write path content = .ok (files.put (files.target path) (.file content)) := by
  rcases writable_of_room plain room with ⟨old, writable⟩
  rw [write, writable]
  rfl

private theorem read_put (content : String) :
    (files.put (files.target path) (.file content)).read path = .ok content := by
  let after := files.put (files.target path) (.file content)
  have resolved : after.resolve path = .ok (after.goTo (files.target path)) :=
    resolve_of_room plain (Node.hasRoom_put content (files.target path) files.root)
  have stands : (after.goTo (files.target path)).node = some (.file content) :=
    node_foldl_down_put _ _ ⟨[], some after.root, []⟩ files.root rfl
  have found : after.lookup path = .ok (.file content) := by
    rw [lookup, resolved]
    dsimp only [bind, Except.bind]
    rw [stands]
    rfl
  rw [read, found]
  rfl

end Plain

end FileSystem

/-! ## Texts -/

private theorem Text.Latin.encode_decode (bytes : List UInt8) :
    encode (decode bytes) = bytes := by
  rw [encode, decode, String.toList_ofList, List.map_map]
  conv_rhs => rw [← List.map_id bytes]
  apply List.map_congr_left
  intro byte _
  have valid : byte.toNat.isValidChar := .inl (Nat.lt_trans byte.toNat_lt (by decide))
  rw [Function.comp_apply, id_eq, Char.ofNat, dif_pos valid]
  exact UInt8.ofNat_toNat

private theorem Text.Latin.toText?_ofText (text : String) :
    toText? (ofText text) = some text := by
  rw [toText?, ofText, encode_decode]
  rw [← Pulse.utf8, Pulse.toByteArray_utf8]
  exact dif_pos text.isValidUTF8

namespace Machine

private theorem keeps {machine : Machine} {path : String}
    (plain : FileSystem.IsPlainPath (Text.Latin.ofText path))
    (room : Node.hasRoom (machine.files.target (Text.Latin.ofText path))
      (some machine.files.root) = true) :
    host.Keeps path machine := by
  intro text
  let place := machine.files.target (Text.Latin.ofText path)
  let after := machine.files.put place (.file (Text.Latin.ofText text))
  refine ⟨{ machine with files := after }, ?_, ?_⟩
  · have written : machine.files.writeText path text = .ok after :=
      FileSystem.write_of_room plain room (Text.Latin.ofText text)
    change update (fun files => files.writeText path text) machine = _
    rw [update, written]
  · have read : after.read (Text.Latin.ofText path) = .ok (Text.Latin.ofText text) :=
      FileSystem.read_put plain (Text.Latin.ofText text)
    change after.readText path = _
    rw [FileSystem.readText, read]
    dsimp only [bind, Except.bind]
    rw [Text.Latin.toText?_ofText]
    rfl

theorem keeps_bare : host.Keeps "gps" bare := by
  have bytes : Text.Latin.ofText "gps" = "gps" := by decide +kernel
  have names : FileSystem.names "gps" = ["gps"] := by cbv
  have target : bare.files.target "gps" = ["gps"] := by
    unfold FileSystem.target
    rw [names]
    decide +kernel
  apply keeps
  · rw [bytes]
    refine ⟨by decide +kernel, by decide, by decide +kernel, ?_, by decide +kernel⟩
    rw [names, List.forall_mem_singleton]
    exact ⟨by decide, by decide, by decide⟩
  · rw [bytes, target]
    rfl

end Machine

end ClockDiscipline
