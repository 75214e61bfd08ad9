/-
  ClockDiscipline/Bench/FileTree.lean
  ===================================
  **The files of a simulated computer that are no devices of interest.**

  A path is followed part by part from a directory.  What is above its last
  part has to be there; `walk_append` says that following a path is following
  its beginning and then the rest.
-/
import ClockDiscipline.Config.File
import ClockDiscipline.Socket.Binding

namespace ClockDiscipline.Bench

open Kernel

/-! ### Files -/

/-- Where a file is: the names that lead to it from the root. -/
abbrev Place := List String

inductive FileNode where
  | directory
  | file (content : ConfigFile)
  /-- A socket on which somebody listens. -/
  | socket (service : Service) (mode : UInt32)

def FileNode.kind : FileNode → FileKind
  | .directory => .directory
  | .file _ => .other
  | .socket .. => .socket

structure TreeEntry where
  place : Place
  node : FileNode
  /-- Whether the daemon may write to the file, or put files into the
      directory. -/
  isWritable : Bool := false

/-- The files of a computer, the root among them. -/
abbrev FileTree := List TreeEntry

namespace FileTree

def entry? (t : FileTree) (place : Place) : Option TreeEntry := t.find? (·.place == place)

/-- What every computer has. -/
def common : FileTree :=
  let directories : List Place := [[], ["bin"], ["boot"], ["dev"], ["etc"], ["home"], ["lib"],
    ["media"], ["mnt"], ["opt"], ["proc"], ["root"], ["run"], ["sbin"], ["srv"], ["sys"],
    ["sys", "class"], ["sys", "class", "net"], ["usr"],
    ["usr", "bin"], ["usr", "lib"], ["usr", "local"], ["usr", "sbin"], ["usr", "share"], ["var"],
    ["var", "lib"], ["var", "log"], ["var", "run"]]
  let writable : List Place := [["dev", "shm"], ["tmp"], ["var", "tmp"]]
  let devices : List Place := [["dev", "full"], ["dev", "null"], ["dev", "random"],
    ["dev", "urandom"], ["dev", "zero"]]
  let settings := [("hostname", "localhost\n"), ("hosts", "127.0.0.1 localhost\n"),
    ("passwd", "root:x:0:0:root:/root:/bin/sh\n")]
  directories.map (⟨·, .directory, false⟩) ++ writable.map (⟨·, .directory, true⟩) ++
    devices.map (⟨·, .file ⟨0o666, []⟩, true⟩) ++
    settings.map fun (name, text) => ⟨["etc", name], .file ⟨0o644, text.toUTF8.data.toList⟩, false⟩

/-- The directory that paths without a leading slash start from. -/
def workingDirectory : Place := ["tmp"]

/-! ### Following paths -/

/-- The longest name of a file in bytes. -/
def nameLimit : Nat := 255

/-- The longest path in bytes, and one more. -/
def pathLimit : Nat := 4096

/-- How the next part of a path is out of reach below a place, if it is. -/
def obstacle? (t : FileTree) (place : Place) (part : String) : Option Errno :=
  match t.entry? place with
  | some ⟨_, .directory, _⟩ => if nameLimit < part.utf8ByteSize then some .nameTooLong else none
  | some _ => some .notDirectory
  | none => some .noEntry

/-- Where a part leads. -/
def step (place : Place) (part : String) : Place :=
  if !Path.isStep part then place
  else if part == ".." then place.dropLast
  else place ++ [part]

/-- Follow parts from a place.  There need not be anything at the end. -/
def walk (t : FileTree) : Place → List String → Except Errno Place
  | place, [] => .ok place
  | place, part :: rest =>
    match t.obstacle? place part with
    | some e => .error e
    | none => t.walk (step place part) rest

theorem walk_append (t : FileTree) (place : Place) (first rest : List String) :
    t.walk place (first ++ rest) = (t.walk place first).bind fun place => t.walk place rest := by
  induction first generalizing place with
  | nil => rfl
  | cons part first ih =>
    simp only [List.cons_append, walk]
    split
    · rfl
    · exact ih _

/-- The place that a path leads to. -/
def locate (t : FileTree) (path : String) : Except Errno Place :=
  if path.isEmpty then .error .noEntry
  else if pathLimit ≤ path.utf8ByteSize then .error .nameTooLong
  else t.walk (if Path.isAbsolute path then [] else workingDirectory) (Path.parts path)

/-- The file at a path. -/
def find (t : FileTree) (path : String) : Except Errno TreeEntry := do
  match t.entry? (← t.locate path) with
  | some entry => return entry
  | none => throw .noEntry

/-- The content of the file at a path. -/
def read (t : FileTree) (path : String) : Except Errno ConfigFile := do
  match (← t.find path).node with
  | .file content => return content
  | .directory => throw .isDirectory
  | .socket .. => throw .notOpenable

/-! ### Sockets -/

/-- Put a socket at a path.  Without a path it is nowhere to be found. -/
def bind (t : FileTree) (service : Service) (path : String) : Except Errno FileTree := do
  if path.isEmpty then return t
  let place ← t.locate path
  if (t.entry? place).isSome then throw .inUse
  match t.entry? place.dropLast with
  | some ⟨_, _, true⟩ => return ⟨place, .socket service 0o755, true⟩ :: t
  | _ => throw .denied

def remove (t : FileTree) (path : String) : Except Errno FileTree := do
  let entry ← t.find path
  return t.filter (·.place != entry.place)

/-- Change the permissions of a socket. -/
def setMode (t : FileTree) (mode : UInt32) (path : String) : Except Errno FileTree := do
  let entry ← t.find path
  return t.map fun e =>
    match e.node with
    | .socket service _ =>
      if e.place == entry.place then { e with node := .socket service mode } else e
    | _ => e

/-- Who answers at a place to the owner of the socket. -/
def listener? (t : FileTree) (place : Place) : Option Service :=
  match t.entry? place with
  | some ⟨_, .socket service mode, _⟩ => if mode &&& 0o200 != 0 then some service else none
  | _ => none

end FileTree

end ClockDiscipline.Bench
