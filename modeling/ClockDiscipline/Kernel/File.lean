/-
  ClockDiscipline/Kernel/File.lean
  ================================
  **Files by their paths, and why they are out of reach.**

  The kernel takes paths without a NUL only; one that has a NUL in it is
  refused before the kernel sees it.
-/
import ClockDiscipline.Kernel.Request
import ClockDiscipline.Text.Quoted

namespace ClockDiscipline.Kernel

/-! ### Errors of files -/

namespace Errno

/-- A socket can not be opened like a file. -/
def notOpenable : Errno := ⟨6⟩

def denied : Errno := ⟨13⟩

/-- A part of a path that something should be in is no directory. -/
def notDirectory : Errno := ⟨20⟩

/-- A directory can not be written to like a file. -/
def isDirectory : Errno := ⟨21⟩

def nameTooLong : Errno := ⟨36⟩

/-- There is something at the address of a socket already. -/
def inUse : Errno := ⟨98⟩

/-- What the errors of files are called. -/
def names : List (Errno × String) :=
  [(noEntry, "No such file or directory"), (inputOutput, "Input/output error"),
    (notOpenable, "No such device or address"),
    (denied, "Permission denied"), (notDirectory, "Not a directory"),
    (isDirectory, "Is a directory"), (nameTooLong, "File name too long"),
    (inUse, "Address already in use")]

/-- An error in full. -/
def description (e : Errno) : String :=
  let name := (names.lookup e).getD s!"Unknown error {e.number}"
  s!"{name} (os error {e.number})"

end Errno

/-- Why a file is out of reach. -/
inductive FileError where
  /-- The kernel refuses. -/
  | refused (error : Errno)
  /-- There is a NUL in the path. -/
  | embeddedNul
  /-- The path is longer than the address of a socket can be. -/
  | addressTooLong
deriving DecidableEq, Repr

namespace FileError

/-- The number of the error, if it is one of the kernel's. -/
def errno? : FileError → Option Errno
  | .refused e => some e
  | .embeddedNul | .addressTooLong => none

/-- An error in full. -/
def description : FileError → String
  | .refused e => e.description
  | .embeddedNul => "file name contained an unexpected NUL byte"
  | .addressTooLong => "path must be shorter than SUN_LEN"

/-- How an error is written inside a message. -/
def text (e : FileError) : String :=
  match e with
  | .refused errno => errno.text
  | .embeddedNul | .addressTooLong =>
    s!"Error \x7b kind: InvalidInput, message: {Text.quoted e.description} \x7d"

end FileError

/-! ### Requests by path -/

/-- What there is at a path. -/
inductive FileKind where
  | directory
  | socket
  /-- A file of any other kind. -/
  | other
deriving DecidableEq, Repr

def hasNul (path : String) : Bool := path.toList.any (·.toNat == 0)

variable {W α : Type}

/-- Hand a path to the kernel. -/
def withPath (request : String → Action W (Except Errno α)) (path : String) :
    Action W (Except FileError α) :=
  if hasNul path then return .error .embeddedNul
  else return (← request path).mapError .refused

end ClockDiscipline.Kernel
