/-
  ClockDiscipline/Socket/Binding.lean
  ===================================
  **Putting a socket in its place.**

  A socket left behind by an earlier run is replaced; anything else that is in
  the way is left alone.
-/
import ClockDiscipline.Kernel.File
import ClockDiscipline.Kernel.Path

namespace ClockDiscipline

open Kernel

/-- What is done with a socket. -/
inductive Service where
  /-- Snapshots are sent to whoever connects. -/
  | observer
  /-- Port states are received. -/
  | portStates
deriving DecidableEq, Repr

/-- What the kernel is asked about the place of a socket. -/
structure SocketInterface (W : Type) where
  /-- What there is at a path. -/
  kindAt : String → Action W (Except Errno FileKind)
  remove : String → Action W (Except Errno Unit)
  /-- Make a socket and listen on it. -/
  bind : Service → String → Action W (Except Errno Unit)
  setMode : UInt32 → String → Action W (Except Errno Unit)

/-- Why a socket could not be put in its place. -/
inductive SocketError where
  | notASocket
  | missingDirectory
  | cannotBind (error : FileError)
  | io (error : FileError)
deriving DecidableEq, Repr

def SocketError.message (path : String) : SocketError → String
  | .notASocket => s!"{path} exists and is not a socket"
  | .missingDirectory => s!"directory of {path} does not exist"
  | .cannotBind e => s!"could not bind {path}: {e.description}"
  | .io e => e.description

/-- The longest address of a socket, and one more. -/
def addressLimit : Nat := 108

variable {W : Type}

/-- Remove a socket that is in the way. -/
def clearPlace (kernel : SocketInterface W) (path : String) :
    Action W (Except SocketError Unit) := do
  match ← withPath kernel.kindAt path with
  | .ok .socket => return (← withPath kernel.remove path).mapError .io
  | .ok _ => return .error .notASocket
  | .error e => return if e = .refused .noEntry then .ok () else .error (.io e)

def bindAddress (kernel : SocketInterface W) (service : Service) (path : String) :
    Action W (Except FileError Unit) :=
  if addressLimit ≤ path.utf8ByteSize then return .error .addressTooLong
  else withPath (kernel.bind service) path

/-- Whether there is nothing where the directory of a path should be. -/
def lacksDirectory (kernel : SocketInterface W) (path : String) : Action W Bool := do
  match Path.parent? path with
  | none | some "" => return false
  | some directory => return !(← withPath kernel.kindAt directory).isOk

/-- Put a socket with some permissions in its place. -/
def putSocket (kernel : SocketInterface W) (service : Service) (path : String) (mode : UInt32) :
    Action W (Except SocketError Unit) := do
  match ← clearPlace kernel path with
  | .error e => return .error e
  | .ok () =>
    match ← bindAddress kernel service path with
    | .error e =>
      return .error (if ← lacksDirectory kernel path then .missingDirectory else .cannotBind e)
    | .ok () => return (← withPath (kernel.setMode mode) path).mapError .io

/-- What a mode says about permissions to read, write and execute. -/
def permissionBits (mode : UInt32) : UInt32 := mode &&& 0o777

/-- What is noted about a socket that is in place. -/
def listeningEntry (path : String) (mode : UInt32) : Entry :=
  ⟨.debug, s!"listening on {path} (mode {String.ofList (Nat.toDigits 8 mode.toNat)})"⟩

/-- The permissions of the socket for port states: only the daemon that
    reports them, which runs as root too, may change them. -/
def portSocketMode : UInt32 := 0o600

end ClockDiscipline
