/-
  ClockDiscipline/Phc/Error.lean
  ==============================
  **Why a hardware clock does not do what it is told.**
-/
import ClockDiscipline.Kernel.File

namespace ClockDiscipline.Phc

open Kernel

/-! ### Reading and adjusting -/

/-- Why the time can not be read or adjusted. -/
inductive SteeringError where
  | noPermission
  | noAccess
  | noDevice
  | invalid
  | notSupported
deriving DecidableEq, Repr

namespace SteeringError

def name : SteeringError → String
  | .noPermission => "NoPermission"
  | .noAccess => "NoAccess"
  | .noDevice => "NoDevice"
  | .invalid => "Invalid"
  | .notSupported => "NotSupported"

def number : SteeringError → Nat
  | .noPermission => 1
  | .noAccess => 13
  | .noDevice => 19
  | .invalid => 22
  | .notSupported => 95

def all : List SteeringError := [.noPermission, .noAccess, .noDevice, .invalid, .notSupported]

/-- The reason behind an error number.  Clocks give no others; one of them
    ends the run. -/
def ofErrno (e : Errno) : Checked SteeringError :=
  match all.find? fun s => s.number == e.number with
  | some s => .ok s
  | none => .error .unforeseen

end SteeringError

/-! ### All errors -/

inductive PhcError where
  | cannotOpen (name : String) (error : FileError)
  | notAClock (name : String)
  | steering (error : SteeringError)
  | io (error : Errno)
  /-- The device handed out less than a whole event. -/
  | unexpectedEnd
  /-- A source whose clock is gone. -/
  | sourceWithoutClock
deriving DecidableEq, Repr

/-- How an error is written inside a message. -/
def PhcError.text : PhcError → String
  | .cannotOpen name e => s!"Open \x7b name: {Text.quoted name}, source: {e.text} \x7d"
  | .notAClock name => s!"NotAClock({Text.quoted name})"
  | .steering e => s!"Steering({e.name})"
  | .io e => s!"Io({e.text})"
  | .unexpectedEnd =>
    "Io(Error \x7b kind: UnexpectedEof, message: \"failed to fill whole buffer\" \x7d)"
  | .sourceWithoutClock =>
    "Io(Custom \x7b kind: NotFound, error: \"source without a clock\" \x7d)"

end ClockDiscipline.Phc
