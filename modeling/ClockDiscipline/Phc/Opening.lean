/-
  ClockDiscipline/Phc/Opening.lean
  ================================
  **Finding a hardware clock by its path or its network interface.**

  Clock devices are called `ptp` and a number, and the number tells physical
  clocks apart.  Links to a device are followed first, so that every name of a
  clock leads to the same number.
-/
import ClockDiscipline.Decimal.Reading
import ClockDiscipline.Phc.Device

namespace ClockDiscipline.Phc

open Kernel

/-! ### Names of devices -/

/-- The 32 bit word that digits stand for; a plus sign may precede them. -/
def word32OfDigits? (cs : List Char) : Option UInt32 :=
  let digits := match cs with
    | '+' :: rest => rest
    | cs => cs
  if digits.isEmpty || !digits.all Char.isDigit then none
  else
    let n := Decimal.digitsValue 0 digits
    if n < 0x100000000 then some (UInt32.ofNat n) else none

/-- What comes after the last slash of a path. -/
def fileName (path : String) : List Char :=
  (path.toList.reverse.takeWhile (· ≠ '/')).reverse

/-- The number of the clock with this file name. -/
def indexOfName? : List Char → Option UInt32
  | 'p' :: 't' :: 'p' :: digits => word32OfDigits? digits
  | _ => none

/-- The number of the clock at a path. -/
def indexOfPath? (path : String) : Option UInt32 := indexOfName? (fileName path)

/-! ### Finding and opening -/

/-- A clock device and its number. -/
structure Located where
  path : String
  index : UInt32
deriving DecidableEq, Repr

/-- The first of the files that is a clock device. -/
def firstClock (entries : List String) : Option Located :=
  entries.findSome? fun entry =>
    (indexOfPath? s!"/dev/{entry}").map fun index => ⟨s!"/dev/{entry}", index⟩

variable {W F : Type}

/-- The device at a path. -/
def locatePath (kernel : Interface W F) (name : String) :
    Action W (Except PhcError Located) := do
  match ← withPath kernel.realPath name with
  | .error e => return .error (.cannotOpen name e)
  | .ok path =>
    match indexOfPath? path with
    | none => return .error (.notAClock name)
    | some index => return .ok ⟨path, index⟩

/-- The device of a network interface. -/
def locateInterface (kernel : Interface W F) (name : String) :
    Action W (Except PhcError Located) := do
  match (← kernel.clocksOfInterface name).bind firstClock with
  | none => return .error (.notAClock name)
  | some located =>
    Action.log .debug s!"interface {name} has clock {located.path}"
    return .ok located

/-- The device of a name: a path, or the name of a network interface. -/
def locate (kernel : Interface W F) (name : String) : Action W (Except PhcError Located) :=
  if name.toList.head? = some '/' then locatePath kernel name else locateInterface kernel name

/-- Open the clock device at a path. -/
def openPath (kernel : Interface W F) (path : String) : Action W (Except PhcError F) :=
  return (← withPath kernel.openFile path).mapError (.cannotOpen path)

/-- Open the clock of a name. -/
def openClock (kernel : Interface W F) (name : String) :
    Action W (Except PhcError (F × UInt32)) := do
  match ← locate kernel name with
  | .error e => return .error e
  | .ok located => return (← openPath kernel located.path).map fun file => (file, located.index)

end ClockDiscipline.Phc
