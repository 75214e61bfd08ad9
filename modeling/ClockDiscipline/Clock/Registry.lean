/-
  ClockDiscipline/Clock/Registry.lean
  ===================================
  **The clocks taking part, one per physical device.**

  A clock is known by a handle: the slot it was put into when it was opened.
  A slot is emptied when its clock is destroyed and never filled again, so a
  handle denotes one clock for ever.
-/
import ClockDiscipline.Clock.Device
import ClockDiscipline.Port.State

namespace ClockDiscipline

/-! ### Clocks and their handles -/

/-- The handle of a clock: the number of its slot. -/
structure ClockId where
  slot : Nat
deriving DecidableEq, Repr

def ClockId.text (id : ClockId) : String := s!"clock#{id.slot}"

def ClockId.debugText (id : ClockId) : String := s!"ClockId({id.slot})"

/-- A hardware clock with its servo and its part in the synchronization. -/
structure Clock (H S : Type) where
  /-- The name it was first opened under. -/
  name : String
  /-- What tells it from other physical clocks. -/
  index : UInt32
  handle : H
  servo : S
  /-- The state after the last sample. -/
  servoState : ServoState
  /-- The state of its ports, if it has any. -/
  portState : Option PortState
  /-- The time of the edge seen in this cycle. -/
  timestamp : Option Instant
  /-- Whether the clock is corrected. -/
  isDestination : Bool
  /-- Whether its offset is measured only. -/
  freeRunning : Bool
  lastOffset : Option Duration
  /-- The frequency last given to it by a correction. -/
  lastFrequency : Option Float

namespace Clock

variable {W H S ε : Type}

/-- A clock that has just been opened. -/
def opened (name : String) (index : UInt32) (handle : H) (servo : S) : Clock H S where
  name := name
  index := index
  handle := handle
  servo := servo
  servoState := .unlocked
  portState := none
  timestamp := none
  isDestination := false
  freeRunning := false
  lastOffset := none
  lastFrequency := none

/-- Keep the time of an edge for this cycle, in place of any earlier one. -/
def addTimestamp (clock : Clock H S) (t : Instant) : Action W (Clock H S) := do
  Action.log .debug s!"adding timestamp {t.text} to clock {clock.name}"
  return { clock with timestamp := some t }

def flushTimestamp (clock : Clock H S) : Clock H S := { clock with timestamp := none }

/-- Forget what the servo has learned. -/
def unlock (env : Environment W H S ε) (clock : Clock H S) : Action W (Clock H S) := do
  let servo ← env.servo.reset clock.servo
  return { clock with servo := servo, servoState := .unlocked }

end Clock

/-! ### The registry -/

structure Registry (H S : Type) where
  slots : List (Option (Clock H S))

/-- Why a clock can not be opened or destroyed. -/
inductive RegistryError (ε : Type) where
  | device (error : ε)
  /-- The clock is a destination or the source. -/
  | inUse (id : ClockId)
  | unknown (id : ClockId)
deriving Repr

namespace RegistryError

variable {ε : Type}

def message (errorText : ε → String) : RegistryError ε → String
  | .device e => s!"clock device error: {errorText e}"
  | .inUse id => s!"{id.text} is still in use"
  | .unknown id => s!"{id.text} does not exist"

def debugText (errorText : ε → String) : RegistryError ε → String
  | .device e => s!"Device({errorText e})"
  | .inUse id => s!"InUse({id.debugText})"
  | .unknown id => s!"Unknown({id.debugText})"

end RegistryError

namespace Registry

variable {W H S ε : Type}

def empty : Registry H S := ⟨[]⟩

/-- The clock behind a handle. -/
def get? (r : Registry H S) (id : ClockId) : Option (Clock H S) := r.slots[id.slot]?.join

/-- Replace the clock behind a handle; nothing happens if there is none. -/
def modify (r : Registry H S) (id : ClockId) (f : Clock H S → Clock H S) : Registry H S :=
  ⟨r.slots.modify id.slot (Option.map f)⟩

def set (r : Registry H S) (id : ClockId) (clock : Clock H S) : Registry H S :=
  r.modify id fun _ => clock

/-- Change every clock. -/
def map (r : Registry H S) (f : Clock H S → Clock H S) : Registry H S :=
  ⟨r.slots.map (Option.map f)⟩

/-- Handles and clocks in the order they were opened. -/
def entries (r : Registry H S) : List (ClockId × Clock H S) :=
  r.slots.zipIdx.filterMap fun (slot, i) => slot.map fun clock => (⟨i⟩, clock)

def ids (r : Registry H S) : List ClockId := r.entries.map (·.1)

def size (r : Registry H S) : Nat := r.entries.length

def findBy (r : Registry H S) (p : Clock H S → Bool) : Option ClockId :=
  (r.entries.find? fun (_, clock) => p clock).map (·.1)

def findByName (r : Registry H S) (name : String) : Option ClockId :=
  r.findBy fun clock => clock.name == name

def findByIndex (r : Registry H S) (index : UInt32) : Option ClockId :=
  r.findBy fun clock => clock.index == index

/-- Put a clock into a new slot. -/
def push (r : Registry H S) (clock : Clock H S) : ClockId × Registry H S :=
  (⟨r.slots.length⟩, ⟨r.slots ++ [some clock]⟩)

/-- The clock of this name, opened if need be.  A name that leads to a
    physical clock already known under another one yields that clock. -/
def getOrCreate (env : Environment W H S ε) (r : Registry H S) (name : String) :
    Action W (Except (RegistryError ε) ClockId × Registry H S) := do
  match r.findByName name with
  | some id => return (.ok id, r)
  | none =>
    match ← env.openClock name with
    | .error e => return (.error (.device e), r)
    | .ok (handle, index) =>
      match r.findByIndex index with
      | some id =>
        Action.log .debug s!"{name} has index {index.toNat} which is already known as {id.text}"
        return (.ok id, r)
      | none =>
        match ← env.makeServo handle with
        | .error e => return (.error (.device e), r)
        | .ok servo =>
          let (id, next) := r.push (.opened name index handle servo)
          Action.log .debug s!"clock {name} has hardware index {index.toNat}"
          return (.ok id, next)

/-- Take a clock out of its slot.  Destinations and the source stay. -/
def destroy (r : Registry H S) (id : ClockId) (source : Option ClockId) :
    Except (RegistryError ε) (Clock H S × Registry H S) :=
  match r.get? id with
  | none => .error (.unknown id)
  | some clock =>
    if clock.isDestination || source == some id then .error (.inUse id)
    else .ok (clock, ⟨r.slots.set id.slot none⟩)

end Registry

end ClockDiscipline
