/-
  ClockDiscipline/Bench/World.lean
  ================================
  **A bench of simulated clocks.**

  A bench has clocks whose time stands still unless it is set or stepped,
  whose queues hold what was put into them, and whose requests fail when they
  are told to.  It keeps a list of the requests that changed something, in the
  order they were made.
-/
import ClockDiscipline.Edge.Event
import ClockDiscipline.Servo.Lock

namespace ClockDiscipline.Bench

/-! ### Requests -/

/-- What a device of the bench can be told to fail at. -/
inductive Method where
  | opening
  | now
  | frequency
  | setFrequency
  | step
  | maxFrequency
  | pinCount
  | setPinFunction
  | enableEdges
  | disableEdges
  | nextEvent
deriving DecidableEq, Repr

namespace Method

def all : List Method :=
  [.opening, .now, .frequency, .setFrequency, .step, .maxFrequency, .pinCount, .setPinFunction,
    .enableEdges, .disableEdges, .nextEvent]

def name : Method → String
  | .opening => "open"
  | .now => "now"
  | .frequency => "frequency"
  | .setFrequency => "set_frequency"
  | .step => "step_clock"
  | .maxFrequency => "max_frequency"
  | .pinCount => "pin_count"
  | .setPinFunction => "set_pin_function"
  | .enableEdges => "enable_extts"
  | .disableEdges => "disable_extts"
  | .nextEvent => "read_extts"

/-- The methods that a name stands for: one, or all of them. -/
def ofName (name : String) : List Method :=
  if name == "all" then all else all.filter fun m => m.name == name

end Method

/-- Why a request to the bench failed. -/
inductive Failure where
  | failed (method : Method)
  | noSuchDevice
  | waitFailed
deriving DecidableEq, Repr

def Failure.text : Failure → String
  | .failed method => s!"{method.name} failed"
  | .noSuchDevice => "no such device"
  | .waitFailed => "wait failed"

/-- A request that changed something, with the hardware index of the device
    it was made of. -/
inductive Call where
  | opened (index : UInt32)
  | setFrequency (index : UInt32) (frequency : Float)
  | step (index : UInt32) (offset : Duration)
  | setPinFunction (index pin channel : UInt32)
  | enableEdges (index channel : UInt32) (polarity : Polarity)
  | disableEdges (index channel : UInt32)
  /-- A sample fed to a servo that gives prepared answers. -/
  | sample (offset localNanos : Int64) (weight : Float)
  | reset

/-! ### The bench -/

structure Device where
  name : String
  index : UInt32 := 0
  time : Instant := .epoch
  frequency : Float := 0
  maxFrequency : Float := 500000
  pins : UInt32 := 4
  /-- The requests it fails at. -/
  failing : List Method := []
  /-- The events to be read, oldest first. -/
  events : List EdgeEvent := []

/-- What to change about a device.  Events are added to those queued. -/
structure Change where
  index : Option UInt32 := none
  time : Option Instant := none
  frequency : Option Float := none
  maxFrequency : Option Float := none
  pins : Option UInt32 := none
  failing : Option (List Method) := none
  events : List EdgeEvent := []

def Device.change (d : Device) (c : Change) : Device where
  name := d.name
  index := c.index.getD d.index
  time := c.time.getD d.time
  frequency := c.frequency.getD d.frequency
  maxFrequency := c.maxFrequency.getD d.maxFrequency
  pins := c.pins.getD d.pins
  failing := c.failing.getD d.failing
  events := d.events ++ c.events

/-- A prepared answer to a wait: the sources that are ready, or a failure. -/
abbrev WaitAnswer := Option (List Nat)

structure World where
  devices : List Device
  /-- Other names of devices. -/
  aliases : List (String × String) := []
  /-- What servos with prepared answers give next. -/
  answers : List (Float × ServoState) := []
  systemTime : Instant := .epoch
  /-- What waits answer before they look at the queues. -/
  script : List WaitAnswer := []
  /-- How often was waited, and for how long the last time. -/
  waits : Nat := 0
  timeoutMs : UInt64 := 0
  calls : Array Call := #[]

namespace World

def record (w : World) (call : Call) : World := { w with calls := w.calls.push call }

def modify (w : World) (position : Nat) (f : Device → Device) : World :=
  { w with devices := w.devices.modify position f }

/-- Change the device of this name. -/
def change (w : World) (name : String) (c : Change) : World :=
  match w.devices.findIdx? (·.name == name) with
  | some position => w.modify position (·.change c)
  | none => w

/-- The number of events queued on a device. -/
def queued (w : World) (position : Nat) : Nat :=
  match w.devices[position]? with
  | some d => d.events.length
  | none => 0

end World

end ClockDiscipline.Bench
