/-
  ClockDiscipline/Clock/Device.lean
  =================================
  **What is asked of a hardware clock, of the servo steering it and of the
  system around them.**

  The interfaces say which requests there are and nothing about how they are
  answered: any of them may fail, change the world, or answer differently the
  next time.  `H` is the type of device handles, `S` that of servos, `ε` that
  of device errors.
-/
import ClockDiscipline.Journal
import ClockDiscipline.Edge.Event
import ClockDiscipline.Servo.Pi

namespace ClockDiscipline

/-- Requests to a hardware clock with inputs for pulse edges. -/
structure DeviceInterface (W H ε : Type) where
  now : H → Action W (Except ε Instant)
  /-- The current frequency offset in parts per billion. -/
  frequency : H → Action W (Except ε Float)
  setFrequency : H → Float → Action W (Except ε Unit)
  step : H → Duration → Action W (Except ε Unit)
  /-- The largest frequency offset the clock can be given. -/
  maxFrequency : H → Action W (Except ε Float)
  /-- The number of pins that can be programmed. -/
  pinCount : H → Action W (Except ε UInt32)
  /-- Route a pin to an input channel. -/
  setPinFunction : H → UInt32 → UInt32 → Action W (Except ε Unit)
  enableEdges : H → UInt32 → Polarity → Action W (Except ε Unit)
  disableEdges : H → UInt32 → Action W (Except ε Unit)
  /-- Take the next latched event off the queue. -/
  nextEvent : H → Action W (Except ε (Option EdgeEvent))

/-- A control loop from offsets to frequencies. -/
structure ServoInterface (W S : Type) where
  /-- Feed an offset, measured at a local time, with a weight.  The answer is
      a correction and the state of the lock. -/
  sample : S → Int64 → Int64 → Float → Action W ((Float × ServoState) × S)
  reset : S → Action W S
  /-- The frequency in parts per billion that realises a correction. -/
  frequency : S → Float → Float

/-- Everything a synchronization run is connected to. -/
structure Environment (W H S ε : Type) where
  device : DeviceInterface W H ε
  servo : ServoInterface W S
  /-- Open the clock of this name.  The index tells physical clocks apart. -/
  openClock : String → Action W (Except ε (H × UInt32))
  /-- Make the servo of a freshly opened clock. -/
  makeServo : H → Action W (Except ε S)
  /-- The current time in UTC. -/
  systemTime : Action W Instant
  /-- How a device error is written inside a message. -/
  errorText : ε → String
  /-- How many requests a loop may make before it is given up. -/
  patience : Nat

/-! ### The proportional-integral servo -/

namespace PiServo

variable {W H ε : Type}

/-- Sample, and note a jump in the journal. -/
def sampleNoted (s : PiServo) (offset localNanos : Int64) (weight : Float) :
    Action W ((Float × ServoState) × PiServo) := do
  let (adjustment, next) := s.sample offset weight
  if next.state = .jump then
    Action.log .trace (jumpText offset localNanos)
  return ((adjustment, next.state), next)

def interface : ServoInterface W PiServo where
  sample := sampleNoted
  reset s := return s.reset
  frequency := frequency

/-- A servo that starts from the present frequency of a device and stays
    within its range.  The frequency is written back, so that the device and
    the servo agree on it. -/
def forDevice (device : DeviceInterface W H ε) (gains : PiGains) (thresholds : LockThresholds)
    (handle : H) : Action W (Except ε PiServo) := do
  match ← device.frequency handle with
  | .error e => return .error e
  | .ok frequency =>
    match ← device.setFrequency handle frequency with
    | .error e => return .error e
    | .ok () =>
      match ← device.maxFrequency handle with
      | .error e => return .error e
      | .ok maxAdjustment => return .ok (start gains thresholds frequency maxAdjustment 1)

end PiServo

end ClockDiscipline
