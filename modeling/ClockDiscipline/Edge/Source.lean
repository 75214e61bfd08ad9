/-
  ClockDiscipline/Edge/Source.lean
  ================================
  **An input of a clock that the pulse is connected to.**

  A source routes a pin to a channel of its clock, and takes the events of
  that channel off the clock's queue.  Whatever is queued before it starts to
  listen belongs to somebody else and is dropped.
-/
import ClockDiscipline.Clock.Registry

namespace ClockDiscipline

/-- Which input of which clock to listen to. -/
structure SourceConfig where
  device : String
  pinIndex : UInt32 := 0
  channel : UInt32 := 0
  polarity : Polarity := .rising
  /-- Added to every event, in nanoseconds. -/
  correction : Int64 := 0
  /-- How long the pulse stays up, in nanoseconds. -/
  pulseWidth : Int64 := 500000000
deriving DecidableEq, Repr

structure EdgeSource where
  /-- The device name it was configured with. -/
  name : String
  clock : ClockId
  pinIndex : UInt32
  channel : UInt32
  polarity : Polarity
  correction : Duration
  window : IgnoreWindow
deriving DecidableEq, Repr

/-- Why no event of a source could be taken. -/
inductive EventError (ε : Type) where
  | device (error : ε)
  | unexpectedChannel (expected got : UInt32)
  | noEvent
deriving Repr

namespace EventError

variable {ε : Type}

def message (errorText : ε → String) : EventError ε → String
  | .device e => s!"extts device error: {errorText e}"
  | .unexpectedChannel expected got =>
    s!"extts on unexpected channel {got.toNat}, expected {expected.toNat}"
  | .noEvent => "no extts event available"

def debugText (errorText : ε → String) : EventError ε → String
  | .device e => s!"Device({errorText e})"
  | .unexpectedChannel expected got =>
    s!"UnexpectedChannel \x7b expected: {expected.toNat}, got: {got.toNat} \x7d"
  | .noEvent => "NoEvent"

end EventError

variable {W H S ε : Type}

/-! ### Dropping events -/

/-- Read events until there are none, `count` having been dropped before. -/
def drainFrom (env : Environment W H S ε) (handle : H) (name : String) :
    Nat → Nat → Action W (Except ε Nat)
  | 0, _ => Action.checked (.error .unfinished)
  | patience + 1, count => do
    match ← env.device.nextEvent handle with
    | .error e => return .error e
    | .ok none => return .ok count
    | .ok (some event) =>
      Action.log .debug s!"{name} skip extts index {event.channel.toNat} at {event.time.text}"
      drainFrom env handle name patience (count + 1)

/-- Drop all queued events; the result is their number. -/
def drain (env : Environment W H S ε) (handle : H) (name : String) : Action W (Except ε Nat) :=
  drainFrom env handle name env.patience 0

/-! ### Sources -/

namespace EdgeSource

def ofConfig (config : SourceConfig) (clock : ClockId) : Checked EdgeSource := do
  let window ← IgnoreWindow.ofPulseWidth ⟨config.pulseWidth⟩
  return {
    name := config.device
    clock := clock
    pinIndex := config.pinIndex
    channel := config.channel
    polarity := config.polarity
    correction := ⟨config.correction⟩
    window := window }

/-- Route the pin, if the device has any that can be routed. -/
def routePin (env : Environment W H S ε) (s : EdgeSource) (handle : H) :
    Action W (Except ε Unit) := do
  match ← env.device.pinCount handle with
  | .error e => return .error e
  | .ok pins =>
    if 0 < pins then env.device.setPinFunction handle s.pinIndex s.channel
    else return .ok ()

/-- Prepare the input.  A device that can not stop latching is noted only. -/
def setup (env : Environment W H S ε) (s : EdgeSource) (handle : H) :
    Action W (Except ε Unit) := do
  match ← s.routePin env handle with
  | .error e => return .error e
  | .ok () =>
    match ← env.device.disableEdges handle s.channel with
    | .error e => Action.log .error s!"{s.name}: disabling extts failed: {env.errorText e}"
    | .ok () => pure ()
    return (← drain env handle s.name).map fun _ => ()

/-- Start to listen. -/
def arm (env : Environment W H S ε) (s : EdgeSource) (handle : H) :
    Action W (Except ε Unit) := do
  match ← drain env handle s.name with
  | .error e => return .error e
  | .ok _ => env.device.enableEdges handle s.channel s.polarity

/-- Stop to listen. -/
def disarm (env : Environment W H S ε) (s : EdgeSource) (handle : H) :
    Action W (Except ε Unit) := do
  match ← env.device.disableEdges handle s.channel with
  | .error e => return .error e
  | .ok () => return (← drain env handle s.name).map fun _ => ()

/-- Take the next event, which has to be of this source's channel. -/
def takeEvent (env : Environment W H S ε) (s : EdgeSource) (handle : H) :
    Action W (Except (EventError ε) EdgeEvent) := do
  match ← env.device.nextEvent handle with
  | .error e => return .error (.device e)
  | .ok none => return .error .noEvent
  | .ok (some event) =>
    if event.channel = s.channel then return .ok event
    else return .error (.unexpectedChannel s.channel event.channel)

/-- Attribute an event to an edge of the reference. -/
def pair (s : EdgeSource) (event : EdgeEvent) (reference : Instant) : Action W Pairing := do
  let pairing ← Action.checked (pairEvent event.time s.correction reference s.polarity s.window)
  if pairing = .ambiguous then
    Action.log .debug
      s!"{s.name} skip extts index {event.channel.toNat} at {event.time.text} src {reference.text}"
  return pairing

/-- Take the next event and attribute it. -/
def readEvent (env : Environment W H S ε) (s : EdgeSource) (handle : H) (reference : Instant) :
    Action W (Except (EventError ε) Pairing) := do
  match ← s.takeEvent env handle with
  | .error e => return .error e
  | .ok event => return .ok (← s.pair event reference)

end EdgeSource

end ClockDiscipline
