/-
  ClockDiscipline/Phc/Device.lean
  ===============================
  **A hardware clock as a device that can be steered.**

  Frequencies are parts per billion here and scaled parts per million in the
  kernel.  After a change the time of the clock is read, and a failure of that
  counts as one of the change, although the change has been made.
-/
import ClockDiscipline.Clock.Device
import ClockDiscipline.Decimal.Binary64
import ClockDiscipline.Phc.Error
import ClockDiscipline.Phc.Kernel
import ClockDiscipline.Phc.Record

namespace ClockDiscipline.Phc

open Kernel

/-! ### Units -/

/-- The largest scaled frequency that is asked for. -/
def largestScaled : Nat := 32767999

/-- The whole number nearest to a double, in the range of scaled frequencies;
    zero for what is not a number. -/
def scaledNearest (x : Float) : Int :=
  match Binary64.ofFloat x with
  | .nan => 0
  | .infinite negative => if negative then -largestScaled else largestScaled
  | .finite negative significand exponent =>
    let magnitude := min (Binary64.nearestWhole .away significand exponent) largestScaled
    if negative then -magnitude else magnitude

/-- Parts per billion as scaled parts per million. -/
def scaledOfFrequency (frequency : Float) : Int64 :=
  Int64.ofInt (scaledNearest (frequency / 1000 * 65536))

/-- Scaled parts per million as parts per billion. -/
def frequencyOfScaled (scaled : Int64) : Float := Float.ofInt scaled.toInt / 65.536

/-- An offset in seconds and nanoseconds, of which only the seconds may be
    negative. -/
def shiftOf (offset : Duration) : Adjustment :=
  .shift (Int64.ofInt (offset.nanos.toInt / nanosPerSecond))
    (UInt32.ofNat (offset.nanos.toInt % nanosPerSecond).toNat)

/-- The flags that make a channel latch edges. -/
def edgeFlags : Polarity → UInt32
  | .rising => InputRequest.enable ||| InputRequest.risingEdge
  | .falling => InputRequest.enable ||| InputRequest.fallingEdge
  | .both => InputRequest.enable ||| (InputRequest.risingEdge ||| InputRequest.fallingEdge)

/-! ### Requests -/

variable {W F : Type}

/-- An answer of the kernel about reading or adjusting the time. -/
def steered {α : Type} (answer : Except Errno α) : Action W (Except PhcError α) :=
  match answer with
  | .ok a => return .ok a
  | .error e => return .error (.steering (← Action.checked (SteeringError.ofErrno e)))

/-- Any other answer of the kernel. -/
def answered {α : Type} (answer : Except Errno α) : Except PhcError α := answer.mapError .io

/-- Whether the time has to be read after an adjustment.  The kernel hands
    back the adjustment itself, and a shift with neither part zero passes for
    the time. -/
def Adjustment.needsTime : Adjustment → Bool
  | .frequency _ => true
  | .shift secs nanos => secs == 0 || nanos == 0

def adjust (kernel : Interface W F) (file : F) (adjustment : Adjustment) :
    Action W (Except PhcError Unit) := do
  match ← kernel.adjust file adjustment with
  | .error e => steered (.error e)
  | .ok () =>
    if adjustment.needsTime then
      return (← steered (← kernel.readTime file)).map fun _ => ()
    else return .ok ()

def now (kernel : Interface W F) (file : F) : Action W (Except PhcError Instant) := do
  match ← steered (← kernel.readTime file) with
  | .error e => return .error e
  | .ok (secs, nanos) => return .ok (← Action.checked (Instant.ofSecsNanos secs nanos))

/-- Read the record of an event. -/
def readEvent (kernel : Interface W F) (file : F) : Action W (Except PhcError EdgeEvent) := do
  match ← kernel.readBytes file EventRecord.size with
  | .error e => return .error (.io e)
  | .ok bytes =>
    if bytes.length < EventRecord.size then return .error .unexpectedEnd
    else return .ok (← Action.checked (EventRecord.ofBytes bytes).event)

/-- Take the next event off the queue, without waiting for one. -/
def nextEvent (kernel : Interface W F) (file : F) :
    Action W (Except PhcError (Option EdgeEvent)) := do
  match (← kernel.poll [file] 0).anything with
  | .error e => return .error (.io e)
  | .ok false => return .ok none
  | .ok true => return (← readEvent kernel file).map some

/-- The number of pins; some clocks claim to have less than none. -/
def Capabilities.pinCount (c : Capabilities) : UInt32 := UInt32.ofNat c.pins.toInt.toNat

/-- Hardware clocks behind a kernel. -/
def device (kernel : Interface W F) : DeviceInterface W F PhcError where
  now := now kernel
  frequency file := return (answered (← kernel.readFrequency file)).map frequencyOfScaled
  setFrequency file frequency := adjust kernel file (.frequency (scaledOfFrequency frequency))
  step file offset := adjust kernel file (shiftOf offset)
  maxFrequency file :=
    return (answered (← kernel.capabilities file)).map fun c => Float.ofInt c.maxAdjustment.toInt
  pinCount file := return (answered (← kernel.capabilities file)).map Capabilities.pinCount
  setPinFunction file pin channel :=
    return answered (← kernel.setInput file (.pin pin InputRequest.inputFunction channel))
  enableEdges file channel polarity :=
    return answered (← kernel.setInput file (.edges channel (edgeFlags polarity)))
  disableEdges file channel := return answered (← kernel.setInput file (.edges channel 0))
  nextEvent := nextEvent kernel

end ClockDiscipline.Phc
