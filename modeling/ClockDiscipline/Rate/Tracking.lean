/-
  ClockDiscipline/Rate/Tracking.lean
  ==================================
  **Steering a clock that can only be advanced and run at another rate.**

  Such a clock sits behind a slow bus.  In the reset phase it is set one
  second behind the reference and advanced by what it then lacks; in the
  tracking phase its rate follows a servo.  Both phases measure the offset in
  the same way: of three readings taken between two readings of the
  reference, the one with the shortest round trip counts.
-/
import ClockDiscipline.Rate.Register
import ClockDiscipline.Servo.Pi
import ClockDiscipline.Time.Instant
import ClockDiscipline.Journal

namespace ClockDiscipline

/-! ### The bus and the reference -/

/-- Transactions with a clock behind a bus.  The clock counts ticks. -/
structure ClockBus (W β : Type) where
  writeRate : RateRegister → Action W (Except β Unit)
  readCounter : Action W (Except β UInt64)
  setTime : UInt64 → Action W (Except β Unit)
  addTime : UInt64 → Action W (Except β Unit)

/-- A clock behind a bus and the reference that it follows. -/
structure BusClock (W β γ : Type) where
  bus : ClockBus W β
  reference : Action W (Except γ Instant)

structure TrackingConfig where
  /-- Offsets of this size or more are not corrected, in nanoseconds. -/
  maxOffset : Int64 := 10000
  /-- The length of a tick in nanoseconds. -/
  tickNanos : UInt32 := 8
  /-- The time between two cycles in milliseconds. -/
  periodMs : UInt64 := 125
  gains : PiGains := {}

/-- The period in seconds: the whole seconds and the rest, each exact. -/
def TrackingConfig.periodSeconds (config : TrackingConfig) : Float :=
  Float.ofNat (config.periodMs.toNat / 1000) +
    Float.ofNat (config.periodMs.toNat % 1000 * 1000000) / 1000000000

/-! ### Outcomes -/

/-- How far the clock is ahead, and half the round trip of the reading. -/
structure Measurement where
  offset : Duration
  delay : Duration
deriving DecidableEq, Repr

inductive TrackingOutcome where
  /-- The rate was corrected. -/
  | adjusted (measured : Measurement) (rate : RateRegister)
  /-- The offset was too large. -/
  | skipped (measured : Measurement) (resetRequested : Bool)
deriving DecidableEq, Repr

inductive TrackingError (β γ : Type) where
  | bus (error : β)
  | clock (error : γ)
  | range (error : RangeError)

def TrackingError.message {β γ : Type} (busText : β → String) (clockText : γ → String) :
    TrackingError β γ → String
  | .bus e => s!"management bus fault: {busText e}"
  | .clock e => s!"reference clock error: {clockText e}"
  | .range e => e.message

/-! ### Measuring -/

variable {W β γ : Type}

/-- The best reading so far: its round trip, and the offset it shows. -/
structure Best where
  roundTrip : Int64
  offset : Int64
deriving DecidableEq, Repr

/-- Before any reading. -/
def Best.none : Best := ⟨Int64.ofInt 0x7FFFFFFFFFFFFFFF, 0⟩

/-- Take a reading between two readings of the reference into account.  The
    counter is a signed word from here on. -/
def Best.consider (best : Best) (tick : Int64) (before : Instant) (ticks : UInt64)
    (after : Instant) : Checked Best := do
  let roundTrip ← after.since before
  if roundTrip.nanos.toInt < best.roundTrip.toInt then
    let nanos ← Checked.mul ticks.toInt64 tick
    let ahead ← Checked.sub nanos before.nanos
    let half ← Checked.quot roundTrip.nanos 2
    return ⟨roundTrip.nanos, ← Checked.sub ahead half⟩
  else return best

def Best.measurement (best : Best) : Checked Measurement := do
  return ⟨⟨best.offset⟩, ⟨← Checked.quot best.roundTrip 2⟩⟩

namespace BusClock

/-- Read the reference, the counter and the reference again. -/
def readBetween (c : BusClock W β γ) :
    Action W (Except (TrackingError β γ) (Instant × UInt64 × Instant)) := do
  match ← c.reference with
  | .error e => return .error (.clock e)
  | .ok before =>
    match ← c.bus.readCounter with
    | .error e => return .error (.bus e)
    | .ok ticks =>
      match ← c.reference with
      | .error e => return .error (.clock e)
      | .ok after => return .ok (before, ticks, after)

/-- Take that many more readings. -/
def measureFrom (c : BusClock W β γ) (tick : Int64) :
    Nat → Best → Action W (Except (TrackingError β γ) Best)
  | 0, best => return .ok best
  | n + 1, best => do
    match ← c.readBetween with
    | .error e => return .error e
    | .ok (before, ticks, after) =>
      measureFrom c tick n (← Action.checked (best.consider tick before ticks after))

end BusClock

def TrackingConfig.tick (config : TrackingConfig) : Int64 :=
  Int64.ofInt config.tickNanos.toNat

def measure (c : BusClock W β γ) (config : TrackingConfig) :
    Action W (Except (TrackingError β γ) Measurement) := do
  match ← c.measureFrom config.tick 3 .none with
  | .error e => return .error e
  | .ok best => return .ok (← Action.checked best.measurement)

/-! ### Tracking -/

structure RateTracker where
  config : TrackingConfig
  servo : PiServo
  /-- Whether the next cycle starts with the reset phase. -/
  resetRequested : Bool
  /-- The offset measured by the last tracking phase that came so far. -/
  lastOffset : Option Duration

namespace RateTracker

/-- The clock is never stepped by the servo, and its first cycle resets
    it. -/
def start (config : TrackingConfig) : RateTracker where
  config := config
  servo := .start config.gains { firstStep := 0 } 0 0 config.periodSeconds
  resetRequested := true
  lastOffset := none

/-- The ticks to set the clock to: one second behind the reference, but not
    before its epoch. -/
def ticksBehind (config : TrackingConfig) (now : Instant) : Checked UInt64 := do
  let behind ← now.sub .oneSecond
  return UInt64.ofNat (behind.nanos.toInt.toNat / config.tickNanos.toNat)

/-- The ticks to advance a clock by that is behind. -/
def ticksLacking (config : TrackingConfig) (offset : Duration) : Checked UInt64 := do
  let lacking ← offset.neg
  let ticks ← Checked.quot lacking.nanos config.tick
  return ticks.toUInt64

/-- Set the clock one second behind, at its own speed. -/
def setBehind (c : BusClock W β γ) (config : TrackingConfig) :
    Action W (Except (TrackingError β γ) Unit) := do
  match ← c.bus.writeRate .nominal with
  | .error e => return .error (.bus e)
  | .ok () =>
    match ← c.reference with
    | .error e => return .error (.clock e)
    | .ok now =>
      return (← c.bus.setTime (← Action.checked (ticksBehind config now))).mapError .bus

/-- Advance the clock by what it lacks.  One that is not behind can not be
    brought back. -/
def advance (c : BusClock W β γ) (config : TrackingConfig) (offset : Duration) :
    Action W (Except (TrackingError β γ) Unit) := do
  if offset.isNegative then
    return (← c.bus.addTime (← Action.checked (ticksLacking config offset))).mapError .bus
  else return .error (.range (.offset offset.nanos.toInt))

/-- The reset phase. -/
def reset (c : BusClock W β γ) (t : RateTracker) :
    Action W (Except (TrackingError β γ) Unit × RateTracker) := do
  match ← setBehind c t.config with
  | .error e => return (.error e, t)
  | .ok () =>
    match ← measure c t.config with
    | .error e => return (.error e, t)
    | .ok m =>
      Action.log .debug s!"bus clock reset: offset {m.offset.text}, delay {m.delay.text}"
      match ← advance c t.config m.offset with
      | .error e => return (.error e, t)
      | .ok () => return (.ok (), { t with resetRequested := false, servo := t.servo.reset })

def columnText (d : Duration) : String := Text.padLeft 9 ' ' (toString d.nanos.toInt)

/-- Correct the rate for an offset that is small enough. -/
def correct (c : BusClock W β γ) (t : RateTracker) (m : Measurement) :
    Action W (Except (TrackingError β γ) TrackingOutcome × RateTracker) := do
  let (adjustment, servo) := t.servo.sample m.offset.nanos 1
  let t := { t with servo := servo }
  match RateRegister.encode (1 + adjustment) with
  | .error e => return (.error (.range e), t)
  | .ok rate =>
    match ← c.bus.writeRate rate with
    | .error e => return (.error (.bus e), t)
    | .ok () => return (.ok (.adjusted m rate), t)

/-- The tracking phase. -/
def track (c : BusClock W β γ) (t : RateTracker) :
    Action W (Except (TrackingError β γ) TrackingOutcome × RateTracker) := do
  match ← measure c t.config with
  | .error e => return (.error e, t)
  | .ok m =>
    let t := { t with lastOffset := some m.offset }
    Action.log .debug s!"bus clock offset {columnText m.offset} ns, delay {columnText m.delay} ns"
    let size := m.offset.abs.nanos.toInt
    if t.config.maxOffset.toInt ≤ size then
      let limit := t.config.maxOffset.toInt
      Action.log .error s!"bus clock offset {m.offset.text} exceeds maximum of {limit}ns"
      let t := { t with resetRequested := t.resetRequested || nanosPerSecond ≤ size }
      return (.ok (.skipped m t.resetRequested), t)
    else t.correct c m

/-- One cycle without the answer to a bus fault. -/
def run (c : BusClock W β γ) (t : RateTracker) :
    Action W (Except (TrackingError β γ) TrackingOutcome × RateTracker) := do
  if t.resetRequested then
    let (result, t) ← t.reset c
    match result with
    | .error e => return (.error e, t)
    | .ok () => t.track c
  else t.track c

/-- Ask for a reset if the last offset was too large. -/
def afterBusFault (t : RateTracker) : RateTracker :=
  match t.lastOffset with
  | some offset =>
    if t.config.maxOffset.toInt ≤ offset.abs.nanos.toInt then { t with resetRequested := true }
    else t
  | none => t

/-- One cycle: the reset phase if it is asked for, then the tracking phase. -/
def sync (c : BusClock W β γ) (t : RateTracker) :
    Action W (Except (TrackingError β γ) TrackingOutcome × RateTracker) := do
  let (result, t) ← t.run c
  match result with
  | .error (.bus e) => return (.error (.bus e), t.afterBusFault)
  | result => return (result, t)

end RateTracker

end ClockDiscipline
