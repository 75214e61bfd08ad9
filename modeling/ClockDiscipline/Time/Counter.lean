/-
  ClockDiscipline/Time/Counter.lean
  =================================
  **A continuous nanosecond timeline on top of a wrapping cycle counter.**

  A free running counter shows the low bits of the number of cycles since
  some start.  `TimeBase` turns its readings into nanoseconds: the distance
  between two readings is taken forward around the counter, scaled by
  `mult / 2 ^ shift`, and the part below one nanosecond is carried on to the
  next reading.
-/
import ClockDiscipline.Checked

namespace ClockDiscipline

/-! ### The counter -/

/-- A counter whose valid bits are `mask`, with `mult / 2 ^ shift`
    nanoseconds to the cycle. -/
structure CycleCounter where
  mask : UInt64
  mult : UInt32
  shift : UInt32
deriving DecidableEq, Repr

namespace CycleCounter

/-- A counter of `bits` bits, or of all 64 if there are more. -/
def ofWidth (bits mult shift : UInt32) : CycleCounter where
  mask := UInt64.ofNat (Nat.pow 2 (min bits.toNat 64) - 1)
  mult := mult
  shift := shift

/-- The bits of a scaled cycle count that are carried as its fraction. -/
def fractionMask (c : CycleCounter) : UInt64 :=
  UInt64.ofNat (Nat.pow 2 (min c.shift.toNat 64) - 1)

/-- A scaled cycle count, if it fits into its 128 bits. -/
def wide (scaled : Nat) : Checked Nat :=
  if scaled < 0x100000000000000000000000000000000 then .ok scaled else .error .overflow

/-- Drop the fraction of a scaled cycle count, which can not be shifted by its
    width. -/
def unscale (c : CycleCounter) (scaled : Nat) : Checked UInt64 :=
  if c.shift.toNat < 128 then .ok (UInt64.ofNat (scaled >>> c.shift.toNat))
  else .error .overflow

/-- The nanoseconds in `cycles`, given the fraction left over before, and the
    fraction left over now. -/
def nanosAhead (c : CycleCounter) (cycles fraction : UInt64) : Checked (UInt64 × UInt64) := do
  let scaled ← wide (cycles.toNat * c.mult.toNat + fraction.toNat)
  let nanos ← c.unscale scaled
  return (nanos, UInt64.ofNat scaled &&& c.fractionMask)

/-- The nanoseconds in `cycles` that lie before the point at which `fraction`
    was left over. -/
def nanosBehind (c : CycleCounter) (cycles fraction : UInt64) : Checked UInt64 := do
  let scaled ← wide (cycles.toNat * c.mult.toNat)
  c.unscale (scaled - fraction.toNat)

end CycleCounter

/-! ### The timeline -/

/-- A timeline that was last read when the counter stood at `lastCycle`. -/
structure TimeBase where
  counter : CycleCounter
  lastCycle : UInt64
  nanos : UInt64
  /-- What the readings so far have left below one nanosecond, scaled. -/
  fraction : UInt64
deriving DecidableEq, Repr

namespace TimeBase

/-- A timeline that stands at `nanos` when the counter shows `cycle`. -/
def start (counter : CycleCounter) (cycle nanos : UInt64) : TimeBase where
  counter := counter
  lastCycle := cycle &&& counter.mask
  nanos := nanos
  fraction := 0

/-- Like `start`, from an attempt to read the counter. -/
def startFrom {ε : Type} (counter : CycleCounter) (reading : Except ε UInt64)
    (nanos : UInt64) : Except ε TimeBase :=
  reading.map fun cycle => start counter cycle nanos

/-- Advance to the raw value `cycle`; the result is the time that passed since
    the last reading.  A counter that wrapped in between counts forward. -/
def readDelta (base : TimeBase) (cycle : UInt64) : Checked (UInt64 × TimeBase) := do
  let cycles := (cycle - base.lastCycle) &&& base.counter.mask
  let (delta, fraction) ← base.counter.nanosAhead cycles base.fraction
  return (delta, { base with
    lastCycle := cycle &&& base.counter.mask
    nanos := base.nanos + delta
    fraction := fraction })

/-- Advance to the raw value `cycle`; the result is the new time. -/
def read (base : TimeBase) (cycle : UInt64) : Checked (UInt64 × TimeBase) := do
  let (_, next) ← base.readDelta cycle
  return (next.nanos, next)

/-- Advance to the value of an attempt to read the counter.  A failed attempt
    leaves the timeline where it is. -/
def readFrom {ε : Type} (base : TimeBase) (reading : Except ε UInt64) :
    Checked (Except ε UInt64 × TimeBase) :=
  match reading with
  | .error e => .ok (.error e, base)
  | .ok cycle => do
    let (now, next) ← base.read cycle
    return (.ok now, next)

/-- The time of a raw value latched near the last reading.  Values more than
    half the counter's range ahead lie in the past. -/
def timeOf (base : TimeBase) (cycle : UInt64) : Checked UInt64 := do
  let mask := base.counter.mask
  let ahead := (cycle - base.lastCycle) &&& mask
  if mask / 2 < ahead then
    let behind := (base.lastCycle - cycle) &&& mask
    let nanos ← base.counter.nanosBehind behind base.fraction
    return base.nanos - nanos
  else
    let (nanos, _) ← base.counter.nanosAhead ahead base.fraction
    return base.nanos + nanos

end TimeBase

end ClockDiscipline
