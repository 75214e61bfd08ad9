/-
  ClockDiscipline/Servo/Pi.lean
  =============================
  **A proportional-integral servo.**

  Each sample adds `offset * ki * weight` to a bounded accumulator, and the
  correction is the negated sum of the accumulator and `offset * kp`, scaled
  down by `adjustmentScale`.  A sample that makes the clock jump leaves
  nothing to integrate and clears the accumulator.
-/
import ClockDiscipline.Servo.Lock

namespace ClockDiscipline

/-- The bound of the accumulator, and the scale of a correction. -/
def adjustmentScale : Float := 10000000

structure PiGains where
  kp : Float := 0.007
  ki : Float := 0.003

structure PiServo where
  gains : PiGains
  /-- The accumulator. -/
  drift : Float
  /-- The frequency the clock started from, in parts per billion. -/
  initialFrequency : Float
  /-- The largest frequency that may be asked for; none if not positive. -/
  maxAdjustment : Float
  /-- Seconds between samples. -/
  interval : Float
  lock : LockTracker

/-- `x` moved into the range between `least` and `greatest`. -/
def clampFloat (x least greatest : Float) : Float :=
  let x := if x < least then least else x
  if greatest < x then greatest else x

namespace PiServo

def start (gains : PiGains) (thresholds : LockThresholds)
    (initialFrequency maxAdjustment interval : Float) : PiServo where
  gains := gains
  drift := 0
  initialFrequency := initialFrequency
  maxAdjustment := maxAdjustment
  interval := interval
  lock := .start thresholds

/-- The state after the last sample. -/
def state (s : PiServo) : ServoState := s.lock.state

/-- Feed a measured offset in nanoseconds; the result is the dimensionless
    frequency correction. -/
def sample (s : PiServo) (offset : Int64) (weight : Float) : Float × PiServo :=
  let lock := s.lock.update offset
  if lock.state = .jump then (0, { s with drift := 0, lock := lock })
  else
    let x := Float.ofInt offset.toInt
    let drift := clampFloat (s.drift + x * s.gains.ki * weight) (-adjustmentScale) adjustmentScale
    (-(x * s.gains.kp + drift) / adjustmentScale, { s with drift := drift, lock := lock })

/-- Forget everything but the configuration. -/
def reset (s : PiServo) : PiServo := { s with drift := 0, lock := s.lock.reset }

def setInterval (s : PiServo) (interval : Float) : PiServo := { s with interval := interval }

/-- The frequency in parts per billion that realises a correction. -/
def frequency (s : PiServo) (adjustment : Float) : Float :=
  let f := s.initialFrequency + adjustment * 1000000000
  if 0 < s.maxAdjustment then clampFloat f (-s.maxAdjustment) s.maxAdjustment else f

/-- What a sample that made the clock jump writes to the journal. -/
def jumpText (offset localNanos : Int64) : String :=
  s!"servo jump at {localNanos.toInt}, offset {offset.toInt}"

end PiServo

end ClockDiscipline
