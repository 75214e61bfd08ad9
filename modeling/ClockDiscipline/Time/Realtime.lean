/-
  ClockDiscipline/Time/Realtime.lean
  ==================================
  **The time of the system clock.**
-/
import ClockDiscipline.Time.Instant

namespace ClockDiscipline

/-- What the system clock shows: whole seconds, rounded towards the past, and
    nanoseconds. -/
structure SystemTime where
  secs : Int64
  nanos : UInt32
deriving DecidableEq, Repr

namespace SystemTime

/-- The system time so many nanoseconds after the epoch. -/
def ofNanos (nanos : Int64) : SystemTime where
  secs := Int64.ofInt (nanos.toInt / nanosPerSecond)
  nanos := UInt32.ofNat (nanos.toInt % nanosPerSecond).toNat

/-- The instant of a system time.  Before the epoch the span up to it is
    taken, and taken off again. -/
def instant (t : SystemTime) : Checked Instant :=
  if 0 ≤ t.secs.toInt then Instant.ofSecsNanos t.secs t.nanos
  else Instant.epoch.sub
    ⟨Int64.ofInt (-(t.secs.toInt * nanosPerSecond + t.nanos.toNat))⟩

end SystemTime

end ClockDiscipline
