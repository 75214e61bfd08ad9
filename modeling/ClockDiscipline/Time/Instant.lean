/-
  ClockDiscipline/Time/Instant.lean
  =================================
  **Points in time, and their split into seconds and a sub-second part.**

  An instant counts nanoseconds from the epoch of its clock.  Its seconds are
  rounded towards the past, so that the sub-second part is never negative;
  `secs_subsec` says that the two add up to the instant again.
-/
import ClockDiscipline.Time.Duration
import ClockDiscipline.Text.Padding

namespace ClockDiscipline

/-- A point on the timescale of some clock. -/
structure Instant where
  nanos : Int64
deriving DecidableEq, Repr

namespace Instant

def ofNanos (n : Int64) : Instant := ⟨n⟩

def epoch : Instant := ⟨0⟩

/-- The instant `n` nanoseconds after the epoch, if it is in range. -/
def exactly (n : Int) : Checked Instant := ofNanos <$> Checked.word n

/-! ### Whole seconds -/

/-- Whole seconds since the epoch, rounded towards the past. -/
def secs (t : Instant) : Int := t.nanos.toInt / nanosPerSecond

/-- Nanoseconds since the last whole second. -/
def subsec (t : Instant) : Nat := (t.nanos.toInt % nanosPerSecond).toNat

/-- Join seconds and nanoseconds.  The seconds are scaled before anything is
    added, so they have to fit on their own. -/
def ofSecsNanos (secs : Int64) (nanos : UInt32) : Checked Instant := do
  let whole ← Checked.word (secs.toInt * nanosPerSecond)
  exactly (whole.toInt + nanos.toNat)

/-- The nearest whole second, the earlier one for exactly half a second. -/
def roundToSecond (t : Instant) : Checked Instant :=
  exactly ((if 500000000 < t.subsec then t.secs + 1 else t.secs) * nanosPerSecond)

theorem secs_subsec (t : Instant) : t.secs * nanosPerSecond + t.subsec = t.nanos.toInt := by
  unfold secs subsec nanosPerSecond
  omega

theorem subsec_lt (t : Instant) : t.subsec < 1000000000 := by
  unfold subsec nanosPerSecond
  omega

/-! ### Arithmetic -/

def add (t : Instant) (d : Duration) : Checked Instant :=
  ofNanos <$> Checked.add t.nanos d.nanos

def sub (t : Instant) (d : Duration) : Checked Instant :=
  ofNanos <$> Checked.sub t.nanos d.nanos

/-- The span from `s` to `t`. -/
def since (t s : Instant) : Checked Duration :=
  Duration.ofNanos <$> Checked.sub t.nanos s.nanos

instance : Ord Instant := ⟨fun a b => compare a.nanos.toInt b.nanos.toInt⟩

/-! ### Text -/

def text (t : Instant) : String := s!"{t.secs}.{Text.zeroPadded 9 t.subsec}"

def debugText (t : Instant) : String := s!"Time({t.text})"

end Instant

end ClockDiscipline
