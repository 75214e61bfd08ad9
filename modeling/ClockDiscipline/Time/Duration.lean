/-
  ClockDiscipline/Time/Duration.lean
  ==================================
  **Signed spans of time with nanosecond resolution.**
-/
import ClockDiscipline.Checked

namespace ClockDiscipline

/-- Nanoseconds in one second. -/
def nanosPerSecond : Int := 1000000000

/-- A signed span of time. -/
structure Duration where
  nanos : Int64
deriving DecidableEq, Repr

namespace Duration

/-! ### Spans of whole units -/

def ofNanos (n : Int64) : Duration := ⟨n⟩

def zero : Duration := ⟨0⟩

def oneSecond : Duration := ⟨1000000000⟩

/-- The span of an exact number of nanoseconds, if it is in range. -/
def exactly (n : Int) : Checked Duration := ofNanos <$> Checked.word n

def ofMicros (n : Int64) : Checked Duration := exactly (n.toInt * 1000)

def ofMillis (n : Int64) : Checked Duration := exactly (n.toInt * 1000000)

def ofSecs (n : Int64) : Checked Duration := exactly (n.toInt * nanosPerSecond)

/-! ### Arithmetic -/

def neg (d : Duration) : Checked Duration := ofNanos <$> Checked.neg d.nanos

def add (a b : Duration) : Checked Duration := ofNanos <$> Checked.add a.nanos b.nanos

def sub (a b : Duration) : Checked Duration := ofNanos <$> Checked.sub a.nanos b.nanos

/-- The length without its direction. -/
def abs (d : Duration) : Duration := ⟨Checked.magnitude d.nanos⟩

def isNegative (d : Duration) : Bool := d.nanos.toInt < 0

/-- The length in seconds, rounded once for the nanoseconds and once for the
    quotient. -/
def seconds (d : Duration) : Float := Float.ofInt d.nanos.toInt / 1000000000

/-- Whole seconds and remaining nanoseconds of a span that points forward;
    one that points back counts as empty. -/
def elapsed (d : Duration) : Nat × Nat :=
  (d.nanos.toInt.toNat / 1000000000, d.nanos.toInt.toNat % 1000000000)

instance : Ord Duration := ⟨fun a b => compare a.nanos.toInt b.nanos.toInt⟩

/-! ### Text -/

def text (d : Duration) : String := s!"{d.nanos.toInt}ns"

def debugText (d : Duration) : String := s!"Duration({d.text})"

end Duration

end ClockDiscipline
