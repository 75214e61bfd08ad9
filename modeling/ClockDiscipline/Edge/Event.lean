/-
  ClockDiscipline/Edge/Event.lean
  ===============================
  **Pulse edges latched by a clock, and what they say about its offset.**

  The pulse rises on the full second of the reference.  When both of its
  edges are latched, the one seen in the middle of a second may be its end,
  and such events are ignored; every other event is attributed to the second
  nearest to the reference at the time it is handled.
-/
import ClockDiscipline.Time.Instant

namespace ClockDiscipline

/-- Which edges of the pulse are latched. -/
inductive Polarity where
  | rising
  | falling
  | both
deriving DecidableEq, Repr

namespace Polarity

def all : List Polarity := [.rising, .falling, .both]

def name : Polarity → String
  | .rising => "rising"
  | .falling => "falling"
  | .both => "both"

def ofName? (name : String) : Option Polarity := all.find? fun p => p.name == name

def isBoth (p : Polarity) : Bool := p == .both

end Polarity

/-- An edge on a channel, with the time of the clock that latched it. -/
structure EdgeEvent where
  channel : UInt32
  time : Instant
deriving DecidableEq, Repr

/-! ### Ambiguous events -/

/-- The sub-second times of the reference, both bounds excluded, at which an
    event may be the end of the pulse. -/
structure IgnoreWindow where
  lower : Int64
  upper : Int64
deriving DecidableEq, Repr

namespace IgnoreWindow

/-- All that is further than half the pulse width from the second. -/
def ofPulseWidth (width : Duration) : Checked IgnoreWindow := do
  let half ← Checked.quot width.nanos 2
  let upper ← Checked.sub 1000000000 half
  return ⟨half, upper⟩

def contains (w : IgnoreWindow) (subsec : Nat) : Bool :=
  w.lower.toInt < subsec && subsec < w.upper.toInt

end IgnoreWindow

/-! ### Pairing with the reference -/

/-- What an event yields. -/
inductive Pairing where
  /-- A sample: the corrected local time of the edge, and how far that is
      ahead of the edge of the reference. -/
  | sample (offset : Duration) (localTime : Instant)
  /-- Nothing, as the event may belong to either edge. -/
  | ambiguous
deriving DecidableEq, Repr

/-- Attribute an event to an edge of the reference. -/
def pairEvent (event : Instant) (correction : Duration) (reference : Instant)
    (polarity : Polarity) (window : IgnoreWindow) : Checked Pairing :=
  if polarity.isBoth && window.contains reference.subsec then .ok .ambiguous
  else do
    let localTime ← event.add correction
    let edge ← reference.roundToSecond
    let offset ← localTime.since edge
    return .sample offset localTime

/-! ### Pulses out of phase -/

/-- The edge nearest to `t` of a pulse that rises `phase` after every full
    second. -/
def approximateEdge (t : Instant) (phase : Duration) : Checked Instant := do
  let shifted ← t.sub phase
  let edge ← shifted.roundToSecond
  edge.add phase

end ClockDiscipline
