/-
  ClockDiscipline/Servo/Lock.lean
  ===============================
  **Whether a clock follows its reference.**

  The state of a servo depends on nothing but the sizes of the offsets it has
  seen: a first offset that is too large makes the clock jump, a later one
  that is too large makes it jump again, and a run of small ones makes the
  lock stable.
-/
import ClockDiscipline.Checked

namespace ClockDiscipline

/-- The state of a servo after a sample. -/
inductive ServoState where
  /-- No sample has been seen. -/
  | unlocked
  /-- The clock is to be stepped. -/
  | jump
  /-- The frequency is to be corrected. -/
  | locked
  /-- The offset has been small for a while. -/
  | lockedStable
deriving DecidableEq, Repr

namespace ServoState

def index : ServoState → Nat
  | .unlocked => 0
  | .jump => 1
  | .locked => 2
  | .lockedStable => 3

/-- Whether the reference is being tracked. -/
def isLocked : ServoState → Bool
  | .locked | .lockedStable => true
  | .unlocked | .jump => false

def name : ServoState → String
  | .unlocked => "unlocked"
  | .jump => "jump"
  | .locked => "locked"
  | .lockedStable => "locked-stable"

def debugText : ServoState → String
  | .unlocked => "Unlocked"
  | .jump => "Jump"
  | .locked => "Locked"
  | .lockedStable => "LockedStable"

def all : List ServoState := [.unlocked, .jump, .locked, .lockedStable]

def ofName? (name : String) : Option ServoState := all.find? fun s => s.name == name

end ServoState

/-- The offsets at which the state changes, in nanoseconds.  A threshold that
    is not positive is switched off. -/
structure LockThresholds where
  /-- Above this the very first offset makes the clock jump. -/
  firstStep : Int64 := 20000
  /-- Above this a later offset makes the clock jump. -/
  step : Int64 := 0
  /-- Up to this an offset counts towards a stable lock. -/
  stableOffset : Int64 := 0
  /-- How many such offsets in a row make the lock stable. -/
  stableCount : UInt32 := 10
deriving DecidableEq, Repr

/-- The lock state of a servo and the offsets counted towards a stable
    lock. -/
structure LockTracker where
  thresholds : LockThresholds
  state : ServoState
  stableSamples : UInt32
deriving DecidableEq, Repr

namespace LockTracker

def start (thresholds : LockThresholds) : LockTracker := ⟨thresholds, .unlocked, 0⟩

/-- Forget every offset. -/
def reset (t : LockTracker) : LockTracker := start t.thresholds

/-- Whether a threshold is switched on and exceeded. -/
def exceeds (threshold magnitude : Int64) : Bool :=
  0 < threshold.toInt && threshold.toInt < magnitude.toInt

/-- The threshold for the next offset. -/
def stepThreshold (t : LockTracker) : Int64 :=
  if t.state = .unlocked then t.thresholds.firstStep else t.thresholds.step

/-- Count an offset that does not make the clock jump. -/
def settle (t : LockTracker) (magnitude : Int64) : LockTracker :=
  if t.thresholds.stableOffset.toInt ≤ 0 then { t with state := .locked }
  else
    let samples :=
      if magnitude.toInt ≤ t.thresholds.stableOffset.toInt then
        UInt32.ofNat (min (t.stableSamples.toNat + 1) 0xFFFFFFFF)
      else 0
    { t with
      state := if max t.thresholds.stableCount.toNat 1 ≤ samples.toNat then .lockedStable
               else .locked
      stableSamples := samples }

/-- Judge the next offset. -/
def update (t : LockTracker) (offset : Int64) : LockTracker :=
  let magnitude := Checked.magnitude offset
  if exceeds t.stepThreshold magnitude then { t with state := .jump, stableSamples := 0 }
  else t.settle magnitude

end LockTracker

end ClockDiscipline
