/-
  ClockDiscipline/Switch/Clock.lean
  =================================
  **The clock of an SJA1105 switch.**

  The clock is 64 bits wide, with its low word at the lower address.  Writing
  its two words replaces the clock or is added to it, as the control register
  says, so each such write is preceded by one of the control register.
-/
import ClockDiscipline.Rate.Tracking
import ClockDiscipline.Switch.Frame

namespace ClockDiscipline.Switch

/-! ### Registers -/

def controlAddress : UInt32 := 0x17

def clockAddress : UInt32 := 0x18

def rateAddress : UInt32 := 0x1a

/-- The control word is to take effect. -/
def controlValid : UInt32 := 0x80000000

/-- Writes to the clock are added to it. -/
def controlAdd : UInt32 := 1

def lowWord (ticks : UInt64) : UInt32 := ticks.toUInt32

def highWord (ticks : UInt64) : UInt32 := (ticks >>> 32).toUInt32

def joinWords (low high : UInt32) : UInt64 := high.toUInt64 <<< 32 ||| low.toUInt64

/-! ### Transactions -/

/-- Send bytes; as many come back. -/
abbrev Transfer (W β : Type) := List UInt8 → Action W (Except β (List UInt8))

variable {W β : Type}

def writeWords (transfer : Transfer W β) (address : UInt32) (words : List UInt32) :
    Action W (Except β Unit) :=
  return (← transfer (writeFrame address words)).map fun _ => ()

def writeClock (transfer : Transfer W β) (control : UInt32) (ticks : UInt64) :
    Action W (Except β Unit) := do
  match ← writeWords transfer controlAddress [controlValid ||| control] with
  | .error e => return .error e
  | .ok () => writeWords transfer clockAddress [lowWord ticks, highWord ticks]

def readClock (transfer : Transfer W β) : Action W (Except β UInt64) :=
  return (← transfer (readFrame clockAddress 2)).map fun reply =>
    match replyWords 2 reply with
    | [low, high] => joinWords low high
    | _ => 0

/-- The switch as a clock behind a bus. -/
def clockBus (transfer : Transfer W β) : ClockBus W β where
  writeRate rate := writeWords transfer rateAddress [rate.bits]
  readCounter := readClock transfer
  setTime := writeClock transfer 0
  addTime := writeClock transfer controlAdd

end ClockDiscipline.Switch
