/-
  ClockDiscipline/Phc/Kernel.lean
  ===============================
  **What the kernel is asked about hardware clocks.**

  A hardware clock is a device file.  Its time and frequency are read and
  adjusted like those of any clock; its capabilities, pins and inputs have
  requests of their own.  `F` is the type of open files.  Nothing is said
  here about the answers.
-/
import ClockDiscipline.Kernel.Poll

namespace ClockDiscipline.Phc

open Kernel

/-! ### Adjustments -/

/-- A change of a clock. -/
inductive Adjustment where
  /-- Run at a frequency, in parts per million with 16 fraction bits. -/
  | frequency (scaled : Int64)
  /-- Move the time by seconds and nanoseconds. -/
  | shift (secs : Int64) (nanos : UInt32)
deriving DecidableEq, Repr

/-- Which parts of the clock an adjustment changes: its frequency, or its time
    by an offset that is given in nanoseconds. -/
def Adjustment.modes : Adjustment → UInt32
  | .frequency _ => 0x2
  | .shift .. => 0x100 ||| 0x2000

/-! ### Requests of clock devices -/

/-- What a clock is capable of. -/
structure Capabilities where
  /-- The largest frequency offset in parts per billion. -/
  maxAdjustment : Int32
  pins : Int32
deriving DecidableEq, Repr

/-- A request to set up an input. -/
inductive InputRequest where
  /-- Latch edges on a channel, or do not. -/
  | edges (channel flags : UInt32)
  /-- Give a pin a function on a channel. -/
  | pin (position function channel : UInt32)
deriving DecidableEq, Repr

/-- The request for the capabilities. -/
def capabilitiesRequest : Request := ⟨.fromKernel, 80, '=', 1⟩

namespace InputRequest

def request : InputRequest → Request
  | .edges .. => ⟨.toKernel, 16, '=', 11⟩
  | .pin .. => ⟨.toKernel, 96, '=', 16⟩

/-- The words that go with a request; the name of a pin, which comes before
    its words, is left empty. -/
def words : InputRequest → List UInt32
  | .edges channel flags => [channel, flags, 0, 0]
  | .pin position function channel => [position, function, channel, 0, 0, 0, 0, 0]

/-- The pin receives pulses. -/
def inputFunction : UInt32 := 1

def enable : UInt32 := 1

def risingEdge : UInt32 := 2

def fallingEdge : UInt32 := 4

end InputRequest

/-! ### The kernel -/

structure Interface (W F : Type) where
  /-- Open a device file for reading and writing. -/
  openFile : String → Action W (Except Errno F)
  /-- The path of a file once all links are followed. -/
  realPath : String → Action W (Except Errno String)
  /-- The files in the directory that names the clocks of a network
      interface, if there is such a directory. -/
  clocksOfInterface : String → Action W (Option (List String))
  /-- The time of a clock: seconds, and nanoseconds of the present second. -/
  readTime : F → Action W (Except Errno (Int64 × UInt32))
  /-- The frequency of a clock, in parts per million with 16 fraction bits. -/
  readFrequency : F → Action W (Except Errno Int64)
  adjust : F → Adjustment → Action W (Except Errno Unit)
  capabilities : F → Action W (Except Errno Capabilities)
  setInput : F → InputRequest → Action W (Except Errno Unit)
  /-- Read at most so many bytes from a file. -/
  readBytes : F → Nat → Action W (Except Errno (List UInt8))
  /-- Wait for files to become readable, at most so many milliseconds. -/
  poll : List F → UInt64 → Action W PollResult

end ClockDiscipline.Phc
