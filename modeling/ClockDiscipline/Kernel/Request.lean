/-
  ClockDiscipline/Kernel/Request.lean
  ===================================
  **Numbered requests to device files, and how the kernel refuses them.**

  A request says in its number whether the kernel reads or writes the data
  that goes with it, how many bytes that is, which group of devices the
  request belongs to, and which request of that group it is.
-/
import ClockDiscipline.Journal

namespace ClockDiscipline.Kernel

/-! ### Refusals -/

/-- The number of an error. -/
structure Errno where
  number : Nat
deriving DecidableEq, Repr

namespace Errno

/-- How an error is written inside a message. -/
def text (e : Errno) : String := s!"Os {e.number}"

/-- A signal came before anything else happened. -/
def interrupted : Errno := ⟨4⟩

/-- There is no such file. -/
def noEntry : Errno := ⟨2⟩

/-- The device failed. -/
def inputOutput : Errno := ⟨5⟩

end Errno

/-! ### Request numbers -/

/-- Who fills in the data of a request. -/
inductive Direction where
  /-- The kernel reads what the program has written. -/
  | toKernel
  /-- The kernel writes an answer. -/
  | fromKernel
deriving DecidableEq, Repr

def Direction.bits : Direction → UInt32
  | .toKernel => 1
  | .fromKernel => 2

/-- A request with so many bytes of data. -/
structure Request where
  direction : Direction
  size : UInt32
  group : Char
  index : UInt32
deriving DecidableEq, Repr

def Request.number (r : Request) : UInt32 :=
  r.direction.bits <<< 30 ||| r.size <<< 16 ||| UInt32.ofNat r.group.toNat <<< 8 ||| r.index

end ClockDiscipline.Kernel
