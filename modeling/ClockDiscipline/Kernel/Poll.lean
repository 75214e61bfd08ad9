/-
  ClockDiscipline/Kernel/Poll.lean
  ================================
  **Waiting for several files at once.**

  The kernel answers with flags for every file.  Files with data to be read
  are ready; flags that report nothing but an error make a file neither ready
  nor the wait a failure.
-/
import ClockDiscipline.Kernel.Request

namespace ClockDiscipline.Kernel

/-- The flags of a file after a wait. -/
abbrev PollFlags := UInt16

/-- How a wait ended. -/
inductive PollResult where
  /-- With flags for every file; they are all zero if the time is over. -/
  | returned (flags : List PollFlags)
  | failed (error : Errno)
deriving DecidableEq, Repr

namespace PollFlags

/-- There is data, or urgent data, to be read. -/
def readable : PollFlags := 3

/-- All flags that have a meaning. -/
def known : PollFlags := 0x3ff

/-- Whether there is anything to be read.  Flags that nobody knows make the
    rest of them unreadable too. -/
def isReadable (flags : PollFlags) : Bool :=
  flags &&& ~~~known == 0 && flags &&& readable != 0

end PollFlags

namespace PollResult

/-- The time is over and nothing has happened. -/
def isTimeout : PollResult → Bool
  | .returned flags => flags.all (· == 0)
  | .failed _ => false

/-- The positions of the files that are ready.  A wait that a signal has
    interrupted has found none. -/
def ready : PollResult → Except Errno (List Nat)
  | .returned flags =>
    .ok (flags.zipIdx.filterMap fun (f, i) => if f.isReadable then some i else none)
  | .failed e => if e = .interrupted then .ok [] else .error e

/-- Whether anything at all has happened to the files. -/
def anything : PollResult → Except Errno Bool
  | .returned flags => .ok (flags.any (· != 0))
  | .failed e => .error e

end PollResult

/-- The longest wait in milliseconds. -/
def longestWaitMs : UInt64 := 2147483647

/-- The length of a wait as the kernel is told it. -/
def waitMs (timeoutMs : UInt64) : UInt64 :=
  if longestWaitMs ≤ timeoutMs then longestWaitMs else timeoutMs

end ClockDiscipline.Kernel
