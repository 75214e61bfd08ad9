/-
  ClockDiscipline/Phc/Waiting.lean
  ================================
  **Waiting for the events of several clocks.**
-/
import ClockDiscipline.Phc.Device
import ClockDiscipline.Sync.Cycle

namespace ClockDiscipline.Phc

open Kernel

variable {W F : Type}

/-- The files of sources, each of which has to have one. -/
def filesOfSources : List (Option F) → Except PhcError (List F)
  | [] => .ok []
  | none :: _ => .error .sourceWithoutClock
  | some file :: rest => (filesOfSources rest).map (file :: ·)

/-- Wait for the events of these files. -/
def wait (poll : List F → UInt64 → Action W PollResult) (files : List F) :
    Waiter W PhcError := fun timeoutMs => do
  return answered (← poll files (waitMs timeoutMs)).ready

end ClockDiscipline.Phc
