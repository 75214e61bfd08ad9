/-
  ClockDiscipline/Daemon/Still.lean
  =================================
  **A host with one clock, on which time stands still.**

  Every request to the clock is granted, it shows the same time as the system
  for ever, and there is no event.  How a wait ends is all that is left open.
-/
import ClockDiscipline.Daemon.Bare

namespace ClockDiscipline.Daemon

open Kernel

namespace Still

/-- The time in whole seconds. -/
def time : Int64 := 1700000000

def clocks : Phc.Interface Unit Unit where
  openFile _ := return .ok ()
  realPath _ := return .ok "/dev/ptp0"
  clocksOfInterface _ := return none
  readTime _ := return .ok (time, 0)
  readFrequency _ := return .ok 0
  adjust _ _ := return .ok ()
  capabilities _ := return .ok ⟨500000, 1⟩
  setInput _ _ := return .ok ()
  readBytes _ _ := return .ok []
  poll files _ := return .returned (files.map fun _ => 0)

/-- There is no switch. -/
def spi : Switch.SpiInterface Unit Unit where
  openFile _ := return .error .noEntry
  set _ _ := return .error .noEntry
  transfer _ _ := return .error .noEntry

/-- Such a host, where every wait for sources ends in this way. -/
def host (wakes : PollResult) : Host Unit Unit where
  clocks := clocks
  spi := spi
  systemTime := return ⟨time, 0⟩
  sockets := Bare.sockets
  waitWith _ _ _ := return wakes
  takeUpdates := return []
  isStopping := return false
  publish _ := return ()
  patience := 2

end Still

end ClockDiscipline.Daemon
