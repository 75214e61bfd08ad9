/-
  ClockDiscipline/Daemon/Bare.lean
  ================================
  **A host without any clocks.**

  There is no device file on it that could be opened, hence no open file, and
  nothing that could be asked of one.
-/
import ClockDiscipline.Daemon.Program

namespace ClockDiscipline.Daemon

open Kernel

namespace Bare

/-- No network interface has a clock, and no path leads to one. -/
def clocks : Phc.Interface Unit Empty where
  openFile _ := return .error .noEntry
  realPath _ := return .error .noEntry
  clocksOfInterface _ := return none
  readTime file := nomatch file
  readFrequency file := nomatch file
  adjust file := nomatch file
  capabilities file := nomatch file
  setInput file := nomatch file
  readBytes file := nomatch file
  poll _ _ := return .returned []

def spi : Switch.SpiInterface Unit Empty where
  openFile _ := return .error .noEntry
  set file := nomatch file
  transfer file := nomatch file

/-- There is no directory for a socket. -/
def sockets : SocketInterface Unit where
  kindAt _ := return .error .noEntry
  remove _ := return .error .noEntry
  bind _ _ := return .error .noEntry
  setMode _ _ := return .error .noEntry

def host : Host Unit Empty where
  clocks := clocks
  spi := spi
  systemTime := return ⟨0, 0⟩
  sockets := sockets
  waitWith _ _ _ := return .returned []
  takeUpdates := return []
  isStopping := return true
  publish _ := return ()
  patience := 1

end Bare

/-- Run on such a host with the settings of a file. -/
def runBare (path : String) (level : Option Config.Level) (file : Except FileError ConfigFile) :
    Ending :=
  (runFile Bare.host path level file ()).1

end ClockDiscipline.Daemon
