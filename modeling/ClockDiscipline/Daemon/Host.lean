/-
  ClockDiscipline/Daemon/Host.lean
  ================================
  **What the daemon runs on, and why it does not start.**
-/
import ClockDiscipline.Config.File
import ClockDiscipline.Observation.Snapshot
import ClockDiscipline.Phc.Opening
import ClockDiscipline.Phc.Waiting
import ClockDiscipline.Port.Update
import ClockDiscipline.Socket.Binding
import ClockDiscipline.Switch.Spi
import ClockDiscipline.Time.Realtime

namespace ClockDiscipline.Daemon

open Kernel Phc Switch

/-- The kernel, the clients and the signals around the daemon. -/
structure Host (W F : Type) where
  clocks : Phc.Interface W F
  spi : SpiInterface W F
  systemTime : Action W SystemTime
  sockets : SocketInterface W
  /-- Wait for files.  While the daemon waits for the first time, the tasks
      that it runs in the background get their turn. -/
  waitWith : Action W Unit → List F → UInt64 → Action W PollResult
  /-- Take the port states that have been reported. -/
  takeUpdates : Action W (List PortUpdate)
  /-- Whether the daemon has been told to stop. -/
  isStopping : Action W Bool
  /-- Show clocks to whoever asks from now on. -/
  publish : List ObservedClock → Action W Unit
  /-- How many requests a loop may make before it is given up. -/
  patience : Nat

/-- Why the daemon does not start. -/
inductive StartError where
  | config (error : ConfigError)
  /-- The settings in the file make no sense. -/
  | unsound (path : String)
  | registry (error : RegistryError PhcError)
  | sync (error : SyncError PhcError)
  | clock (error : PhcError)
  | bus (error : SpiError)

def ConfigError.text : ConfigError → String
  | .unreadable e => s!"Io({e.text})"
  | .notText => "Io(stream did not contain valid UTF-8)"
  | .flawed flaw => s!"Toml({flaw.text})"

/-- What is printed about it. -/
def StartError.message : StartError → String
  | .config e => ConfigError.text e
  | .unsound path => s!"invalid configuration in {path}"
  | .registry e => e.message PhcError.text
  | .sync e => e.message PhcError.text
  | .clock e => e.text
  | .bus e => e.text

variable {W F : Type}

/-- The surroundings of the synchronization. -/
def Host.environment (host : Host W F) (servo : ServoConfig) :
    Environment W F PiServo PhcError where
  device := Phc.device host.clocks
  servo := PiServo.interface
  openClock := Phc.openClock host.clocks
  makeServo := PiServo.forDevice (Phc.device host.clocks) servo.gains servo.thresholds
  systemTime := do Action.checked (← host.systemTime).instant
  errorText := PhcError.text
  patience := host.patience

end ClockDiscipline.Daemon
