/-
  ClockDiscipline/Daemon/Steering.lean
  ====================================
  **Steering the clock of a switch to a hardware clock.**
-/
import ClockDiscipline.Daemon.Host

namespace ClockDiscipline.Daemon

open Phc Switch

/-- A switch and the clock that it follows. -/
structure SteeredSwitch (F : Type) where
  device : SpiDevice F
  reference : F
  tracking : TrackingConfig

variable {W F : Type}

/-- Open a switch that is to be steered. -/
def openSwitch (host : Host W F) (config : BusConfig) :
    Action W (Except StartError (SteeredSwitch F)) := do
  match ← locate host.clocks config.reference with
  | .error e => return .error (.clock e)
  | .ok located =>
    match ← openPath host.clocks located.path with
    | .error e => return .error (.clock e)
    | .ok reference =>
      match ← openSpi host.spi config.device config.speedHz with
      | .error e => return .error (.bus e)
      | .ok device =>
        Action.log .info s!"Steering the switch on {config.device} to {located.path}"
        return .ok ⟨device, reference, config.tracking⟩

namespace SteeredSwitch

def clock (host : Host W F) (s : SteeredSwitch F) : BusClock W SpiError PhcError where
  bus := clockBus (spiTransfer host.spi s.device)
  reference := now host.clocks s.reference

/-- What is noted about a cycle. -/
def outcomeEntries : Except (TrackingError SpiError PhcError) TrackingOutcome → List Entry
  | .ok (.adjusted m rate) =>
    [⟨.debug,
      s!"switch clock offset {m.offset.text}, ratio 0x{Text.hexPadded 8 rate.bits.toNat}"⟩]
  | .ok (.skipped _ resetRequested) =>
    if resetRequested then [⟨.warn, "Switch clock is far off, resetting it"⟩] else []
  | .error e =>
    [⟨.error, s!"Switch clock sync failed: {e.message SpiError.text PhcError.text}"⟩]

/-- One cycle. -/
def steer (host : Host W F) (s : SteeredSwitch F) (tracker : RateTracker) :
    Action W RateTracker := do
  let (result, tracker) ← tracker.sync (s.clock host)
  Action.logAll (outcomeEntries result)
  return tracker

end SteeredSwitch

end ClockDiscipline.Daemon
