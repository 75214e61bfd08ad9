/-
  ClockDiscipline/Edge/Reference.lean
  ===================================
  **Where the time of the pulse edges comes from.**
-/
import ClockDiscipline.Clock.Registry

namespace ClockDiscipline

inductive Reference where
  /-- A pulse without a time of day, on the second of the system clock.  The
      offset takes the system clock to the timescale of the hardware
      clocks. -/
  | generic (utcOffset : Duration)
  /-- A hardware clock that emits the pulse itself. -/
  | phc (clock : ClockId)
deriving DecidableEq, Repr

/-- The seconds by which the timescale of hardware clocks is ahead of UTC. -/
def defaultUtcOffset : Duration := ⟨37000000000⟩

/-- Why the reference can not be read. -/
inductive ReferenceError (ε : Type) where
  | device (error : ε)
  | unknown (id : ClockId)
deriving Repr

namespace ReferenceError

variable {ε : Type}

def message (errorText : ε → String) : ReferenceError ε → String
  | .device e => s!"reference clock error: {errorText e}"
  | .unknown id => s!"reference {id.text} does not exist"

def debugText (errorText : ε → String) : ReferenceError ε → String
  | .device e => s!"Device({errorText e})"
  | .unknown id => s!"Unknown({id.debugText})"

end ReferenceError

namespace Reference

variable {W H S ε : Type}

/-- The hardware clock behind the reference. -/
def clock? : Reference → Option ClockId
  | .generic _ => none
  | .phc clock => some clock

/-- The present time of the reference. -/
def now (env : Environment W H S ε) (reference : Reference) (clocks : Registry H S) :
    Action W (Except (ReferenceError ε) Instant) := do
  match reference with
  | .generic utcOffset =>
    let utc ← env.systemTime
    return .ok (← Action.checked (utc.add utcOffset))
  | .phc id =>
    match clocks.get? id with
    | none => return .error (.unknown id)
    | some clock => return (← env.device.now clock.handle).mapError .device

/-- The edge of the reference nearest to its present time. -/
def edge (env : Environment W H S ε) (reference : Reference) (clocks : Registry H S)
    (phase : Duration) : Action W (Except (ReferenceError ε) Instant) := do
  match ← reference.now env clocks with
  | .error e => return .error e
  | .ok t => return .ok (← Action.checked (approximateEdge t phase))

end Reference

end ClockDiscipline
