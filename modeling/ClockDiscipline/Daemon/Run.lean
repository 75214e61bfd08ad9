/-
  ClockDiscipline/Daemon/Run.lean
  ===============================
  **The daemon from its start to its end.**

  Everything is opened before the first cycle, and whatever can not be opened
  ends the daemon.  After that nothing but a signal does: a cycle that fails
  is noted, and the next one begins.
-/
import ClockDiscipline.Daemon.Steering

namespace ClockDiscipline.Daemon

open Phc

variable {W F S : Type}

/-! ### Starting -/

/-- Open the reference. -/
def openReference (env : Environment W F S PhcError) :
    ReferenceConfig → Action W (Except StartError (Registry F S × Reference))
  | .generic utcOffset => do
    return .ok (.empty, .generic (← Action.checked (Duration.ofSecs utcOffset)))
  | .phc device => do
    let (result, clocks) ← Registry.empty.getOrCreate env device
    match result with
    | .error e => return .error (.registry e)
    | .ok id =>
      Action.log .info s!"Using {device} as the reference clock"
      return .ok (clocks, .phc id)

/-- Add sources up to the first that can not be added. -/
def addSources (env : Environment W F S PhcError) (o : Orchestrator F S) :
    List SourceConfig → Action W (Except (SyncError PhcError) (Orchestrator F S))
  | [] => return .ok o
  | source :: rest => do
    let (result, o) ← o.addSource env source
    match result with
    | .error e => return .error e
    | .ok _ => addSources env o rest

/-- Add ports up to the first that can not be added. -/
def addPorts (env : Environment W F S PhcError) (o : Orchestrator F S) :
    List PortConfig → Action W (Except (SyncError PhcError) (Orchestrator F S))
  | [] => return .ok o
  | port :: rest => do
    let (result, o) ← o.addPort env port.number port.device port.state
    match result with
    | .error e => return .error e
    | .ok _ => addPorts env o rest

/-- Put the orchestrator together and start to listen. -/
def assemble (env : Environment W F S PhcError) (config : Config) :
    Action W (Except StartError (Orchestrator F S)) := do
  match ← openReference env config.reference with
  | .error e => return .error e
  | .ok (clocks, reference) =>
    match ← addSources env (.start config.sync clocks reference) config.sources with
    | .error e => return .error (.sync e)
    | .ok o =>
      match ← addPorts env o config.ports with
      | .error e => return .error (.sync e)
      | .ok o => return ((← o.arm env).map fun () => o).mapError .sync

/-- Open the switch, if there is one to be steered. -/
def openBus (host : Host W F) :
    Option BusConfig → Action W (Except StartError (Option (SteeredSwitch F)))
  | none => return .ok none
  | some bus => return (← openSwitch host bus).map some

/-! ### In the background -/

/-- Listen on a socket. -/
def listen (host : Host W F) (service : Service) (path : String) (mode : UInt32) :
    Action W (Except SocketError Unit) := do
  match ← putSocket host.sockets service path mode with
  | .error e => return .error e
  | .ok () =>
    Action.logAll [listeningEntry path mode]
    return .ok ()

/-- Publish snapshots, if there is a place for them. -/
def startObserver (host : Host W F) (config : Config) : Action W Unit := do
  match config.observationPath with
  | none => return ()
  | some path =>
    match ← listen host .observer path config.observationPermissions with
    | .ok () => return ()
    | .error e =>
      Action.log .warn s!"Abnormal termination of the state observer: {e.message path}"
      Action.log .warn "The state observer will not be available"

/-- Receive port states, if there is a place for them. -/
def startPortListener (host : Host W F) (config : Config) : Action W Unit := do
  match config.portStatePath with
  | none => return ()
  | some path =>
    match ← listen host .portStates path portSocketMode with
    | .ok () => return ()
    | .error e =>
      Action.log .warn s!"Abnormal termination of the port state listener: {e.message path}"

/-- Steer the switch for the first time, if there is one.  An overflow there
    is the end of this task only. -/
def startSteering (host : Host W F) : Option (SteeredSwitch F) → Action W Unit
  | none => return ()
  | some switch =>
    tryCatch (discard <| switch.steer host (.start switch.tracking)) fun
      | .unfinished => throw .unfinished
      | .overflow | .unforeseen => Action.log .error "Switch clock task failed: task panicked"

/-- The tasks in the background. -/
def background (host : Host W F) (config : Config) (switch : Option (SteeredSwitch F)) :
    Action W Unit := do
  startObserver host config
  startPortListener host config
  startSteering host switch

/-! ### Cycles -/

/-- Tell the orchestrator the port states that have been reported. -/
def applyUpdates (o : Orchestrator F PiServo) :
    List PortUpdate → Action W (Orchestrator F PiServo)
  | [] => return o
  | update :: rest => do
    let (known, o) ← o.portStateChanged update.port update.state
    if !known then
      Action.log .warn
        s!"Ignoring state {update.state.debugText} of unknown port {update.port.toNat}"
    applyUpdates o rest

/-- One cycle and what goes with it. -/
def cycle (host : Host W F) (env : Environment W F PiServo PhcError) (wait : Waiter W PhcError)
    (o : Orchestrator F PiServo) : Action W (Orchestrator F PiServo) := do
  let o ← applyUpdates o (← host.takeUpdates)
  let (result, o) ← o.runCycle env wait
  match result with
  | .ok _ => pure ()
  | .error e => Action.log .error s!"Synchronization cycle failed: {e.message PhcError.text}"
  host.publish o.observe
  return o

/-- Cycles until the daemon is told to stop. -/
def cycles (host : Host W F) (env : Environment W F PiServo PhcError)
    (wait : Waiter W PhcError) :
    Nat → Orchestrator F PiServo → Action W (Orchestrator F PiServo)
  | 0, _ => Action.checked (.error .unfinished)
  | patience + 1, o => do
    if ← host.isStopping then return o
    else cycles host env wait patience (← cycle host env wait o)

/-! ### From start to end -/

/-- Run with settings that make sense. -/
def run (host : Host W F) (config : Config) : Action W (Except StartError Unit) := do
  Action.log .info s!"Starting phcsync with {config.sources.length} source(s)"
  let env := host.environment config.servo
  match ← assemble env config with
  | .error e => return .error e
  | .ok o =>
    match filesOfSources o.sourceHandles with
    | .error e => return .error (.clock e)
    | .ok files =>
      host.publish o.observe
      match ← openBus host config.bus with
      | .error e => return .error e
      | .ok switch =>
        let wait := Phc.wait (host.waitWith (background host config switch)) files
        let o ← cycles host env wait host.patience o
        let _ ← o.shutdown env
        Action.log .info "Stopped"
        return .ok ()

/-- Check the settings, and run if they make sense. -/
def checkAndRun (host : Host W F) (path : String) (config : Config) :
    Action W (Except StartError Unit) := do
  Action.logAll config.entries
  if config.isSound then run host config else return .error (.unsound path)

end ClockDiscipline.Daemon
