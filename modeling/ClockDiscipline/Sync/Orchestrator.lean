/-
  ClockDiscipline/Sync/Orchestrator.lean
  ======================================
  **Clocks, sources and ports put together, and how they come and go.**

  The orchestrator owns the clocks.  A clock becomes a destination, that is,
  gets corrected, when a source listens to one of its inputs or when the
  ports select it, and stops being one when it is selected as the source.
-/
import ClockDiscipline.Edge.Source
import ClockDiscipline.Edge.Reference
import ClockDiscipline.Port.Topology

namespace ClockDiscipline

/-- Settings of the synchronization. -/
structure SyncConfig where
  /-- Weight of a sample in the integral term of a servo. -/
  sampleWeight : Float := 1
  /-- Measure offsets and correct nothing. -/
  freeRunning : Bool := false
  /-- How long to wait for events, in milliseconds. -/
  pollTimeoutMs : UInt64 := 2000
  /-- How long after the second a reference clock's pulse rises, in
      nanoseconds. -/
  peroutPhase : Int64 := 0
  fallback : FallbackPolicy := .lastDestination

def SyncConfig.phase (config : SyncConfig) : Duration := ⟨config.peroutPhase⟩

/-- Why an operation of the orchestrator failed. -/
inductive SyncError (ε : Type) where
  | registry (error : RegistryError ε)
  | device (error : ε)
  | poll (error : ε)
  | reference (error : ReferenceError ε)
  | unknownClock (id : ClockId)
deriving Repr

def SyncError.message {ε : Type} (errorText : ε → String) : SyncError ε → String
  | .registry e => e.message errorText
  | .device e => s!"device error: {errorText e}"
  | .poll e => s!"waiting for events failed: {errorText e}"
  | .reference e => e.message errorText
  | .unknownClock id => s!"{id.text} does not exist"

structure Orchestrator (H S : Type) where
  config : SyncConfig
  clocks : Registry H S
  reference : Reference
  /-- In the order they were added. -/
  sources : List EdgeSource
  /-- Absent as long as there are no ports. -/
  topology : Option Topology
  /-- The source selected from the port states. -/
  sourceClock : Option ClockId

namespace Orchestrator

variable {W H S ε : Type}

def start (config : SyncConfig) (clocks : Registry H S) (reference : Reference) :
    Orchestrator H S where
  config := config
  clocks := clocks
  reference := reference
  sources := []
  topology := none
  sourceClock := none

/-- Change the clock behind a handle. -/
def modifyClock (o : Orchestrator H S) (id : ClockId) (f : Clock H S → Clock H S) :
    Orchestrator H S :=
  { o with clocks := o.clocks.modify id f }

/-- The devices of the sources, in their order. -/
def sourceHandles (o : Orchestrator H S) : List (Option H) :=
  o.sources.map fun s => (o.clocks.get? s.clock).map (·.handle)

/-! ### Clocks -/

def openClock (env : Environment W H S ε) (o : Orchestrator H S) (name : String) :
    Action W (Except (SyncError ε) ClockId × Orchestrator H S) := do
  let (result, clocks) ← o.clocks.getOrCreate env name
  let o := { o with clocks := clocks }
  match result with
  | .error e => return (.error (.registry e), o)
  | .ok id =>
    return (.ok id, o.modifyClock id fun c => { c with freeRunning := o.config.freeRunning })

/-! ### Sources -/

/-- Give up a source that can not be set up, and its clock with it if that was
    opened for this source alone. -/
def abandonSource (env : Environment W H S ε) (o : Orchestrator H S) (device : String)
    (id : ClockId) (clocksBefore : Nat) (error : ε) : Action W (Orchestrator H S) := do
  Action.log .error s!"setting up extts on {device} failed: {env.errorText error}"
  if clocksBefore < o.clocks.size then
    match (o.clocks.destroy id o.sourceClock : Except (RegistryError ε) _) with
    | .error e =>
      Action.log .warn s!"releasing {device} failed: {e.debugText env.errorText}"
      return o
    | .ok (_, clocks) => return { o with clocks := clocks }
  else return o

/-- Listen to an input.  Its clock becomes a destination.  A device that is
    already listened to under this name is left alone. -/
def addSource (env : Environment W H S ε) (o : Orchestrator H S) (config : SourceConfig) :
    Action W (Except (SyncError ε) ClockId × Orchestrator H S) := do
  match o.sources.find? (·.name == config.device) with
  | some known =>
    Action.log .debug s!"source {config.device} was already added"
    return (.ok known.clock, o)
  | none =>
    let clocksBefore := o.clocks.size
    let (opened, o) ← o.openClock env config.device
    match opened with
    | .error e => return (.error e, o)
    | .ok id =>
      let source ← Action.checked (EdgeSource.ofConfig config id)
      match o.clocks.get? id with
      | none => return (.error (.unknownClock id), o)
      | some clock =>
        match ← source.setup env clock.handle with
        | .error e =>
          let o ← o.abandonSource env config.device id clocksBefore e
          return (.error (.device e), o)
        | .ok () =>
          let o := o.modifyClock id fun c => { c with isDestination := true }
          Action.log .debug s!"PHC source {config.device} has index {clock.index.toNat}"
          return (.ok id, { o with sources := o.sources ++ [source] })

/-- Start to listen on all sources. -/
def armSources (env : Environment W H S ε) (o : Orchestrator H S) :
    List EdgeSource → Action W (Except (SyncError ε) Unit)
  | [] => return .ok ()
  | source :: rest => do
    match o.clocks.get? source.clock with
    | none => return .error (.unknownClock source.clock)
    | some clock =>
      match ← source.arm env clock.handle with
      | .error e => return .error (.device e)
      | .ok () => o.armSources env rest

def arm (env : Environment W H S ε) (o : Orchestrator H S) :
    Action W (Except (SyncError ε) Unit) :=
  o.armSources env o.sources

/-! ### Ports -/

/-- Bind a port to the clock of a device. -/
def addPort (env : Environment W H S ε) (o : Orchestrator H S) (number : UInt16)
    (device : String) (state : PortState) :
    Action W (Except (SyncError ε) ClockId × Orchestrator H S) := do
  let (opened, o) ← o.openClock env device
  match opened with
  | .error e => return (.error e, o)
  | .ok id =>
    let topology ← (o.topology.getD (.empty o.config.fallback)).addPort number id state
    return (.ok id, { o with topology := some topology })

/-- Record the state of a port; the answer is whether the port is known. -/
def portStateChanged (o : Orchestrator H S) (number : UInt16) (state : PortState) :
    Action W (Bool × Orchestrator H S) := do
  match o.topology with
  | none => return (false, o)
  | some topology =>
    let (known, topology) ← topology.portStateChanged number state
    return (known, { o with topology := some topology })

/-- Make clocks destinations. -/
def selectDestinations (o : Orchestrator H S) : List ClockId → Action W (Orchestrator H S)
  | [] => return o
  | id :: rest => do
    match o.clocks.get? id with
    | none => o.selectDestinations rest
    | some clock =>
      if clock.isDestination then o.selectDestinations rest
      else
        Action.log .info s!"selecting {clock.name} for synchronization"
        (o.modifyClock id fun c => { c with isDestination := true }).selectDestinations rest

/-- Make a clock the source, or none. -/
def selectSource (o : Orchestrator H S) (source : Option ClockId) : Orchestrator H S :=
  let o := { o with sourceClock := source }
  match source with
  | none => o
  | some id => o.modifyClock id fun c => { c with isDestination := false }

/-- Note the states of their ports on all clocks. -/
def notePortStates (o : Orchestrator H S) (topology : Topology) : Orchestrator H S :=
  { o with clocks := ⟨o.clocks.slots.mapIdx fun i slot =>
      slot.map fun c => { c with portState := topology.aggregate ⟨i⟩ }⟩ }

/-- Select the source anew if a port state has changed. -/
def reconfigure (o : Orchestrator H S) : Action W (Option Selection × Orchestrator H S) := do
  match o.topology with
  | none => return (none, o)
  | some topology =>
    if topology.changed then
      let (selection, topology) ← topology.reconfigure
      let o := ({ o with topology := some topology } : Orchestrator H S).notePortStates topology
      let o ← o.selectDestinations (selection.destinations?.getD [])
      return (some selection, o.selectSource selection.source?)
    else return (none, o)

/-! ### Shutdown -/

/-- Stop to listen on all sources. -/
def disarmSources (env : Environment W H S ε) (o : Orchestrator H S) :
    List EdgeSource → Action W Unit
  | [] => return ()
  | source :: rest => do
    match o.clocks.get? source.clock with
    | none => pure ()
    | some clock =>
      match ← source.disarm env clock.handle with
      | .error e => Action.log .error s!"disarming {source.name} failed: {env.errorText e}"
      | .ok () => pure ()
    o.disarmSources env rest

/-- Release clocks, whatever their part is. -/
def releaseClocks (env : Environment W H S ε) (clocks : Registry H S) :
    List ClockId → Action W (Registry H S)
  | [] => return clocks
  | id :: rest => do
    let clocks := clocks.modify id fun c => { c with isDestination := false }
    match (clocks.destroy id none : Except (RegistryError ε) _) with
    | .error e =>
      Action.log .error s!"releasing {id.text} failed: {e.debugText env.errorText}"
      releaseClocks env clocks rest
    | .ok (_, clocks) => releaseClocks env clocks rest

/-- Stop to listen and release all clocks; what is left of the registry is the
    result. -/
def shutdown (env : Environment W H S ε) (o : Orchestrator H S) : Action W (Registry H S) := do
  o.disarmSources env o.sources
  releaseClocks env o.clocks o.clocks.ids

end Orchestrator

end ClockDiscipline
