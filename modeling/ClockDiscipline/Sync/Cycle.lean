/-
  ClockDiscipline/Sync/Cycle.lean
  ===============================
  **One cycle: wait until every source has seen an edge, then correct.**

  The events of a cycle are collected first, and all corrections follow.  A
  cycle in which an event is ambiguous, or in which a source stays silent,
  corrects nothing at all, so that edges of different seconds never mix.
-/
import ClockDiscipline.Decimal.Layout
import ClockDiscipline.Sync.Orchestrator

namespace ClockDiscipline

/-- Wait for at most so many milliseconds for events; the answer is which
    sources have any, and nothing if the time is over. -/
abbrev Waiter (W ε : Type) := UInt64 → Action W (Except ε (List Nat))

/-- How collecting the events of a cycle ended. -/
inductive PollOutcome where
  /-- Every source has seen an edge. -/
  | collected
  /-- Every source has seen an edge, but one can not be attributed. -/
  | ambiguous
  /-- A wait ended before every source had seen one. -/
  | timeout
deriving DecidableEq, Repr

def PollOutcome.name : PollOutcome → String
  | .collected => "collected"
  | .ambiguous => "ambiguous"
  | .timeout => "timeout"

/-- What became of a destination in a cycle. -/
structure ClockReport where
  clock : ClockId
  name : String
  /-- How far the clock is ahead. -/
  offset : Duration
  state : ServoState
  /-- The frequency it was given, if any. -/
  frequency : Option Float

namespace Orchestrator

variable {W H S ε : Type}

/-! ### Before the wait -/

def flushTimestamps (o : Orchestrator H S) : Orchestrator H S :=
  { o with clocks := o.clocks.map Clock.flushTimestamp }

/-- Unlock those of the clocks that are destinations. -/
def unlockClocks (env : Environment W H S ε) (o : Orchestrator H S) :
    List ClockId → Action W (Orchestrator H S)
  | [] => return o
  | id :: rest => do
    match o.clocks.get? id with
    | none => o.unlockClocks env rest
    | some clock =>
      if clock.isDestination && clock.servoState != .unlocked then
        Action.log .info s!"{clock.name} lost its reference, unlocking"
        let clock ← clock.unlock env
        ({ o with clocks := o.clocks.set id clock } : Orchestrator H S).unlockClocks env rest
      else o.unlockClocks env rest

def unlockDestinations (env : Environment W H S ε) (o : Orchestrator H S) :
    Action W (Orchestrator H S) :=
  o.unlockClocks env o.clocks.ids

/-! ### Collecting events -/

/-- Attribute an event, and keep its time on the clock of its source. -/
def pairAndKeep (o : Orchestrator H S) (source : EdgeSource) (event : EdgeEvent)
    (reference : Instant) : Action W (Pairing × Orchestrator H S) := do
  let pairing ← source.pair event reference
  match pairing, o.clocks.get? source.clock with
  | .sample _ localTime, some clock =>
    let clock ← clock.addTimestamp localTime
    return (pairing, { o with clocks := o.clocks.set source.clock clock })
  | _, _ => return (pairing, o)

/-- Handle an event of a source.  The event is taken off the queue also when
    the reference can not be read: it must not be paired with a later
    edge. -/
def handleEvent (env : Environment W H S ε) (o : Orchestrator H S) (source : EdgeSource) :
    Action W (Except (EventError ε) Pairing × Orchestrator H S) := do
  match o.clocks.get? source.clock with
  | none => return (.ok .ambiguous, o)
  | some clock =>
    match ← source.takeEvent env clock.handle with
    | .error e => return (.error e, o)
    | .ok event =>
      match ← o.reference.now env o.clocks with
      | .error e =>
        Action.log .debug s!"reference time not valid: {e.debugText env.errorText}"
        return (.ok .ambiguous, o)
      | .ok reference =>
        let (pairing, o) ← o.pairAndKeep source event reference
        return (.ok pairing, o)

/-- How far collecting has come: which sources have been handled, and whether
    an event was ambiguous. -/
structure Progress where
  handled : List Bool
  ambiguous : Bool
deriving DecidableEq, Repr

/-- Handle the sources that a wait has found ready.  A failed event counts as
    handled too, so that the events of the next edge do not pile up. -/
def handleReady (env : Environment W H S ε) (o : Orchestrator H S) (progress : Progress) :
    List Nat → Action W (Progress × Orchestrator H S)
  | [] => return (progress, o)
  | index :: rest => do
    match o.sources[index]? with
    | none => o.handleReady env progress rest
    | some source =>
      let (result, o) ← o.handleEvent env source
      let ambiguous ← match result with
        | .ok .ambiguous => pure true
        | .ok (.sample _ _) => pure progress.ambiguous
        | .error e => do
          Action.log .error
            s!"reading extts event of {source.name} failed: {e.debugText env.errorText}"
          pure progress.ambiguous
      o.handleReady env ⟨progress.handled.set index true, ambiguous⟩ rest

/-- Wait until every source has been handled, at most `patience` times. -/
def collect (env : Environment W H S ε) (wait : Waiter W ε) :
    Nat → Orchestrator H S → Progress →
      Action W (Except (SyncError ε) PollOutcome × Orchestrator H S)
  | patience, o, progress =>
    if progress.handled.all id then
      return (.ok (if progress.ambiguous then .ambiguous else .collected), o)
    else match patience with
      | 0 => Action.checked (.error .unfinished)
      | patience + 1 => do
        match ← wait o.config.pollTimeoutMs with
        | .error e => return (.error (.poll e), o)
        | .ok [] =>
          Action.log .debug "poll returned no events"
          if progress.handled.any id then return (.ok .timeout, o)
          else return (.ok .timeout, ← o.unlockDestinations env)
        | .ok ready =>
          let (progress, o) ← o.handleReady env progress ready
          collect env wait patience o progress

/-- Collect the events of a cycle.  Without sources there is nothing to
    collect, and the wait just passes the time. -/
def poll (env : Environment W H S ε) (wait : Waiter W ε) (o : Orchestrator H S) :
    Action W (Except (SyncError ε) PollOutcome × Orchestrator H S) := do
  if o.sources.isEmpty then
    match ← wait o.config.pollTimeoutMs with
    | .error e => return (.error (.poll e), o)
    | .ok _ => return (.ok .timeout, o)
  else collect env wait env.patience o ⟨o.sources.map fun _ => false, false⟩

/-- Keep the edge of a reference clock on it. -/
def collectReference (env : Environment W H S ε) (o : Orchestrator H S) :
    Action W (Except (SyncError ε) Unit × Orchestrator H S) := do
  match o.reference.clock? with
  | none => return (.ok (), o)
  | some id =>
    match ← o.reference.edge env o.clocks o.config.phase with
    | .error e => return (.error (.reference e), o)
    | .ok edge =>
      match o.clocks.get? id with
      | none => return (.error (.unknownClock id), o)
      | some clock =>
        let clock ← clock.addTimestamp edge
        return (.ok (), { o with clocks := o.clocks.set id clock })

/-! ### Correcting -/

/-- The time of the edge that the destinations are corrected against. -/
def sourceTimestamp (env : Environment W H S ε) (o : Orchestrator H S) :
    Action W (Option Instant × Orchestrator H S) := do
  match o.topology with
  | none =>
    match ← o.reference.edge env o.clocks o.config.phase with
    | .ok edge => return (some edge, o)
    | .error e =>
      Action.log .error s!"reference timestamp not valid: {e.debugText env.errorText}"
      return (none, o)
  | some _ =>
    match o.sourceClock with
    | none =>
      Action.log .debug "no source, skipping"
      return (none, o)
    | some id =>
      match o.clocks.get? id with
      | none => return (none, o)
      | some clock =>
        if clock.timestamp.isNone then
          Action.log .error s!"source clock ({clock.name}) timestamp not valid, skipping"
        return (clock.timestamp, o.modifyClock id Clock.flushTimestamp)

/-- Give a clock what its servo has decided on. -/
def adjust (env : Environment W H S ε) (handle : H) (offset : Duration) (frequency : Float)
    (state : ServoState) : Action W (Except ε Unit) := do
  match state with
  | .jump =>
    match ← env.device.setFrequency handle frequency with
    | .error e => return .error e
    | .ok () => env.device.step handle (← Action.checked offset.neg)
  | _ => env.device.setFrequency handle frequency

def columnText (offset : Duration) : String := Text.padLeft 10 ' ' (toString offset.nanos.toInt)

def frequencyText (frequency : Float) : String :=
  Text.padLeft 7 ' ' (Decimal.signedWhole frequency)

/-- Feed an offset to the servo of a clock and do what it decides on. -/
def steer (env : Environment W H S ε) (id : ClockId) (clock : Clock H S) (offset : Duration)
    (t : Instant) (weight : Float) : Action W (ClockReport × Clock H S) := do
  let ((adjustment, state), servo) ←
    env.servo.sample clock.servo offset.nanos t.nanos weight
  let clock := { clock with servo := servo, servoState := state }
  let frequency := env.servo.frequency servo adjustment
  Action.log .info
    s!"{clock.name} offset {columnText offset} s{state.index} freq {frequencyText frequency}"
  let report : ClockReport := ⟨id, clock.name, offset, state, none⟩
  if state = .unlocked then return (report, clock)
  else
    match ← adjust env clock.handle offset frequency state with
    | .ok () =>
      return ({ report with frequency := some frequency },
        { clock with lastFrequency := some frequency })
    | .error e =>
      Action.log .error s!"adjusting {clock.name} failed: {env.errorText e}"
      return (report, clock)

/-- Correct one clock, whose edge was at `t`, against the edge of the
    source. -/
def synchronizeClock (env : Environment W H S ε) (id : ClockId) (clock : Clock H S)
    (t sourceTime : Instant) (weight : Float) : Action W (ClockReport × Clock H S) := do
  let offset ← Action.checked (t.since sourceTime)
  let clock := { clock with lastOffset := some offset }
  if clock.freeRunning then
    Action.log .info s!"{clock.name} offset {columnText offset}"
    return (⟨id, clock.name, offset, clock.servoState, none⟩, clock)
  else steer env id clock offset t weight

/-- Correct those of the clocks that are destinations and have seen an
    edge. -/
def synchronizeClocks (env : Environment W H S ε) (o : Orchestrator H S) (sourceTime : Instant) :
    List ClockId → Action W (List ClockReport × Orchestrator H S)
  | [] => return ([], o)
  | id :: rest => do
    match o.clocks.get? id with
    | none => o.synchronizeClocks env sourceTime rest
    | some clock =>
      if !clock.isDestination then o.synchronizeClocks env sourceTime rest
      else match clock.timestamp with
        | none =>
          Action.log .debug s!"{clock.name} timestamp not valid, skipping"
          o.synchronizeClocks env sourceTime rest
        | some t =>
          let (report, clock) ←
            synchronizeClock env id clock.flushTimestamp t sourceTime o.config.sampleWeight
          let o := { o with clocks := o.clocks.set id clock }
          let (reports, o) ← o.synchronizeClocks env sourceTime rest
          return (report :: reports, o)

/-- Correct all destinations that have seen an edge. -/
def synchronize (env : Environment W H S ε) (o : Orchestrator H S) :
    Action W (List ClockReport × Orchestrator H S) := do
  let (sourceTime, o) ← o.sourceTimestamp env
  match sourceTime with
  | none => return ([], o)
  | some t => o.synchronizeClocks env t o.clocks.ids

/-! ### The whole cycle -/

def runCycle (env : Environment W H S ε) (wait : Waiter W ε) (o : Orchestrator H S) :
    Action W (Except (SyncError ε) (List ClockReport) × Orchestrator H S) := do
  let (_, o) ← o.reconfigure
  let (outcome, o) ← o.flushTimestamps.poll env wait
  match outcome with
  | .error e => return (.error e, o)
  | .ok .collected =>
    let (result, o) ← o.collectReference env
    match result with
    | .error e => return (.error e, o)
    | .ok () =>
      let (reports, o) ← o.synchronize env
      return (.ok reports, o)
  | .ok _ => return (.ok [], o)

end Orchestrator

end ClockDiscipline
