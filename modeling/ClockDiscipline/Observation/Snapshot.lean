/-
  ClockDiscipline/Observation/Snapshot.lean
  =========================================
  **What the program shows of itself.**

  A snapshot lists the clocks with their parts and what was last measured and
  done.  It is published as one compact JSON object.
-/
import ClockDiscipline.Json.Value
import ClockDiscipline.Sync.Orchestrator

namespace ClockDiscipline

/-- The part of a clock. -/
inductive ClockRole where
  /-- Other clocks follow it. -/
  | source
  /-- It is corrected. -/
  | destination
  | idle
deriving DecidableEq, Repr

namespace ClockRole

def all : List ClockRole := [.source, .destination, .idle]

def name : ClockRole → String
  | .source => "source"
  | .destination => "destination"
  | .idle => "idle"

def ofName? (name : String) : Option ClockRole := all.find? fun r => r.name == name

end ClockRole

/-- What is shown of a clock. -/
structure ObservedClock where
  name : String
  index : UInt32
  role : ClockRole
  servoState : ServoState
  portState : Option PortState
  lastOffset : Option Int64
  lastFrequency : Option Float

/-- All clocks in the order they were opened.  The source is shown as such
    even if it is a destination too. -/
def Orchestrator.observe {H S : Type} (o : Orchestrator H S) : List ObservedClock :=
  o.clocks.entries.map fun (id, clock) =>
    { name := clock.name
      index := clock.index
      role :=
        if o.sourceClock == some id then .source
        else if clock.isDestination then .destination
        else .idle
      servoState := clock.servoState
      portState := clock.portState
      lastOffset := clock.lastOffset.map (·.nanos)
      lastFrequency := clock.lastFrequency }

namespace ObservedClock

/-- An absent value is written as null. -/
def optional {α : Type} (f : α → Json) : Option α → Json
  | some a => f a
  | none => .null

def json (c : ObservedClock) : Json :=
  .object [
    ("name", .string c.name),
    ("index", .integer c.index.toNat),
    ("role", .string c.role.name),
    ("servo-state", .string c.servoState.name),
    ("port-state", optional (fun s => .string s.name) c.portState),
    ("last-offset", optional (fun n => .integer n.toInt) c.lastOffset),
    ("last-frequency", optional .float c.lastFrequency)]

end ObservedClock

/-- The version of the program. -/
def programVersion : String := "0.1.0"

/-- The snapshot of a program that has been running for a number of
    seconds. -/
def snapshot (uptimeSeconds : Json) (clocks : List ObservedClock) : Json :=
  .object [
    ("program", .object [
      ("version", .string programVersion),
      ("uptime_seconds", uptimeSeconds)]),
    ("clocks", .array (clocks.map ObservedClock.json))]

end ClockDiscipline
