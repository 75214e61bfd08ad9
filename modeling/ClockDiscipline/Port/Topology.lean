/-
  ClockDiscipline/Port/Topology.lean
  ==================================
  **Choosing the source clock from the states of the ports.**

  Each port belongs to a clock, and a clock is in the state of its best port.
  The one clock with a slave port is the source for the clocks with master
  ports; if there is none, the last of these stands in for it, unless that is
  switched off.
-/
import ClockDiscipline.Clock.Registry

namespace ClockDiscipline

/-! ### Selections -/

/-- What to do when there are clocks to correct and no source. -/
inductive FallbackPolicy where
  /-- The clock to be corrected that was seen last stands in. -/
  | lastDestination
  /-- Wait for a source. -/
  | disabled
deriving DecidableEq, Repr

namespace FallbackPolicy

def all : List FallbackPolicy := [.lastDestination, .disabled]

def name : FallbackPolicy → String
  | .lastDestination => "last-destination"
  | .disabled => "disabled"

def ofName? (name : String) : Option FallbackPolicy := all.find? fun p => p.name == name

end FallbackPolicy

inductive Selection where
  | source (source : ClockId) (destinations : List ClockId)
  /-- There is no real source; this clock stands in. -/
  | fallback (source : ClockId) (destinations : List ClockId)
  /-- More than one clock could be the source. -/
  | multipleSources
  /-- The only candidate is still calibrating. -/
  | sourceNotReady
  /-- There is nothing to do. -/
  | idle
deriving DecidableEq, Repr

namespace Selection

def source? : Selection → Option ClockId
  | .source id _ | .fallback id _ => some id
  | .multipleSources | .sourceNotReady | .idle => none

/-- The clocks to be corrected, if the selection decides on them. -/
def destinations? : Selection → Option (List ClockId)
  | .source _ ids | .fallback _ ids => some ids
  | .multipleSources | .sourceNotReady | .idle => none

def kind : Selection → String
  | .source .. => "source"
  | .fallback .. => "fallback"
  | .multipleSources => "multiple-sources"
  | .sourceNotReady => "source-not-ready"
  | .idle => "idle"

end Selection

/-- The selection for clocks in the given states, and what to note about
    it. -/
def select (policy : FallbackPolicy) (clocks : List (ClockId × PortState)) :
    Selection × String :=
  let withState (p : PortState → Bool) :=
    (clocks.filter fun (_, state) => p state.normalize).map (·.1)
  let slaves := withState (· == .slave)
  let candidates := withState fun s => s == .slave || s == .uncalibrated
  let destinations := withState fun s => s == .master || s == .preMaster
  if 1 < candidates.length then
    (.multipleSources, "multiple source clocks available, postponing sync")
  else match slaves.getLast? with
    | some id => (.source id destinations, s!"selecting {id.text} as the source clock")
    | none =>
      if 0 < candidates.length then (.sourceNotReady, "source clock not ready, waiting")
      else match destinations.getLast?, policy with
        | some id, .lastDestination =>
          (.fallback id destinations.dropLast,
            s!"no source, selecting {id.text} as the default clock")
        | some _, .disabled => (.idle, "no source clock, waiting")
        | none, _ => (.idle, "no clock ready, waiting")

/-! ### Ports -/

/-- A port, the clock it was first bound to and its normalized state. -/
structure Port where
  number : UInt16
  clock : ClockId
  state : PortState
deriving DecidableEq, Repr

structure Topology where
  ports : List Port
  policy : FallbackPolicy
  /-- Whether a state has changed since the last selection. -/
  changed : Bool
deriving DecidableEq, Repr

namespace Topology

variable {W : Type}

def empty (policy : FallbackPolicy) : Topology := ⟨[], policy, false⟩

def hasPort (t : Topology) (number : UInt16) : Bool := t.ports.any (·.number == number)

/-- Set the state of the port of this number. -/
def setState (t : Topology) (number : UInt16) (state : PortState) : Topology :=
  { t with
    ports := t.ports.map fun p => if p.number = number then { p with state := state } else p
    changed := true }

/-- Record a state; the answer is whether the port is known.  A state that
    comes to the same as the last one changes nothing. -/
def portStateChanged (t : Topology) (number : UInt16) (state : PortState) :
    Action W (Bool × Topology) := do
  match t.ports.find? (·.number == number) with
  | none => return (false, t)
  | some port =>
    let state := state.normalize
    if port.state = state then return (true, t)
    else
      Action.log .debug s!"port {number.toNat} changed state to {state.debugText}"
      return (true, t.setState number state)

/-- Bind a port to a clock.  A known port keeps its clock. -/
def addPort (t : Topology) (number : UInt16) (clock : ClockId) (state : PortState) :
    Action W Topology := do
  let (known, t) ← t.portStateChanged number state
  if known then return t
  else return { t with ports := t.ports ++ [⟨number, clock, state.normalize⟩], changed := true }

/-- The clocks that ports are bound to, in the order they were first seen. -/
def clocks (t : Topology) : List ClockId :=
  t.ports.foldl (fun seen p => if seen.contains p.clock then seen else seen ++ [p.clock]) []

/-- The better of two states. -/
def better (a b : PortState) : PortState := if a.precedence ≤ b.precedence then b else a

/-- The state of a clock: the best state of its ports. -/
def aggregate (t : Topology) (clock : ClockId) : Option PortState :=
  match (t.ports.filter (·.clock == clock)).map (·.state) with
  | [] => none
  | state :: rest => some (rest.foldl better state)

/-- The clocks with their states. -/
def clockStates (t : Topology) : List (ClockId × PortState) :=
  t.clocks.filterMap fun clock => (t.aggregate clock).map fun state => (clock, state)

/-- The selection for clocks in the given states. -/
def selectFrom (t : Topology) (clocks : List (ClockId × PortState)) : Action W Selection := do
  let (selection, note) := select t.policy clocks
  Action.log .info note
  return selection

/-- Select anew. -/
def reconfigure (t : Topology) : Action W (Selection × Topology) := do
  Action.log .info "reconfiguring after port state change"
  let t := { t with changed := false }
  let selection ← t.selectFrom t.clockStates
  return (selection, t)

end Topology

end ClockDiscipline
