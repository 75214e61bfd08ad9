/-
  ClockDiscipline/Exchange/Encode.lean
  ====================================
  **Putting values into JSON.**
-/
import ClockDiscipline.Observation.Snapshot
import ClockDiscipline.Rate.Tracking
import ClockDiscipline.Sync.Cycle

namespace ClockDiscipline

/-! ### Plain values -/

namespace Json

variable {α ε : Type}

def ofNat (n : Nat) : Json := .integer n

def ofInt64 (n : Int64) : Json := .integer n.toInt

/-- A double by its bits.  Values that are not numbers are not told apart. -/
def ofFloat (x : Float) : Json :=
  .string (if x.isNaN then "nan" else Text.hexPadded 16 x.toBits.toNat)

def ofOption (f : α → Json) : Option α → Json
  | some a => f a
  | none => .null

def ofList (f : α → Json) (xs : List α) : Json := .array (xs.map f)

def ofBytes (bytes : List UInt8) : Json :=
  .string (String.join (bytes.map fun b => Text.hexPadded 2 b.toNat))

/-- A failure without further words. -/
def failed (kind : String) : Json := .object [("error", .string kind)]

def failure (kind message : String) : Json :=
  .object [("error", .string kind), ("message", .string message)]

def ofResult (g : ε → Json) (f : α → Json) : Except ε α → Json
  | .ok a => f a
  | .error e => g e

/-- The answer of something that has no other. -/
def done : Unit → Json := fun _ => .string "ok"

def ofFault : Fault → Json
  | .overflow => failed "overflow"
  | .unfinished => failed "unfinished"
  | .unforeseen => failed "overflow"

def ofOrdering : Ordering → Json
  | .lt => .integer (-1)
  | .eq => .integer 0
  | .gt => .integer 1

end Json

open Json

/-! ### Times -/

def Duration.number (d : Duration) : Json := ofInt64 d.nanos

def Instant.number (t : Instant) : Json := ofInt64 t.nanos

def Instant.json (t : Instant) : Json :=
  .object [("nanos", t.number), ("secs", .integer t.secs), ("subsec", ofNat t.subsec),
    ("display", .string t.text), ("debug", .string t.debugText)]

def Duration.json (d : Duration) : Json :=
  .object [("nanos", d.number), ("seconds", ofFloat d.seconds), ("negative", .bool d.isNegative),
    ("display", .string d.text), ("debug", .string d.debugText)]

/-! ### Edges and clocks -/

def ClockId.json (id : ClockId) : Json := ofNat id.slot

def PortState.json (s : PortState) : Json := .string s.name

def ServoState.json (s : ServoState) : Json := .string s.name

def EdgeEvent.json (e : EdgeEvent) : Json :=
  .object [("channel", ofNat e.channel.toNat), ("time", e.time.number)]

def Pairing.json : Pairing → Json
  | .sample offset localTime => .object [("offset", offset.number), ("local", localTime.number)]
  | .ambiguous => .string "ignore"

def SourceConfig.json (c : SourceConfig) : Json :=
  .object [("device", .string c.device), ("pin-index", ofNat c.pinIndex.toNat),
    ("channel", ofNat c.channel.toNat), ("polarity", .string c.polarity.name),
    ("correction", ofInt64 c.correction), ("pulse-width", ofInt64 c.pulseWidth)]

def EdgeSource.json (s : EdgeSource) : Json :=
  .object [("name", .string s.name), ("clock", s.clock.json),
    ("channel", ofNat s.channel.toNat), ("polarity", .string s.polarity.name)]

def Selection.json (s : Selection) : Json :=
  .object [("kind", .string s.kind), ("source", ofOption ClockId.json s.source?),
    ("destinations", ofOption (ofList ClockId.json) s.destinations?)]

/-! ### Synchronization -/

def SyncConfig.json (c : SyncConfig) : Json :=
  .object [("sample-weight", ofFloat c.sampleWeight), ("free-running", .bool c.freeRunning),
    ("poll-timeout-ms", ofNat c.pollTimeoutMs.toNat), ("perout-phase", ofInt64 c.peroutPhase),
    ("fallback", .string c.fallback.name)]

def ClockReport.json (r : ClockReport) : Json :=
  .object [("clock", r.clock.json), ("name", .string r.name), ("offset", r.offset.number),
    ("state", r.state.json), ("frequency", ofOption ofFloat r.frequency)]

/-- Like a snapshot, with doubles by their bits.  One that is not finite is
    not there. -/
def ObservedClock.exactJson (c : ObservedClock) : Json :=
  .object [("name", .string c.name), ("index", ofNat c.index.toNat), ("role", .string c.role.name),
    ("servo-state", c.servoState.json), ("port-state", ofOption PortState.json c.portState),
    ("last-offset", ofOption ofInt64 c.lastOffset),
    ("last-frequency", ofOption ofFloat (c.lastFrequency.filter Float.isFinite))]

def Clock.json {H S : Type} (c : Clock H S) (id : ClockId) : Json :=
  .object [("id", id.json), ("name", .string c.name), ("index", ofNat c.index.toNat),
    ("servo", c.servoState.json), ("port", ofOption PortState.json c.portState),
    ("destination", .bool c.isDestination), ("free_running", .bool c.freeRunning),
    ("offset", ofOption Duration.number c.lastOffset),
    ("frequency", ofOption ofFloat c.lastFrequency)]

/-! ### Rates -/

def RangeError.json (e : RangeError) : Json :=
  failure (match e with | .ratio _ => "Ratio" | .offset _ => "Offset") e.message

def Measurement.fields (m : Measurement) : List (String × Json) :=
  [("offset", m.offset.number), ("delay", m.delay.number)]

def TrackingOutcome.json : TrackingOutcome → Json
  | .adjusted m rate =>
    .object ([("kind", .string "adjusted")] ++ m.fields ++ [("ratio", ofNat rate.bits.toNat)])
  | .skipped m resetRequested =>
    .object ([("kind", .string "skipped")] ++ m.fields ++
      [("reset_requested", .bool resetRequested)])

end ClockDiscipline
