/-
  ClockDiscipline/Config/Settings.lean
  ====================================
  **The settings of the program, and whether they make sense.**

  Settings that can be read may still be of no use.  Checking them lists
  everything that is wrong, in the order of the settings.
-/
import ClockDiscipline.Edge.Reference
import ClockDiscipline.Rate.Tracking
import ClockDiscipline.Sync.Orchestrator
import ClockDiscipline.Text.Quoted

namespace ClockDiscipline

/-! ### Settings -/

/-- The gains and thresholds of the servos of all clocks. -/
structure ServoConfig where
  gains : PiGains := {}
  thresholds : LockThresholds := {}

/-- Where the pulses come from. -/
inductive ReferenceConfig where
  /-- They are on the second of the system clock; the offset of the hardware
      clocks from it is in seconds. -/
  | generic (utcOffset : Int64)
  | phc (device : String)
deriving DecidableEq, Repr

def ReferenceConfig.default : ReferenceConfig := .generic 37

/-- A port of a time protocol daemon and the device of its clock. -/
structure PortConfig where
  number : UInt16
  device : String
  state : PortState := .initializing
deriving DecidableEq, Repr

/-- A switch behind a management bus. -/
structure BusConfig where
  device : String := "/dev/spidev0.1"
  speedHz : UInt32 := 1000000
  /-- The clock it follows. -/
  reference : String
  tracking : TrackingConfig := {}

structure Config where
  logLevel : String := "info"
  servo : ServoConfig := {}
  sync : SyncConfig := {}
  reference : ReferenceConfig := .default
  sources : List SourceConfig := []
  ports : List PortConfig := []
  bus : Option BusConfig := none
  /-- Where port states are reported. -/
  portStatePath : Option String := none
  /-- Where snapshots are published. -/
  observationPath : Option String := none
  observationPermissions : UInt32 := 0o666

namespace Config

/-! ### Log levels -/

/-- Capital letters of the Latin alphabet as small ones. -/
def lowered (s : String) : String := String.ofList (s.toList.map Char.toLower)

/-- The most severe entry that is not printed any more, by its name in either
    case; off is a level of its own. -/
def Level := Option Severity
deriving DecidableEq

def levelName : Level → String
  | none => "OFF"
  | some severity => severity.name

def levels : List Level :=
  [none, some .error, some .warn, some .info, some .debug, some .trace]

/-- The level of a name, in capital or small letters. -/
def levelOfName? (name : String) : Option Level :=
  levels.find? fun level => lowered (levelName level) == lowered name

def level? (config : Config) : Option Level := levelOfName? config.logLevel

/-! ### Checking -/

/-- A remark if something is wrong. -/
def remarkIf (wrong : Bool) (text : String) : List String := if wrong then [text] else []

/-- The elements with whether an equal one precedes them. -/
def repetitions {α : Type} [BEq α] (xs : List α) : List (α × Bool) :=
  xs.zipIdx.map fun (x, i) => (x, (xs.take i).contains x)

def sourceRemarks (sources : List SourceConfig) : List String :=
  (sources.zip (repetitions (sources.map (·.device)))).flatMap fun (source, _, repeated) =>
    remarkIf repeated s!"Source {source.device} is configured more than once." ++
    remarkIf (source.pulseWidth.toInt ≤ 0 || 1000000000 ≤ source.pulseWidth.toInt)
      s!"Pulse width of source {source.device} must be between 0 and 1 second."

def portRemarks (ports : List PortConfig) : List String :=
  (repetitions (ports.map (·.number))).flatMap fun (number, repeated) =>
    remarkIf repeated s!"Port {number.toNat} is configured more than once."

def busRemarks (tracking : TrackingConfig) : List String :=
  remarkIf (tracking.maxOffset.toInt ≤ 0) "The maximum offset of the bus clock must be positive." ++
  remarkIf (tracking.periodMs == 0) "The sync period of the bus clock must be positive."

/-- Everything that is wrong.  A weight or a gain that is not a number is not
    objected to. -/
def remarks (config : Config) : List String :=
  remarkIf config.level?.isNone s!"Unknown log level {Text.quoted config.logLevel}." ++
  remarkIf config.sources.isEmpty "No sources configured." ++
  sourceRemarks config.sources ++
  portRemarks config.ports ++
  remarkIf (config.sync.sampleWeight ≤ 0) "The sample weight must be positive." ++
  remarkIf (config.servo.gains.kp < 0 || config.servo.gains.ki < 0)
    "Servo gains must not be negative." ++
  (match config.bus with
    | none => []
    | some bus => busRemarks bus.tracking)

/-- Whether the settings make sense. -/
def isSound (config : Config) : Bool := config.remarks.isEmpty

end Config

end ClockDiscipline
