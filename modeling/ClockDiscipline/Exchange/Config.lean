/-
  ClockDiscipline/Exchange/Config.lean
  ====================================
  **Settings and configuration files in JSON.**
-/
import ClockDiscipline.Config.File
import ClockDiscipline.Exchange.Decode
import ClockDiscipline.Exchange.Encode

namespace ClockDiscipline

open Json Kernel

/-! ### Settings -/

def PiGains.json (g : PiGains) : Json := .object [("kp", ofFloat g.kp), ("ki", ofFloat g.ki)]

def LockThresholds.json (t : LockThresholds) : Json :=
  .object [("first-step-threshold", ofInt64 t.firstStep), ("step-threshold", ofInt64 t.step),
    ("stable-offset-threshold", ofInt64 t.stableOffset),
    ("stable-sample-count", ofNat t.stableCount.toNat)]

def ReferenceConfig.json : ReferenceConfig → Json
  | .generic utcOffset => .object [("generic", ofInt64 utcOffset)]
  | .phc device => .object [("phc", .string device)]

def PortConfig.json (p : PortConfig) : Json :=
  .array [ofNat p.number.toNat, .string p.device, p.state.json]

def TrackingConfig.json (t : TrackingConfig) : Json :=
  .object [("max-offset", ofInt64 t.maxOffset), ("tick-ns", ofNat t.tickNanos.toNat),
    ("sync-period-ms", ofNat t.periodMs.toNat), ("servo", t.gains.json)]

def BusConfig.json (b : BusConfig) : Json :=
  .object [("spi_device", .string b.device), ("spi_speed_hz", ofNat b.speedHz.toNat),
    ("reference", .string b.reference), ("ratio", b.tracking.json),
    ("period_ms", ofNat b.tracking.periodMs.toNat)]

/-- All settings, and what checking them yields. -/
def Config.fieldsJson (c : Config) : List (String × Json) :=
  [("loglevel", .string c.logLevel),
    ("log_level", ofOption (fun l => .string (levelName l)) c.level?),
    ("pi", c.servo.gains.json), ("lock", c.servo.thresholds.json), ("sync", c.sync.json),
    ("reference", c.reference.json), ("sources", ofList SourceConfig.json c.sources),
    ("ports", ofList PortConfig.json c.ports), ("bus", ofOption BusConfig.json c.bus),
    ("port_state_path", ofOption .string c.portStatePath),
    ("observation_path", ofOption .string c.observationPath),
    ("observation_permissions", ofNat c.observationPermissions.toNat),
    ("check", .bool c.isSound), ("warnings", ofList (.string ·.line) c.entries)]

/-! ### Where they come from -/

/-- The settings in a JSON value. -/
def Config.answerJson (j : Json) : Json :=
  ofResult (failed ·.text) (fun c => .object c.fieldsJson) (Config.reader .json (.ofJson j))

/-- The kinds of errors of files that are told apart. -/
def unreadableKind : FileError → String
  | .refused e => if e = .noEntry then "NotFound" else "Other"
  | .embeddedNul | .addressTooLong => "InvalidInput"

def ConfigError.fieldsJson : ConfigError → List (String × Json)
  | .unreadable e => [("error", .string "Io"), ("kind", .string (unreadableKind e))]
  | .notText => [("error", .string "Io"), ("kind", .string "InvalidData")]
  | .flawed flaw => [("error", .string "Toml"), ("kind", .string flaw.text)]

/-- The settings in a file, if it can be read. -/
def Config.fileAnswer (file : Except FileError ConfigFile) : Json :=
  let fields := match Config.read file with
    | .ok c => c.fieldsJson
    | .error e => e.fieldsJson
  let warnings := match file with
    | .ok file => file.warnings
    | .error _ => []
  .object (fields ++ [("file_warnings", ofList (.string ·.line) warnings)])

/-- The bytes of a text. -/
def utf8Bytes (s : String) : List UInt8 := s.toUTF8.data.toList

/-- Bytes given as a text or in hexadecimal. -/
def bytesOfJson (j : Json) (textName : String) : Decode (List UInt8) := do
  match ← j.get? "hex" asBytes with
  | some bytes => return bytes
  | none => return utf8Bytes (← j.get textName asText)

def configAnswer (j : Json) : Decode Json := do
  match j.present? "json" with
  | some document => return Config.answerJson document
  | none =>
    if ← j.getD "missing" asBool false then return Config.fileAnswer (.error (.refused .noEntry))
    else
      let mode ← j.getD "mode" asWord32 0o644
      return Config.fileAnswer (.ok ⟨mode, ← bytesOfJson j "toml"⟩)

end ClockDiscipline
