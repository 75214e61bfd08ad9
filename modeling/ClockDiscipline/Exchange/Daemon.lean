/-
  ClockDiscipline/Exchange/Daemon.lean
  ====================================
  **Runs of the daemon in JSON.**
-/
import ClockDiscipline.Bench.Daemon
import ClockDiscipline.Exchange.Config
import ClockDiscipline.Exchange.Kernel

namespace ClockDiscipline.Bench

open Json Daemon Kernel

/-! ### The directory of the program -/

/-- How the directory of the program is written. -/
def directoryName : String := "\x7bdir\x7d"

def directoryPath : String := Path.ofNames true homeDirectory

/-- Put the directory into a text. -/
def insertDirectory (text : String) : String := text.replace directoryName directoryPath

/-- A text with the name of the directory in its place. -/
def ofText (text : String) : Json := .string (text.replace directoryPath directoryName)

/-! ### The course of a run -/

def tickOfJson (j : Json) : Decode Tick := do
  let errno ← j.getD "errno" asNat 0
  return {
    awaited := ← j.get? "await" asText
    ports := (← j.get? "ports" asText).map utf8Bytes
    observe := ← j.getD "observe" asBool false
    realtime := ← j.get? "realtime" asInt64
    changes := ← j.getD "set" (asList ComputerChange.ofJson) []
    error := if errno = 0 then none else some ⟨errno⟩ }

/-- The files in the directory when the program starts. -/
def homeFilesOfJson (j : Json) : Decode (List (String × ConfigFile)) := do
  let config ← j.get? "config" asText
  let blocked ← j.getD "blocked" asBool false
  return (config.toList.map fun text => ("config", ⟨0o644, utf8Bytes (insertDirectory text)⟩)) ++
    if blocked then [("observe", ⟨0o644, []⟩)] else []

/-! ### Errors -/

/-- The names in an error of a clock, from the outside in. -/
def phcErrorNames : Phc.PhcError → List String
  | .cannotOpen .. => ["Open"]
  | .notAClock _ => ["NotAClock"]
  | .steering e => ["Steering", e.name]
  | .io _ | .unexpectedEnd | .sourceWithoutClock => ["Io"]

def registryErrorNames : RegistryError Phc.PhcError → List String
  | .device e => "Device" :: phcErrorNames e
  | .inUse _ => ["InUse", "ClockId"]
  | .unknown _ => ["Unknown", "ClockId"]

def referenceErrorNames : ReferenceError Phc.PhcError → List String
  | .device e => "Device" :: phcErrorNames e
  | .unknown _ => ["Unknown", "ClockId"]

def syncErrorNames : SyncError Phc.PhcError → List String
  | .registry e => "Registry" :: registryErrorNames e
  | .device e => "Device" :: phcErrorNames e
  | .poll e => "Poll" :: phcErrorNames e
  | .reference e => "Reference" :: referenceErrorNames e
  | .unknownClock _ => ["UnknownClock", "ClockId"]

/-- An error by its names, or by its text if it has none. -/
def startErrorText (e : StartError) : String :=
  match e with
  | .config (.flawed _) => "Toml"
  | .config _ => "Io"
  | .unsound _ => e.message
  | .registry e => "(".intercalate (registryErrorNames e)
  | .sync e => "(".intercalate (syncErrorNames e)
  | .clock e => "(".intercalate (phcErrorNames e)
  | .bus (.cannotOpen ..) => "Open"
  | .bus (.transfer _) => "Transfer"

/-! ### Runs -/

/-- A run that does not come to its end by itself leaves nothing behind but
    what it has printed. -/
def endingJson (ending : Ending) (c : Computer) : Json :=
  .object [
    ("exit", ofOption ofNat ending.code),
    ("error", ofOption (fun e => ofText (startErrorText e)) ending.error),
    ("log", ofList (fun e => ofText (printedLine e)) ending.printed),
    ("calls", if ending.isOrderly then c.callsJson else .array [])]

def daemonAnswer (j : Json) : Decode Json := do
  let c ← Computer.ofJson j
  let c := { c with ticks := ← j.getD "ticks" (asList tickOfJson) [] }
  let c := c.withHome (← homeFilesOfJson j)
  let arguments ← j.getD "args" (asList asText) ["--config", s!"{directoryName}/config"]
  let (ending, c) := runDaemon c (arguments.map insertDirectory)
  return endingJson ending c

end ClockDiscipline.Bench
