/-
  ClockDiscipline/Config/Reading.lean
  ===================================
  **The settings as fields of a document.**
-/
import ClockDiscipline.Config.Settings
import ClockDiscipline.Document.Record

namespace ClockDiscipline

open NodeReader

/-! ### Gains and thresholds -/

def PiGains.reader : NodeReader PiGains :=
  record [
    .optional "kp" float fun x g => { g with kp := x },
    .optional "ki" float fun x g => { g with ki := x }] {}

def ServoConfig.reader : NodeReader ServoConfig :=
  record [
    .optional "kp" float fun x s => { s with gains.kp := x },
    .optional "ki" float fun x s => { s with gains.ki := x },
    .optional "first-step-threshold" int64 fun n s => { s with thresholds.firstStep := n },
    .optional "step-threshold" int64 fun n s => { s with thresholds.step := n },
    .optional "stable-offset-threshold" int64 fun n s => { s with thresholds.stableOffset := n },
    .optional "stable-sample-count" word32 fun n s => { s with thresholds.stableCount := n }] {}

/-! ### Synchronization -/

def SyncConfig.reader : NodeReader SyncConfig :=
  record [
    .optional "sample-weight" float fun x s => { s with sampleWeight := x },
    .optional "free-running" bool fun b s => { s with freeRunning := b },
    .optional "poll-timeout-ms" word64 fun n s => { s with pollTimeoutMs := n },
    .optional "perout-phase" int64 fun n s => { s with peroutPhase := n },
    .optional "fallback" (named FallbackPolicy.ofName?) fun p s => { s with fallback := p }] {}

def SourceConfig.reader : NodeReader SourceConfig :=
  record [
    .mandatory "device" text fun d s => { s with device := d },
    .optional "pin-index" word32 fun n s => { s with pinIndex := n },
    .optional "channel" word32 fun n s => { s with channel := n },
    .optional "polarity" (named Polarity.ofName?) fun p s => { s with polarity := p },
    .optional "correction" int64 fun n s => { s with correction := n },
    .optional "pulse-width" int64 fun n s => { s with pulseWidth := n }] { device := "" }

def PortConfig.reader : NodeReader PortConfig :=
  record [
    .mandatory "number" word16 fun n p => { p with number := n },
    .mandatory "device" text fun d p => { p with device := d },
    .optional "state" (named PortState.ofName?) fun s p => { p with state := s }]
    { number := 0, device := "" }

/-! ### References -/

namespace ReferenceConfig

/-- The types of references, each with its default and its fields. -/
inductive Kind where
  | generic
  | phc
deriving DecidableEq, Repr

def Kind.all : List Kind := [.generic, .phc]

def Kind.name : Kind → String
  | .generic => "generic"
  | .phc => "phc"

def Kind.ofName? (name : String) : Option Kind := all.find? fun k => k.name == name

def Kind.reader : NodeReader Kind
  | _, .string name =>
    match ofName? name with
    | some kind => .ok kind
    | none => .error .unknownVariant
  | _, _ => .error .invalidType

def Kind.start : Kind → ReferenceConfig
  | .generic => .default
  | .phc => .phc ""

def Kind.fields : Kind → List (Field ReferenceConfig)
  | .generic => [.optional "utc-offset" int64 fun n _ => .generic n]
  | .phc => [.mandatory "device" text fun d _ => .phc d]

/-- A reference is a table with its type among its entries, or a list of its
    type and the values of its fields.  The type is looked at first.  A list
    must have come to its end with the last field. -/
def reader : NodeReader ReferenceConfig
  | format, .table entries =>
    match entries.lookup "type" with
    | none => .error .missingField
    | some node => do
      let kind ← Kind.reader format node
      table format kind.fields (entries.filter fun (name, _) => name != "type") kind.start
  | format, .list (node :: nodes) => do
    let kind ← Kind.reader format node
    let reference ← positions format kind.fields nodes kind.start
    if kind.fields.length < nodes.length then .error .invalidLength else return reference
  | _, .list [] => .error .missingField
  | _, .date => .error .missingField
  | _, _ => .error .invalidType

end ReferenceConfig

/-! ### The bus -/

def TrackingConfig.reader : NodeReader TrackingConfig :=
  record [
    .optional "max-offset" int64 fun n t => { t with maxOffset := n },
    .optional "tick-ns" positiveWord32 fun n t => { t with tickNanos := n },
    .optional "sync-period-ms" word64 fun n t => { t with periodMs := n },
    .optional "servo" PiGains.reader fun g t => { t with gains := g }] {}

def BusConfig.reader : NodeReader BusConfig :=
  record [
    .optional "spi-device" text fun d b => { b with device := d },
    .optional "spi-speed-hz" word32 fun n b => { b with speedHz := n },
    .mandatory "reference" text fun r b => { b with reference := r },
    .optional "ratio" TrackingConfig.reader fun t b => { b with tracking := t }]
    { reference := "" }

/-! ### All settings -/

def Config.fields : List (Field Config) := [
  .optional "loglevel" text fun l c => { c with logLevel := l },
  .optional "servo" ServoConfig.reader fun s c => { c with servo := s },
  .optional "sync" SyncConfig.reader fun s c => { c with sync := s },
  .optional "reference" ReferenceConfig.reader fun r c => { c with reference := r },
  .optional "source" (list SourceConfig.reader) fun s c => { c with sources := s },
  .optional "port" (list PortConfig.reader) fun p c => { c with ports := p },
  .optional "bus" (optional BusConfig.reader) fun b c => { c with bus := b },
  .optional "port-state-path" (optional text) fun p c => { c with portStatePath := p },
  .optional "observation-path" (optional text) fun p c => { c with observationPath := p },
  .optional "observation-permissions" word32 fun n c => { c with observationPermissions := n }]

def Config.reader : NodeReader Config := record Config.fields {}

end ClockDiscipline
