/-
  ClockDiscipline/Exchange/Bench.lean
  ===================================
  **Benches described in JSON, and what happened on them.**
-/
import ClockDiscipline.Bench.Bus
import ClockDiscipline.Bench.Environment
import ClockDiscipline.Exchange.Decode
import ClockDiscipline.Exchange.Encode

namespace ClockDiscipline.Bench

open Json

/-! ### Devices -/

def eventOfJson (j : Json) : Decode EdgeEvent := do
  return ⟨← j.getD "channel" asWord32 0, ← j.get "time" asInstant⟩

def methodsOfJson (j : Json) : Decode (List Method) := do
  return (← j.asList asText).flatMap Method.ofName

def Device.ofJson (j : Json) : Decode Device := do
  let d : Device := { name := "" }
  return {
    name := ← j.getD "name" asText d.name
    index := ← j.getD "index" asWord32 d.index
    time := ← j.getD "time" asInstant d.time
    frequency := ← j.getD "freq" asFloat d.frequency
    maxFrequency := ← j.getD "max_freq" asFloat d.maxFrequency
    pins := ← j.getD "pins" asWord32 d.pins
    failing := ← j.getD "fail" methodsOfJson []
    events := ← j.getD "events" (asList eventOfJson) [] }

def Change.ofJson (j : Json) : Decode Change := do
  return {
    index := ← j.get? "index" asWord32
    time := ← j.get? "time" asInstant
    frequency := ← j.get? "freq" asFloat
    maxFrequency := ← j.get? "max_freq" asFloat
    pins := ← j.get? "pins" asWord32
    failing := ← j.get? "fail" methodsOfJson
    events := ← j.getD "events" (asList eventOfJson) [] }

/-- A call on the device with this index. -/
def indexed (index : UInt32) (what : String) (rest : List Json) : Json :=
  .array (ofNat index.toNat :: .string what :: rest)

def Call.json : Call → Json
  | .opened index => indexed index "open" []
  | .setFrequency index f => indexed index "set_frequency" [ofFloat f]
  | .step index d => indexed index "step_clock" [d.number]
  | .setPinFunction index pin channel =>
    indexed index "set_pin_function" [ofNat pin.toNat, ofNat channel.toNat]
  | .enableEdges index channel polarity =>
    indexed index "enable_extts" [ofNat channel.toNat, .string polarity.name]
  | .disableEdges index channel => indexed index "disable_extts" [ofNat channel.toNat]
  | .sample offset localNanos weight =>
    .array [.string "sample", ofInt64 offset, ofInt64 localNanos, ofFloat weight]
  | .reset => .array [.string "reset"]

def World.callsJson (w : World) : Json := ofList Call.json w.calls.toList

/-! ### Whole benches -/

def servoAnswerOfJson (j : Json) : Decode (Float × ServoState) := do
  return (← j.get "adj" asFloat, ← j.get "state" (asNamed ServoState.ofName?))

def ofJson (j : Json) : Decode (World × ServoPlan) := do
  let servo ← j.getD "servo" .ok (.object [])
  let answers ← servo.get? "answers" (asList servoAnswerOfJson)
  let plan : ServoPlan ← match answers with
    | some _ => pure .prepared
    | none => do pure (.pi (← servo.asGains) (← servo.asThresholds))
  return ({
    devices := ← j.getD "devices" (asList Device.ofJson) []
    aliases := ← j.getD "aliases" (asPairs asText) []
    answers := answers.getD [] }, plan)

/-- A list of sources that are ready, or any word for a failure. -/
def waitAnswerOfJson : Json → Decode WaitAnswer
  | .string _ => .ok none
  | j => some <$> j.asList asNat

def sourceConfigOfJson (j : Json) : Decode SourceConfig := do
  let d : SourceConfig := { device := ← j.get "device" asText }
  return { d with
    pinIndex := ← j.getD "pin-index" asWord32 d.pinIndex
    channel := ← j.getD "channel" asWord32 d.channel
    polarity := ← j.getD "polarity" (asNamed Polarity.ofName?) d.polarity
    correction := ← j.getD "correction" asInt64 d.correction
    pulseWidth := ← j.getD "pulse-width" asInt64 d.pulseWidth }

/-- A reference; a clock may be given by its handle or by the name it is
    registered under. -/
def referenceOfJson {H S : Type} (clocks : Registry H S) (j : Json) : Decode Reference := do
  match ← j.get "type" asText with
  | "generic" => return .generic (← j.getD "utc_offset" asDuration defaultUtcOffset)
  | "phc" =>
    match ← j.get? "clock" asClockId with
    | some id => return .phc id
    | none =>
      match clocks.findByName (← j.get "name" asText) with
      | some id => return .phc id
      | none => .error "no clock of that name"
  | _ => .error "unknown reference"

/-! ### Failures -/

def Failure.json (e : Failure) : Json := failure "Device" e.text

def eventErrorJson (e : EventError Failure) : Json :=
  let kind := match e with
    | .device _ => "Device"
    | .unexpectedChannel .. => "UnexpectedChannel"
    | .noEvent => "NoEvent"
  failure kind (e.message Failure.text)

def registryErrorJson (e : RegistryError Failure) : Json :=
  let kind := match e with
    | .device _ => "Device"
    | .inUse _ => "InUse"
    | .unknown _ => "Unknown"
  failure kind (e.message Failure.text)

def referenceErrorJson (e : ReferenceError Failure) : Json :=
  let kind := match e with
    | .device _ => "Device"
    | .unknown _ => "Unknown"
  failure kind (e.message Failure.text)

def syncErrorJson (e : SyncError Failure) : Json :=
  let kind := match e with
    | .registry _ => "Registry"
    | .device _ => "Device"
    | .poll _ => "Poll"
    | .reference _ => "Reference"
    | .unknownClock _ => "UnknownClock"
  failure kind (e.message Failure.text)

/-! ### Clocks behind a bus -/

def BusWorld.ofJson (j : Json) : Decode BusWorld := do
  let budget ← j.getD "budget" .ok (.object [])
  return {
    now := ← j.getD "now" (asList (asNullable asInstant)) []
    reads := ← j.getD "reads" (asList (asNullable asWord64)) []
    rateBudget := ← budget.get? "write_ratio" asNat
    setBudget := ← budget.get? "set_absolute_time" asNat
    addBudget := ← budget.get? "add_time" asNat
    transferBudget := ← budget.get? "transfers" asNat }

def BusCall.json : BusCall → Json
  | .writeRate bits => .array [.string "write_ratio", ofNat bits.toNat]
  | .setTime ticks => .array [.string "set_absolute_time", ofNat ticks.toNat]
  | .addTime ticks => .array [.string "add_time", ofNat ticks.toNat]
  | .readCounter => .array [.string "read_counter"]
  | .frame sent => .array [ofBytes sent, ofNat sent.length]

def BusWorld.callsJson (w : BusWorld) : Json := ofList BusCall.json w.calls.toList

def trackingErrorJson (e : TrackingError BusFailure ReferenceFailure) : Json :=
  match e with
  | .bus _ => failed "Bus"
  | .clock _ => failure "Clock" (e.message BusFailure.text ReferenceFailure.text)
  | .range r => r.json

end ClockDiscipline.Bench
