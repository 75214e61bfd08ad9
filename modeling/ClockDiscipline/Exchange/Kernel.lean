/-
  ClockDiscipline/Exchange/Kernel.lean
  ====================================
  **Simulated computers described in JSON, and what happened on them.**
-/
import ClockDiscipline.Bench.Kernel
import ClockDiscipline.Exchange.Decode
import ClockDiscipline.Exchange.Encode

namespace ClockDiscipline.Bench

open Json Kernel

/-! ### Devices -/

def errnoOfJson (j : Json) : Decode Errno := Errno.mk <$> j.asNat

def failingOfJson (j : Json) : Decode (List (Operation × Errno)) := do
  let pairs ← j.asPairs errnoOfJson
  return pairs.filterMap fun (name, e) => (Operation.ofName? name).map (·, e)

def recordOfJson (j : Json) : Decode Phc.EventRecord := do
  return {
    secs := ← j.get "sec" asInt64
    nanos := ← j.getD "nsec" asWord32 0
    channel := ← j.getD "index" asWord32 0
    flags := ← j.getD "flags" asWord32 0 }

def FileChange.ofJson (j : Json) : Decode FileChange := do
  return {
    time := ← j.get? "time" asInt64
    step := ← j.get? "step" asInt64
    frequency := ← j.get? "freq" asInt64
    maxAdjustment := ← j.get? "max_adj" asInt32
    pins := ← j.get? "pins" asInt32
    failing := ← j.get? "fail" failingOfJson
    events := ← j.getD "events" (asList recordOfJson) [] }

def DeviceFile.ofJson (j : Json) : Decode DeviceFile := do
  return ({ name := ← j.get "name" asText } : DeviceFile).change (← FileChange.ofJson j)

def readsOfJson : Json → Decode (List (Option UInt64)) := asList (asNullable asWord64)

def ComputerChange.ofJson (j : Json) : Decode ComputerChange := do
  return {
    device := ← j.get? "device" asText
    file := ← FileChange.ofJson j
    reads := ← j.get? "reads" readsOfJson }

def Computer.ofJson (j : Json) : Decode Computer := do
  return {
    files := ← j.getD "devices" (asList DeviceFile.ofJson) []
    links := ← j.getD "links" (asPairs asText) []
    interfaces := ← j.getD "interfaces" (asPairs (asNullable (asList asText))) []
    realtime := ← j.getD "realtime" asInt64 0
    reads := ← j.getD "reads" readsOfJson [] }

/-! ### Calls -/

/-- A call on a device file. -/
def called (name what : String) (rest : List Json) : Json :=
  .array (.string name :: .string what :: rest)

def ofWord (w : UInt32) : Json := ofNat w.toNat

def ofWords (ws : List UInt32) : Json := ofList ofWord ws

def adjustmentJson (a : Phc.Adjustment) : List Json :=
  ofWord a.modes :: match a with
    | .frequency scaled => [ofInt64 scaled]
    | .shift secs nanos => [ofInt64 secs, ofWord nanos]

def KernelCall.json : KernelCall → Json
  | .adjusted name a => called name "adjtime" (adjustmentJson a)
  | .capabilities name => called name "getcaps" [ofWord Phc.capabilitiesRequest.number]
  | .input name r =>
    called name (Operation.ofRequest r).name [ofWord r.request.number, ofWords r.words]
  | .setting name s => called name "setup" [ofWord s.request.number, ofWord s.value]
  | .message name m =>
    called name "message" [ofWord Switch.SpiMessage.request.number, ofBytes m.sent,
      ofWord m.speedHz, ofWords Switch.SpiMessage.tailWords]
  | .poll files timeoutMs => .array [.string "poll", ofNat files, ofNat timeoutMs.toNat]
  | .observed text => .array [.string "observe", .string text]

def Computer.callsJson (c : Computer) : Json := ofList KernelCall.json c.calls.toList

/-! ### Failures -/

/-- A failure with the number of the kernel's error, if it is one of the
    kernel's. -/
def numbered (kind : String) (fields : List (String × Json)) (e : Option Errno) : Json :=
  .object ([("error", .string kind)] ++ fields ++ [("errno", ofOption (ofNat ·.number) e)])

def phcErrorJson : Phc.PhcError → Json
  | .cannotOpen name e => numbered "Open" [("name", .string name)] e.errno?
  | .notAClock name => .object [("error", .string "NotAClock"), ("name", .string name)]
  | .steering e => .object [("error", .string "Steering"), ("kind", .string e.name)]
  | .io e => numbered "Io" [] (some e)
  | .unexpectedEnd | .sourceWithoutClock => numbered "Io" [] none

def spiErrorJson : Switch.SpiError → Json
  | .cannotOpen name e => numbered "Open" [("name", .string name)] e.errno?
  | .transfer e => numbered "Transfer" [] (some e)

end ClockDiscipline.Bench
