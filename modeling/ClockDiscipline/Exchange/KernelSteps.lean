/-
  ClockDiscipline/Exchange/KernelSteps.lean
  =========================================
  **Requests in JSON to the clocks of a simulated computer.**
-/
import ClockDiscipline.Exchange.Kernel
import ClockDiscipline.Phc.Waiting

namespace ClockDiscipline.Bench

open Json Kernel

variable {α : Type}

def phcResult (f : α → Json) : Except Phc.PhcError α → Json := ofResult phcErrorJson f

/-- Change the computer. -/
def changeStep (s : Json) : Decode (Action Computer Json) := do
  let change ← ComputerChange.ofJson s
  return Action.perform fun c => (done (), c.change change)

/-! ### One clock -/

/-- Wait for events of a clock, and of a source that has none. -/
def waitStep (file : Nat) (missing : Bool) : Action Computer Json := do
  match Phc.filesOfSources (some file :: if missing then [none] else []) with
  | .error e => return phcErrorJson e
  | .ok files => return phcResult (ofList ofNat) (← Phc.wait clockKernel.poll files 0)

/-- One request to an open clock. -/
def phcStep (file : Nat) (what : String) (s : Json) : Decode (Action Computer Json) := do
  let device := Phc.device clockKernel
  match what with
  | "now" => return phcResult Instant.number <$> device.now file
  | "frequency" => return phcResult ofFloat <$> device.frequency file
  | "max_frequency" => return phcResult ofFloat <$> device.maxFrequency file
  | "set_frequency" =>
    let ppb ← s.get "ppb" asFloat
    return phcResult done <$> device.setFrequency file ppb
  | "step_clock" =>
    let offset ← s.get "offset" asDuration
    return phcResult done <$> device.step file offset
  | "set_pin_function" =>
    let pin ← s.getD "pin" asWord32 0
    let channel ← s.getD "channel" asWord32 0
    return phcResult done <$> device.setPinFunction file pin channel
  | "enable_extts" =>
    let channel ← s.getD "channel" asWord32 0
    let polarity ← s.get "polarity" (asNamed Polarity.ofName?)
    return phcResult done <$> device.enableEdges file channel polarity
  | "disable_extts" =>
    let channel ← s.getD "channel" asWord32 0
    return phcResult done <$> device.disableEdges file channel
  | "pin_count" => return phcResult ofWord <$> device.pinCount file
  | "read_extts" => return phcResult (ofOption EdgeEvent.json) <$> device.nextEvent file
  | "wait" => return waitStep file (← s.getD "missing" asBool false)
  | "set" => changeStep s
  | _ => .error "unknown do"

/-! ### Opening clocks -/

def locatedJson (located : Phc.Located) : Json :=
  .array [.string located.path, ofWord located.index]

/-- The time of an opened clock, and its number. -/
def openedJson (name : String) : Action Computer Json := do
  match ← Phc.openClock clockKernel name with
  | .error e => return phcErrorJson e
  | .ok (file, index) =>
    let now ← (Phc.device clockKernel).now file
    return .array [phcResult Instant.number now, ofWord index]

def openerStep (what : String) (s : Json) : Decode (Action Computer Json) := do
  match what with
  | "resolve" =>
    let name ← s.get "name" asText
    return phcResult locatedJson <$> Phc.locate clockKernel name
  | "open" => return openedJson (← s.get "name" asText)
  | "set" => changeStep s
  | _ => .error "unknown do"

/-! ### Small answers -/

/-- The device that a path in a directory of its own leads to. -/
def indexAnswer (j : Json) : Decode Json := do
  let file ← j.get "file" asText
  let path (name : String) : String := s!"/fresh/{name}"
  let link ← j.get? "link" asText
  let missing ← j.getD "missing" asBool false
  let c : Computer := {
    files := if missing then [] else [{ name := path file }]
    links := link.toList.map fun l => (path l, path file) }
  let name := path (link.getD file)
  return match ((Phc.locate clockKernel name).execute c).1 with
  | .error e => ofFault e
  | .ok (.error (.cannotOpen ..)) => failed "Open"
  | .ok (.error _) => failed "NotAClock"
  | .ok (.ok located) =>
    .object [("file", .string (String.ofList (Phc.fileName located.path))),
      ("index", ofWord located.index)]

/-- Read events from a file, up to the first that faults. -/
def readEvents : Nat → Action Computer (List Json)
  | 0 => return []
  | n + 1 => do
    let answer ← match ← Phc.nextEvent clockKernel 0 with
      | .ok event => pure (ofOption EdgeEvent.json event)
      | .error _ => pure (failed "UnexpectedEof")
    return answer :: (← readEvents n)

/-- Events in the bytes of a file. -/
def eventBytesAnswer (j : Json) : Decode Json := do
  let bytes ← j.get "bytes" asBytes
  let reads ← j.getD "reads" asNat 1
  let c : Computer := { files := [{ name := "", content := bytes, isAlwaysReady := true }] }
  return ofResult ofFault .array ((readEvents reads).execute c).1

/-- Which of several pipes are ready. -/
def readyAnswer (j : Json) : Decode Json := do
  let unread ← j.get "pipes" (asList asNat)
  let error ← j.getD "errno" asNat 0
  let outcome : PollResult :=
    if error = 0 then .returned (unread.map fun n => if 0 < n then 1 else 0)
    else .failed ⟨error⟩
  return ofResult (fun _ => failed "Io") (ofList ofNat) outcome.ready

/-- What the program takes for the time of the system clock. -/
def realtimeAnswer (j : Json) : Decode Json := do
  let t := SystemTime.ofNanos (← j.get "time" asInt64)
  return ofResult ofFault Instant.number t.instant

end ClockDiscipline.Bench
