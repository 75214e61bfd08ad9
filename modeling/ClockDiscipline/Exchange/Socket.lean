/-
  ClockDiscipline/Exchange/Socket.lean
  ====================================
  **Port state reports and snapshots in JSON.**
-/
import ClockDiscipline.Bench.Kernel
import ClockDiscipline.Exchange.Config
import ClockDiscipline.Observation.Server

namespace ClockDiscipline

open Json

/-! ### Port states -/

def errorKindName : Json.ErrorKind → String
  | .malformed => "Syntax"
  | .truncated => "Eof"
  | .unsuitable => "Data"

def PortUpdate.json (u : PortUpdate) : Json :=
  .object [("port", ofNat u.port.toNat), ("state", u.state.json)]

def portUpdateAnswer (j : Json) : Decode Json := do
  let line ← j.get "line" asText
  return ofResult (fun e => failed (errorKindName e.kind)) PortUpdate.json (PortUpdate.ofLine line)

/-! ### Sockets -/

/-- What is in the way of a socket. -/
inductive Obstacle where
  | nothing
  | file
  | directory
  | staleSocket
  | missingDirectory
  | fileForDirectory
  | longName
deriving DecidableEq, Repr

namespace Obstacle

def ofName? : String → Option Obstacle
  | "file" => some .file
  | "directory" => some .directory
  | "socket" => some .staleSocket
  | "no-directory" => some .missingDirectory
  | "under-file" => some .fileForDirectory
  | "long-name" => some .longName
  | _ => none

/-- The place where the socket is to be put. -/
def place : Obstacle → Bench.Place
  | .missingDirectory | .fileForDirectory => ["tmp", "directory", "socket"]
  | .longName => ["tmp", String.ofList (List.replicate 150 's')]
  | _ => ["tmp", "socket"]

/-- What is there already. -/
def entries (o : Obstacle) : Bench.FileTree :=
  match o with
  | .nothing | .missingDirectory | .longName => []
  | .file => [⟨o.place, .file ⟨0o644, []⟩, true⟩]
  | .directory => [⟨o.place, .directory, true⟩]
  | .staleSocket => [⟨o.place, .socket .observer 0o666, true⟩]
  | .fileForDirectory => [⟨o.place.dropLast, .file ⟨0o644, []⟩, true⟩]

def path (o : Obstacle) : String := Kernel.Path.ofNames true o.place

/-- A computer with that in the way. -/
def computer (o : Obstacle) : Bench.Computer := { tree := o.entries ++ .common }

end Obstacle

def SocketError.kind : SocketError → String
  | .notASocket => "NotASocket"
  | .missingDirectory => "MissingDirectory"
  | .cannotBind _ => "Bind"
  | .io _ => "Io"

/-- An answer, if there is a socket to get it from. -/
def withSocket (j : Json) (service : Service) (mode : UInt32) (answer : Decode Json) :
    Decode Json := do
  let o ← j.getD "before" (asNamed Obstacle.ofName?) .nothing
  match ((putSocket Bench.socketKernel service o.path mode).execute o.computer).1 with
  | .error fault => return ofFault fault
  | .ok (.error e) => return failed e.kind
  | .ok (.ok ()) => answer

def portStreamAnswer (j : Json) : Decode Json :=
  withSocket j .portStates portSocketMode do
    let wanted := !(← j.getD "dropped" asBool false)
    let r := Reception.ofBytes wanted (← bytesOfJson j "text")
    return .object [
      ("updates", ofList (fun u => .array [ofNat u.port.toNat, u.state.json]) r.updates),
      ("invalid", ofNat r.invalid),
      ("failed", ofNat (if r.failed then 1 else 0)),
      ("mode", ofNat (permissionBits portSocketMode).toNat)]

/-! ### Snapshots -/

def observedClockOfJson (j : Json) : Decode ObservedClock := do
  return {
    name := ← j.get "name" asText
    index := ← j.get "index" asWord32
    role := ← j.get "role" (asNamed ClockRole.ofName?)
    servoState := ← j.get "servo" (asNamed ServoState.ofName?)
    portState := ← j.get? "port" asPortState
    lastOffset := ← j.get? "offset" asInt64
    lastFrequency := ← j.get? "frequency" asFloat }

def observeAnswer (j : Json) : Decode Json := do
  if ← j.getD "disabled" asBool false then return failed "disabled"
  else
    let d : Config := {}
    let mode ← j.getD "mode" asWord32 d.observationPermissions
    withSocket j .observer mode do
      let clocks ← j.getD "clocks" (asList observedClockOfJson) []
      return .object [("text", .string (Visit.text ⟨.integer 0, clocks, true⟩)),
        ("mode", ofNat (permissionBits mode).toNat)]

end ClockDiscipline
