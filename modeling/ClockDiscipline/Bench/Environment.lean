/-
  ClockDiscipline/Bench/Environment.lean
  ======================================
  **Running the synchronization on a bench.**

  A handle on a device is its position on the bench, so all handles on one
  device share its state.
-/
import ClockDiscipline.Bench.World
import ClockDiscipline.Sync.Cycle

namespace ClockDiscipline.Bench

/-! ### Devices -/

/-- Make a request of a device unless it is to fail. -/
def request {α : Type} (method : Method) (f : Device → α) (effect : Device → World → World)
    (position : Nat) : Action World (Except Failure α) :=
  Action.perform fun w =>
    match w.devices[position]? with
    | none => (.error .noSuchDevice, w)
    | some d =>
      if d.failing.contains method then (.error (.failed method), w)
      else (.ok (f d), effect d w)

/-- A request that only asks. -/
def query {α : Type} (method : Method) (f : Device → α) (position : Nat) :
    Action World (Except Failure α) :=
  request method f (fun _ w => w) position

/-- A request that changes the device and is recorded. -/
def command (method : Method) (call : Device → Call) (f : Device → Device) (position : Nat) :
    Action World (Except Failure Unit) :=
  request method (fun _ => ()) (fun d w => (w.modify position f).record (call d)) position

/-- Move a time by an offset, around the end of the range if need be. -/
def moved (t : Instant) (offset : Duration) : Instant := ⟨t.nanos + offset.nanos⟩

def devices : DeviceInterface World Nat Failure where
  now := query .now (·.time)
  frequency := query .frequency (·.frequency)
  setFrequency position f :=
    command .setFrequency (.setFrequency ·.index f) (fun d => { d with frequency := f }) position
  step position offset :=
    command .step (.step ·.index offset) (fun d => { d with time := moved d.time offset }) position
  maxFrequency := query .maxFrequency (·.maxFrequency)
  pinCount := query .pinCount (·.pins)
  setPinFunction position pin channel :=
    command .setPinFunction (.setPinFunction ·.index pin channel) id position
  enableEdges position channel polarity :=
    command .enableEdges (.enableEdges ·.index channel polarity) id position
  disableEdges position channel :=
    command .disableEdges (.disableEdges ·.index channel) id position
  nextEvent position :=
    request .nextEvent (·.events.head?)
      (fun _ w => w.modify position fun d => { d with events := d.events.tail }) position

/-- Open the device of a name or of what the name is an alias for. -/
def openClock (name : String) : Action World (Except Failure (Nat × UInt32)) :=
  Action.perform fun w =>
    let name := (w.aliases.lookup name).getD name
    match w.devices.findIdx? (·.name == name) with
    | none => (.error .noSuchDevice, w)
    | some position =>
      match w.devices[position]? with
      | none => (.error .noSuchDevice, w)
      | some d =>
        if d.failing.contains .opening then (.error (.failed .opening), w)
        else (.ok (position, d.index), w.record (.opened d.index))

/-! ### Servos -/

/-- A servo on the bench. -/
inductive Servo where
  | pi (servo : PiServo)
  /-- All such servos take their answers from one list; after its end they
      are locked and correct nothing. -/
  | prepared

def servos : ServoInterface World Servo where
  sample servo offset localNanos weight :=
    match servo with
    | .pi s => do
      let (answer, next) ← s.sampleNoted offset localNanos weight
      return (answer, .pi next)
    | .prepared => Action.perform fun w =>
      let w := w.record (.sample offset localNanos weight)
      match w.answers with
      | [] => (((0, .locked), .prepared), w)
      | answer :: rest => ((answer, .prepared), { w with answers := rest })
  reset servo :=
    match servo with
    | .pi s => return .pi s.reset
    | .prepared => Action.perform fun w => (.prepared, w.record .reset)
  frequency servo adjustment :=
    match servo with
    | .pi s => s.frequency adjustment
    | .prepared => adjustment * 1000000000

/-- How the servos of a bench are made. -/
inductive ServoPlan where
  | pi (gains : PiGains) (thresholds : LockThresholds)
  | prepared

def makeServo (plan : ServoPlan) (position : Nat) : Action World (Except Failure Servo) :=
  match plan with
  | .pi gains thresholds =>
    return (← PiServo.forDevice devices gains thresholds position).map .pi
  | .prepared => return .ok .prepared

/-! ### The bench as an environment -/

/-- After this many waits of one run nothing is ever ready. -/
def waitLimit : Nat := 64

/-- More requests than any loop needs before its queue is empty or nothing is
    ready any more. -/
def World.patience (w : World) : Nat :=
  waitLimit + 2 + (w.devices.map (·.events.length)).foldl (· + ·) 0

def environment (plan : ServoPlan) (w : World) : Environment World Nat Servo Failure where
  device := devices
  servo := servos
  openClock := openClock
  makeServo := makeServo plan
  systemTime := Action.perform fun w => (w.systemTime, w)
  errorText := Failure.text
  patience := w.patience

/-- Wait for events of sources on these devices.  The script answers first;
    then the sources whose queues are not empty are ready. -/
def wait (handles : List (Option Nat)) : Waiter World Failure := fun timeoutMs =>
  Action.perform fun w =>
    let w := { w with waits := w.waits + 1, timeoutMs := timeoutMs }
    if waitLimit < w.waits then (.ok [], w)
    else match w.script with
      | some ready :: rest => (.ok ready, { w with script := rest })
      | none :: rest => (.error .waitFailed, { w with script := rest })
      | [] =>
        let ready := handles.zipIdx.filterMap fun (handle, i) =>
          match handle with
          | some position => if 0 < w.queued position then some i else none
          | none => none
        (.ok ready, w)

end ClockDiscipline.Bench
