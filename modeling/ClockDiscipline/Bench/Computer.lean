/-
  ClockDiscipline/Bench/Computer.lean
  ===================================
  **A computer with simulated clock and SPI devices.**

  The clocks stand still unless they are read or moved, and what is queued on
  a device is the bytes that have been put there.  Requests fail when they are
  told to; those that change or reveal something are recorded in the order
  they were made.
-/
import ClockDiscipline.Bench.FileTree
import ClockDiscipline.Observation.Snapshot
import ClockDiscipline.Phc.Record
import ClockDiscipline.Phc.Kernel
import ClockDiscipline.Port.Reception
import ClockDiscipline.Switch.Spi

namespace ClockDiscipline.Bench

open Kernel

/-! ### Device files -/

/-- What a device file can be told to fail at. -/
inductive Operation where
  | opening
  | readTime
  | readFrequency
  | adjust
  | capabilities
  | edges
  | pin
  | setup
  | message
deriving DecidableEq, Repr

namespace Operation

def all : List Operation :=
  [.opening, .readTime, .readFrequency, .adjust, .capabilities, .edges, .pin, .setup, .message]

def name : Operation → String
  | .opening => "open"
  | .readTime => "gettime"
  | .readFrequency => "adjtime_read"
  | .adjust => "adjtime"
  | .capabilities => "getcaps"
  | .edges => "extts"
  | .pin => "pin"
  | .setup => "setup"
  | .message => "message"

def ofName? (name : String) : Option Operation := all.find? fun o => o.name == name

def ofRequest : Phc.InputRequest → Operation
  | .edges .. => .edges
  | .pin .. => .pin

end Operation

structure DeviceFile where
  name : String
  /-- What the clock shows, in nanoseconds. -/
  time : Int64 := 0
  /-- By how much every reading moves the clock. -/
  step : Int64 := 0
  frequency : Int64 := 0
  maxAdjustment : Int32 := 500000
  pins : Int32 := 4
  /-- The operations it fails at, and how. -/
  failing : List (Operation × Errno) := []
  /-- The bytes to be read. -/
  content : List UInt8 := []
  /-- Whether it counts as readable even if there is nothing to be read. -/
  isAlwaysReady : Bool := false

/-- What to change about a device file.  Events are added to those queued. -/
structure FileChange where
  time : Option Int64 := none
  step : Option Int64 := none
  frequency : Option Int64 := none
  maxAdjustment : Option Int32 := none
  pins : Option Int32 := none
  failing : Option (List (Operation × Errno)) := none
  events : List Phc.EventRecord := []

namespace DeviceFile

def change (d : DeviceFile) (c : FileChange) : DeviceFile where
  name := d.name
  time := c.time.getD d.time
  step := c.step.getD d.step
  frequency := c.frequency.getD d.frequency
  maxAdjustment := c.maxAdjustment.getD d.maxAdjustment
  pins := c.pins.getD d.pins
  failing := c.failing.getD d.failing
  content := d.content ++ c.events.flatMap Phc.EventRecord.bytes
  isAlwaysReady := d.isAlwaysReady

/-- How an operation fails, if it does. -/
def failure? (d : DeviceFile) (operation : Operation) : Option Errno := d.failing.lookup operation

def isReadable (d : DeviceFile) : Bool := d.isAlwaysReady || !d.content.isEmpty

def adjust (d : DeviceFile) : Phc.Adjustment → DeviceFile
  | .frequency scaled => { d with frequency := scaled }
  | .shift secs nanos => { d with time := d.time + secs * 1000000000 + Int64.ofNat nanos.toNat }

end DeviceFile

/-- A file that is no device, as far as devices are concerned.  It knows none of
    their requests, and there is nothing to wait for before it is read. -/
def DeviceFile.plain : DeviceFile where
  name := "/dev/null"
  failing := [(.readTime, ⟨22⟩), (.readFrequency, ⟨22⟩), (.adjust, ⟨22⟩), (.capabilities, ⟨25⟩),
    (.edges, ⟨25⟩), (.pin, ⟨25⟩), (.setup, ⟨25⟩), (.message, ⟨25⟩)]
  isAlwaysReady := true

/-! ### The computer -/

/-- A recorded request, with the name of the device file. -/
inductive KernelCall where
  | adjusted (name : String) (adjustment : Phc.Adjustment)
  | capabilities (name : String)
  | input (name : String) (request : Phc.InputRequest)
  | setting (name : String) (setting : Switch.SpiSetting)
  | message (name : String) (message : Switch.SpiMessage)
  /-- A wait for so many files and so many milliseconds. -/
  | poll (files : Nat) (timeoutMs : UInt64)
  /-- A snapshot that somebody was sent. -/
  | observed (text : String)

/-- What to change about a computer: a device file, or what is read from the
    switch. -/
structure ComputerChange where
  device : Option String := none
  file : FileChange := {}
  reads : Option (List (Option UInt64)) := none

/-- What happens during a wait. -/
structure Tick where
  /-- What the program has to have noted before anything else happens. -/
  awaited : Option String := none
  /-- What is sent to the socket for port states, if anything is. -/
  ports : Option (List UInt8) := none
  /-- Whether somebody asks for a snapshot. -/
  observe : Bool := false
  realtime : Option Int64 := none
  changes : List ComputerChange := []
  /-- How the wait fails. -/
  error : Option Errno := none

structure Computer where
  files : List DeviceFile := []
  /-- Paths that lead to other paths. -/
  links : List (String × String) := []
  /-- Network interfaces, with the entries of the directory of their
      clocks. -/
  interfaces : List (String × Option (List String)) := []
  /-- The time of the system clock in nanoseconds. -/
  realtime : Int64 := 0
  /-- What the switch answers to reads. -/
  reads : List (Option UInt64) := []
  /-- What happens during the waits to come; then the program is stopped. -/
  ticks : List Tick := []
  /-- All files that are no devices. -/
  tree : FileTree := .common
  /-- Whether the tasks in the background have had their turn. -/
  isUnderWay : Bool := false
  isStopping : Bool := false
  /-- Port states that have been reported and not been taken yet. -/
  updates : List PortUpdate := []
  /-- The clocks that whoever asks is shown. -/
  published : List ObservedClock := []
  calls : Array KernelCall := #[]

namespace Computer

def record (c : Computer) (call : KernelCall) : Computer := { c with calls := c.calls.push call }

def modify (c : Computer) (position : Nat) (f : DeviceFile → DeviceFile) : Computer :=
  { c with files := c.files.modify position f }

/-- The device file at a path; a link is followed. -/
def find? (c : Computer) (path : String) : Option Nat :=
  let path := (c.links.lookup path).getD path
  c.files.findIdx? (·.name == path)

def change (c : Computer) (change : ComputerChange) : Computer :=
  let c := { c with reads := change.reads.getD c.reads }
  match change.device.bind c.find? with
  | some position => c.modify position (·.change change.file)
  | none => c

def isReadable (c : Computer) (position : Nat) : Bool :=
  match c.files[position]? with
  | some d => d.isReadable
  | none => false

end Computer

end ClockDiscipline.Bench
