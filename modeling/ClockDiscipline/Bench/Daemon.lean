/-
  ClockDiscipline/Bench/Daemon.lean
  =================================
  **The daemon on a simulated computer.**

  Every wait of the daemon is a tick in which things happen: port states are
  reported, snapshots are asked for, clocks move on and events come in.  When
  the ticks are used up the daemon is told to stop.  A tick in which something
  never comes, such as a listener at a socket, lets the run go on for ever.
-/
import ClockDiscipline.Bench.Kernel
import ClockDiscipline.Daemon.Program
import ClockDiscipline.Observation.Server

namespace ClockDiscipline.Bench

open Kernel

/-! ### The directory of the program -/

def homeDirectory : Place := ["tmp", "phcsync-1"]

/-- Where a file of this name in the directory is. -/
def homePlace (name : String) : Place := homeDirectory ++ [name]

namespace Computer

/-- Make the directory of the program, with files in it. -/
def withHome (c : Computer) (files : List (String × ConfigFile)) : Computer :=
  let entries := files.map fun (name, content) => ⟨homePlace name, .file content, true⟩
  { c with tree := ⟨homeDirectory, .directory, true⟩ :: entries ++ c.tree }

/-- Who answers at a socket in the directory. -/
def listener? (c : Computer) (name : String) : Option Service := c.tree.listener? (homePlace name)

end Computer

/-! ### Waits -/

/-- Give the tasks in the background their turn, once. -/
def startTasks (tasks : Action Computer Unit) : Action Computer Unit := do
  let first ← Action.perform fun c => (!c.isUnderWay, { c with isUnderWay := true })
  if first then tasks

/-- Wait for what never comes. -/
def waitForever : Action Computer Unit := Action.checked (.error .unfinished)

/-- Wait until the program has noted a text. -/
def await (text : String) : Action Computer Unit := do
  let m ← get
  if !m.journal.any fun entry => entry.line.contains text then waitForever

/-- Report port states at the socket for them; the connection is tried until
    somebody answers. -/
def reportPorts (bytes : List UInt8) : Action Computer Unit := do
  match ← Action.perform fun c => (c.listener? "ports", c) with
  | none => waitForever
  | some .observer => return ()
  | some .portStates =>
    let r := Reception.ofBytes true bytes
    Action.logAll r.journal
    Action.perform fun c => ((), { c with updates := c.updates ++ r.updates })

/-- The snapshot that whoever asks is sent. -/
def Computer.snapshotText (c : Computer) : String :=
  Visit.text ⟨.integer 0, c.published, true⟩

/-- Ask for a snapshot; whoever waits for something else than a snapshot to be
    sent waits forever. -/
def askForSnapshot : Action Computer Unit := do
  match ← Action.perform fun c => (c.listener? "observe", c) with
  | some .observer => Action.perform fun c => ((), c.record (.observed c.snapshotText))
  | some .portStates | none => waitForever

/-- Let the things of a tick happen. -/
def happen (tick : Tick) : Action Computer Unit := do
  if let some text := tick.awaited then await text
  if let some bytes := tick.ports then reportPorts bytes
  if tick.observe then askForSnapshot
  Action.perform fun c =>
    let c := { c with realtime := tick.realtime.getD c.realtime }
    ((), tick.changes.foldl Computer.change c)

/-- Tell the daemon to stop, once. -/
def stop : Action Computer Unit := do
  let running ← Action.perform fun c => (!c.isStopping, { c with isStopping := true })
  if running then Action.log .info "Shutting down after the current cycle"

/-- Wait for files: a tick passes, unless the wait is over at once. -/
def waitWith (tasks : Action Computer Unit) (positions : List Nat) (timeoutMs : UInt64) :
    Action Computer PollResult := do
  if timeoutMs = 0 then look positions
  else
    match ← Action.perform fun c => (c.ticks, { c with ticks := c.ticks.tail }) with
    | [] =>
      startTasks tasks
      stop
      look positions
    | tick :: _ =>
      Action.perform fun c => ((), c.record (.poll positions.length timeoutMs))
      startTasks tasks
      happen tick
      match tick.error with
      | some e => return .failed e
      | none => look positions

/-! ### The computer as a host -/

/-- The number of events in bytes. -/
def eventCount (bytes : List UInt8) : Nat := bytes.length / Phc.EventRecord.size

/-- More requests than any loop needs before the ticks are used up and all
    queues are empty. -/
def Computer.patience (c : Computer) : Nat :=
  4 + c.ticks.length + (c.files.map fun d => eventCount d.content).foldl (· + ·) 0 +
    (c.ticks.map fun t => (t.changes.map (·.file.events.length)).foldl (· + ·) 0).foldl (· + ·) 0

def host (c : Computer) : Daemon.Host Computer Nat where
  clocks := clockKernel
  spi := spiKernel
  systemTime := Action.perform fun c => (SystemTime.ofNanos c.realtime, c)
  sockets := socketKernel
  waitWith := waitWith
  takeUpdates := Action.perform fun c => (c.updates, { c with updates := [] })
  isStopping := Action.perform fun c => (c.isStopping, c)
  publish clocks := Action.perform fun c => ((), { c with published := clocks })
  patience := c.patience

/-- Run the program on a computer. -/
def runDaemon (c : Computer) (arguments : List String) : Daemon.Ending × Computer :=
  Daemon.runInvocation (host c) (fun path => (c.tree.read path).mapError .refused) c
    (.ofCommandLine arguments)

end ClockDiscipline.Bench
