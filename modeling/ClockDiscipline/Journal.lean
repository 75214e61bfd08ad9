/-
  ClockDiscipline/Journal.lean
  ============================
  **Steps that act on the world, keep a journal and may fault.**

  The world is whatever the program talks to: devices, the system clock, a
  kernel.  It is a type parameter, so that a statement about a component holds
  for every behaviour of what it is connected to.  An `Action` is one step
  against a world; a fault ends it without a result, but what has been done
  and written until then stays.
-/
import ClockDiscipline.Checked

namespace ClockDiscipline

/-! ### Journal entries -/

/-- How much attention an entry deserves. -/
inductive Severity where
  | error
  | warn
  | info
  | debug
  | trace
deriving DecidableEq, Repr

def Severity.name : Severity → String
  | .error => "ERROR"
  | .warn => "WARN"
  | .info => "INFO"
  | .debug => "DEBUG"
  | .trace => "TRACE"

/-- From the most urgent down. -/
def Severity.rank : Severity → Nat
  | .error => 1
  | .warn => 2
  | .info => 3
  | .debug => 4
  | .trace => 5

structure Entry where
  severity : Severity
  text : String
deriving DecidableEq, Repr

def Entry.line (e : Entry) : String := s!"{e.severity.name} {e.text}"

/-! ### Actions -/

/-- A world and the entries written so far. -/
structure Machine (W : Type) where
  world : W
  journal : Array Entry

/-- A step against a world `W`. -/
abbrev Action (W : Type) := ExceptT Fault (StateM (Machine W))

namespace Action

variable {W α : Type}

/-- Take a step with an empty journal. -/
def execute (a : Action W α) (w : W) : Except Fault α × Machine W :=
  StateT.run (ExceptT.run a) ⟨w, #[]⟩

/-- Let the world act. -/
def perform (f : W → α × W) : Action W α :=
  modifyGet fun m =>
    let (a, world) := f m.world
    (a, { m with world := world })

def log (severity : Severity) (text : String) : Action W Unit :=
  modify fun m => { m with journal := m.journal.push ⟨severity, text⟩ }

def logAll (entries : List Entry) : Action W Unit :=
  modify fun m => { m with journal := m.journal ++ entries.toArray }

/-- Use a result of checked arithmetic. -/
def checked (x : Checked α) : Action W α := liftM x

/-! ### Their meaning -/

theorem execute_checked (x : Checked α) (w : W) : (checked x).execute w = (x, ⟨w, #[]⟩) := by
  cases x <;> rfl

theorem execute_perform (f : W → α × W) (w : W) :
    (perform f).execute w = (.ok (f w).1, ⟨(f w).2, #[]⟩) := rfl

end Action

end ClockDiscipline
