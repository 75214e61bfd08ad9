/-
  ClockDiscipline/Port/State.lean
  ===============================
  **States of the ports of a time protocol daemon.**

  A port is in one of nine numbered states.  Only five of them matter for
  synchronization; `normalize` counts every other one as disabled.
-/

namespace ClockDiscipline

inductive PortState where
  | initializing
  | faulty
  | disabled
  | listening
  | preMaster
  | master
  | passive
  | uncalibrated
  | slave
deriving DecidableEq, Repr

namespace PortState

/-- All states, the first being number one. -/
def all : List PortState :=
  [.initializing, .faulty, .disabled, .listening, .preMaster, .master, .passive,
    .uncalibrated, .slave]

def number : PortState → Nat
  | .initializing => 1
  | .faulty => 2
  | .disabled => 3
  | .listening => 4
  | .preMaster => 5
  | .master => 6
  | .passive => 7
  | .uncalibrated => 8
  | .slave => 9

def ofNumber? (n : Nat) : Option PortState := all.find? fun s => s.number == n

/-- What is said about a number that belongs to no state. -/
def unknownNumberText (n : Nat) : String :=
  s!"No discriminant in enum \x60PortState\x60 matches the value \x60{n}\x60"

def name : PortState → String
  | .initializing => "initializing"
  | .faulty => "faulty"
  | .disabled => "disabled"
  | .listening => "listening"
  | .preMaster => "pre-master"
  | .master => "master"
  | .passive => "passive"
  | .uncalibrated => "uncalibrated"
  | .slave => "slave"

def ofName? (name : String) : Option PortState := all.find? fun s => s.name == name

def debugText : PortState → String
  | .initializing => "Initializing"
  | .faulty => "Faulty"
  | .disabled => "Disabled"
  | .listening => "Listening"
  | .preMaster => "PreMaster"
  | .master => "Master"
  | .passive => "Passive"
  | .uncalibrated => "Uncalibrated"
  | .slave => "Slave"

/-- The state as far as it matters for synchronization. -/
def normalize : PortState → PortState
  | .slave => .slave
  | .uncalibrated => .uncalibrated
  | .master => .master
  | .preMaster => .preMaster
  | _ => .disabled

/-- Which of several states of one clock counts: the one that is furthest on
    the way to being synchronized. -/
def precedence (s : PortState) : Nat := s.normalize.number

theorem ofNumber?_number (s : PortState) : ofNumber? s.number = some s := by
  cases s <;> rfl

theorem normalize_normalize (s : PortState) : s.normalize.normalize = s.normalize := by
  cases s <;> rfl

end PortState

end ClockDiscipline
