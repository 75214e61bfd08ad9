/-
  ClockDiscipline/Daemon/Program.lean
  ===================================
  **The program as it is called.**

  The log level of the command line goes before that of the settings.  What is
  noted before the settings are read is not printed: there is no log yet.  A
  fault ends the program wherever it occurs, with a code of its own.
-/
import ClockDiscipline.Daemon.CommandLine
import ClockDiscipline.Daemon.Run
import ClockDiscipline.Text.Terminal

namespace ClockDiscipline.Daemon

open Kernel

/-- How the program ends. -/
structure Ending where
  /-- The code it exits with; there is none if it never comes to an end. -/
  code : Option Nat
  error : Option StartError := none
  printed : List Entry := []

/-- Whether an entry is printed at a log level. -/
def isPrinted (level : Config.Level) (e : Entry) : Bool :=
  match level with
  | none => false
  | some severity => e.severity.rank ≤ severity.rank

/-- An entry as it is printed. -/
def printedLine (e : Entry) : String := s!"{e.severity.name} {Text.shown e.text}"

/-- The log level that counts. -/
def effectiveLevel (given : Option Config.Level) (config : Config) : Config.Level :=
  (given <|> config.level?).getD (some .info)

/-- The code of a program that a fault has ended. -/
def faultCode : Nat := 101

namespace Ending

/-- The ending of a run that came to its end. -/
def ofResult (printed : List Entry) : Except StartError Unit → Ending
  | .ok () => { code := some 0, printed := printed }
  | .error e => { code := some 1, error := some e, printed := printed }

/-- The ending of a run without a result.  What it has printed until then
    stays. -/
def ofFault (printed : List Entry) : Fault → Ending
  | .unfinished => { code := none, printed := printed }
  | .overflow | .unforeseen => { code := some faultCode, printed := printed }

/-- Whether the program came to its end by itself. -/
def isOrderly (ending : Ending) : Bool := ending.code.any (· != faultCode)

end Ending

variable {W F : Type}

/-- Run with settings and a log level. -/
def runSettings (host : Host W F) (path : String) (config : Config) (level : Config.Level) (w : W) :
    Ending × W :=
  let (outcome, m) := (checkAndRun host path config).execute w
  let printed := m.journal.toList.filter (isPrinted level)
  match outcome with
  | .ok result => (.ofResult printed result, m.world)
  | .error fault => (.ofFault printed fault, m.world)

/-- Run with the settings of a file. -/
def runFile (host : Host W F) (path : String) (given : Option Config.Level)
    (file : Except FileError ConfigFile) (w : W) : Ending × W :=
  match Config.read file with
  | .error e => (.ofResult [] (.error (.config e)), w)
  | .ok config => runSettings host path config (effectiveLevel given config) w

/-- Run with a command line. -/
def runInvocation (host : Host W F) (fileAt : String → Except FileError ConfigFile) (w : W) :
    Invocation → Ending × W
  | .help | .version => ({ code := some 0 }, w)
  | .misused => ({ code := some 2 }, w)
  | .run path level => runFile host path level (fileAt path) w

end ClockDiscipline.Daemon
