/-
  ClockDiscipline/Daemon/CommandLine.lean
  =======================================
  **The command line.**

  Arguments are taken from left to right, and the first that asks for help or
  that can not be understood decides.  An option may be given once, and its
  value may follow it, or be attached to it with or without an equals sign.
-/
import ClockDiscipline.Config.Settings

namespace ClockDiscipline.Daemon

/-- What a command line asks for. -/
inductive Invocation where
  /-- Run with a configuration file, and with a log level if one is given. -/
  | run (configPath : String) (level : Option Config.Level)
  | help
  | version
  /-- The command line can not be understood. -/
  | misused

/-- The configuration file if none is given. -/
def defaultConfigPath : String := "/etc/phcsync/phcsync.toml"

/-! ### Options -/

inductive OptionName where
  | config
  | level
deriving DecidableEq, Repr

namespace OptionName

def ofShort? : Char → Option OptionName
  | 'c' => some .config
  | 'l' => some .level
  | _ => none

def ofLong? : String → Option OptionName
  | "config" => some .config
  | "log-level" => some .level
  | _ => none

end OptionName

/-- What has been given so far. -/
structure Given where
  config : Option String := none
  level : Option Config.Level := none

/-- Take the value of an option, unless the option was given before or the
    value is of no use. -/
def Given.take (given : Given) (name : OptionName) (value : String) : Option Given :=
  match name with
  | .config =>
    if given.config.isSome || value.isEmpty then none
    else some { given with config := some value }
  | .level =>
    if given.level.isSome then none
    else (Config.levelOfName? value).map fun l => { given with level := some l }

def Given.invocation (given : Given) : Invocation :=
  .run (given.config.getD defaultConfigPath) given.level

/-! ### Arguments -/

/-- How an argument begins. -/
inductive Argument where
  | help
  | version
  /-- An option, with the value that is attached to it. -/
  | option (name : OptionName) (value : Option String)
  /-- All that follows is no option. -/
  | endOfOptions
  | other

namespace Argument

/-- The value after an equals sign, if there is one. -/
def attached : List Char → Option String
  | [] => none
  | '=' :: value => some (String.ofList value)
  | value => some (String.ofList value)

/-- An argument that starts with two dashes. -/
def ofLong (cs : List Char) : Argument :=
  let name := String.ofList (cs.takeWhile (· ≠ '='))
  let value := attached (cs.dropWhile (· ≠ '='))
  match OptionName.ofLong? name with
  | some name => .option name value
  | none =>
    if value.isSome then .other
    else match name with
      | "help" => .help
      | "version" => .version
      | _ => .other

/-- An argument that starts with one dash. -/
def ofShort (c : Char) (rest : List Char) : Argument :=
  match OptionName.ofShort? c with
  | some name => .option name (attached rest)
  | none =>
    match c with
    | 'h' => .help
    | 'V' => .version
    | _ => .other

def ofText (s : String) : Argument :=
  match s.toList with
  | ['-', '-'] => .endOfOptions
  | '-' :: '-' :: cs => ofLong cs
  | '-' :: c :: rest => ofShort c rest
  | _ => .other

/-- Whether a text can be the value of the option before it. -/
def isValue (s : String) : Bool :=
  match s.toList with
  | '-' :: _ :: _ => false
  | _ => true

end Argument

/-- Understand arguments after those that have been taken. -/
def Invocation.ofArguments : Given → List String → Invocation
  | given, [] => given.invocation
  | given, s :: rest =>
    match Argument.ofText s with
    | .help => .help
    | .version => .version
    | .other => .misused
    | .endOfOptions => if rest.isEmpty then given.invocation else .misused
    | .option name (some value) =>
      match given.take name value with
      | some given => ofArguments given rest
      | none => .misused
    | .option name none =>
      match rest with
      | [] => .misused
      | value :: rest =>
        if Argument.isValue value then
          match given.take name value with
          | some given => ofArguments given rest
          | none => .misused
        else .misused

/-- Understand a whole command line. -/
def Invocation.ofCommandLine (arguments : List String) : Invocation :=
  .ofArguments {} arguments

end ClockDiscipline.Daemon
