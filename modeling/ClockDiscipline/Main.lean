/-
  ClockDiscipline/Main.lean
  =========================
  **The command line of the program.**

  The command line and the configuration file are read and checked here.
  Requests to device files are out of reach, so every clock is reported as
  missing.
-/
import ClockDiscipline.Daemon.Bare

namespace ClockDiscipline.Main

open Daemon Kernel

def helpText : String :=
  "Usage: phcsync [OPTIONS]\n\n" ++
  "Options:\n" ++
  "  -c, --config <CONFIG>        Configuration file to use [default: " ++
    defaultConfigPath ++ "]\n" ++
  "  -l, --log-level <LOG_LEVEL>  Override the log level of the configuration file\n" ++
  "  -h, --help                   Print help\n" ++
  "  -V, --version                Print version"

def usageText : String :=
  "error: the arguments can not be understood\n\n" ++
  "Usage: phcsync [OPTIONS]\n\nFor more information, try '--help'."

/-- Why the kernel refuses to read a file. -/
def errnoOf : IO.Error → Errno
  | .noFileOrDirectory .. => .noEntry
  | .permissionDenied .. => .denied
  | .inappropriateType .. => .isDirectory
  | _ => .inputOutput

/-- The file at a path, if it can be read. -/
def fileAt (path : String) : IO (Except FileError ConfigFile) := do
  try
    let bytes ← IO.FS.readBinFile path
    return .ok ⟨0o644, bytes.toList⟩
  catch e => return .error (.refused (errnoOf e))

def printEnding (ending : Ending) : IO UInt32 := do
  for entry in ending.printed do
    IO.println (printedLine entry)
  if let some e := ending.error then IO.eprintln s!"Error: {e.message}"
  if ending.code = some faultCode then IO.eprintln "a number in the settings is out of range"
  return UInt32.ofNat (ending.code.getD 1)

def runAt (path : String) (level : Option Config.Level) : IO UInt32 := do
  printEnding (runBare path level (← fileAt path))

def answer : Invocation → IO UInt32
  | .help => do
    IO.println helpText
    return 0
  | .version => do
    IO.println s!"phcsync {programVersion}"
    return 0
  | .misused => do
    IO.eprintln usageText
    return 2
  | .run path level => runAt path level

end ClockDiscipline.Main

def main (arguments : List String) : IO UInt32 :=
  ClockDiscipline.Main.answer (.ofCommandLine arguments)

