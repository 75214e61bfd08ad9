/-
  ClockDiscipline/Config/File.lean
  ================================
  **The configuration file.**
-/
import ClockDiscipline.Config.Reading
import ClockDiscipline.Kernel.File
import ClockDiscipline.Toml.Reader

namespace ClockDiscipline

structure ConfigFile where
  /-- The permissions of the file. -/
  mode : UInt32
  content : List UInt8

/-- Why there are no settings. -/
inductive ConfigError where
  /-- The file can not be read. -/
  | unreadable (error : Kernel.FileError)
  /-- The file is not UTF-8. -/
  | notText
  | flawed (flaw : Flaw)
deriving DecidableEq, Repr

/-- Whether users that have nothing to do with the file may write to it. -/
def ConfigFile.isExposed (file : ConfigFile) : Bool := file.mode &&& 0o002 != 0

/-- What to note about a file before it is read. -/
def ConfigFile.warnings (file : ConfigFile) : List Entry :=
  if file.isExposed then
    [⟨.warn, "Unrestricted config file permissions: Others can write."⟩]
  else []

/-- The settings in a TOML text. -/
def Config.ofToml (text : String) : Except Flaw Config :=
  match Toml.parse text with
  | none => .error .other
  | some node => Config.reader .toml node

/-- The settings in a file. -/
def Config.ofFile (file : ConfigFile) : Except ConfigError Config :=
  match String.fromUTF8? ⟨file.content.toArray⟩ with
  | none => .error .notText
  | some text => (Config.ofToml text).mapError .flawed

/-- The settings in a file, if it can be read. -/
def Config.read : Except Kernel.FileError ConfigFile → Except ConfigError Config
  | .error e => .error (.unreadable e)
  | .ok file => ofFile file

/-- What checking the settings writes to the journal. -/
def Config.entries (config : Config) : List Entry := config.remarks.map (⟨.warn, ·⟩)

end ClockDiscipline
