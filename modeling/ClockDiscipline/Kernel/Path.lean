/-
  ClockDiscipline/Kernel/Path.lean
  ================================
  **Paths as sequences of names.**

  A path is names between slashes.  Empty names and single dots stay where
  they are, two dots go up.  `parent?` takes the last name off; it is decided
  by the text alone.
-/

namespace ClockDiscipline.Kernel.Path

/-- What stands between the slashes, also if it is nothing. -/
def parts (path : String) : List String := (path.toList.splitOn '/').map String.ofList

def isAbsolute (path : String) : Bool := path.toList.head? == some '/'

/-- Whether a part leads somewhere. -/
def isStep (part : String) : Bool := part != "" && part != "."

/-- The parts that lead somewhere. -/
def steps (path : String) : List String := (parts path).filter isStep

/-- The names that a path consists of: its steps, after a leading dot. -/
def names (path : String) : List String :=
  match parts path with
  | "." :: rest => "." :: rest.filter isStep
  | all => all.filter isStep

/-- The path of names. -/
def ofNames (absolute : Bool) (names : List String) : String :=
  (if absolute then "/" else "") ++ "/".intercalate names

/-- The path without its last name, if it has one. -/
def parent? (path : String) : Option String :=
  match names path with
  | [] => none
  | all => some (ofNames (isAbsolute path) all.dropLast)

end ClockDiscipline.Kernel.Path
