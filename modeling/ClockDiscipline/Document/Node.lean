/-
  ClockDiscipline/Document/Node.lean
  ==================================
  **What a configuration document says, whatever it is written in.**

  A document is a tree of plain values, lists and tables.  TOML and JSON
  documents become the same kind of tree; where the rules of reading differ
  between the two, the `Format` says which one it is.
-/
import ClockDiscipline.Json.Value

namespace ClockDiscipline

/-- What a document is written in. -/
inductive Format where
  | json
  | toml
deriving DecidableEq, Repr

/-- A value in a document.  Only JSON has null, only TOML has dates; nothing
    is ever read from a date, so it is not kept which one it is. -/
inductive Node where
  | null
  | bool (value : Bool)
  | integer (value : Int)
  | float (value : Float)
  | string (value : String)
  | date
  | list (elements : List Node)
  | table (entries : List (String × Node))
deriving Inhabited

namespace Node

/-! ### From JSON -/

/-- Put an entry into a table that is ordered by name, unless there is one of
    that name. -/
def insertAbsent (name : String) (node : Node) : List (String × Node) → List (String × Node)
  | [] => [(name, node)]
  | (n, other) :: rest =>
    if n = name then (n, other) :: rest
    else if name < n then (name, node) :: (n, other) :: rest
    else (n, other) :: insertAbsent name node rest

mutual

/-- The document of a JSON value.  Fields are ordered by name, and the last of
    several fields of one name counts. -/
def ofJson : Json → Node
  | .null => .null
  | .bool value => .bool value
  | .integer value => .integer value
  | .float value => .float value
  | .string value => .string value
  | .array elements => .list (ofElements elements)
  | .object fields => .table (ofFields fields)

def ofElements : List Json → List Node
  | [] => []
  | value :: rest => ofJson value :: ofElements rest

def ofFields : List (String × Json) → List (String × Node)
  | [] => []
  | (name, value) :: rest => insertAbsent name (ofJson value) (ofFields rest)

end

end Node

end ClockDiscipline
