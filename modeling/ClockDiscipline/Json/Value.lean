/-
  ClockDiscipline/Json/Value.lean
  ===============================
  **JSON values and their compact text.**
-/
import ClockDiscipline.Decimal.Layout

namespace ClockDiscipline

/-- A JSON value.  A number without fraction and exponent is an integer as
    long as it fits a 64 bit word. -/
inductive Json where
  | null
  | bool (value : Bool)
  | integer (value : Int)
  | float (value : Float)
  | string (value : String)
  | array (elements : List Json)
  | object (fields : List (String × Json))
deriving Inhabited

namespace Json

/-! ### Text -/

/-- How a character is written inside a string. -/
def escaped (c : Char) : String :=
  if c = '"' then "\\\""
  else if c = '\\' then "\\\\"
  else if c = '\n' then "\\n"
  else if c = '\r' then "\\r"
  else if c = '\t' then "\\t"
  else if c.toNat = 8 then "\\b"
  else if c.toNat = 12 then "\\f"
  else if c.toNat < 32 then s!"\\u{Text.hexPadded 4 c.toNat}"
  else String.singleton c

def quoted (s : String) : String := "\"" ++ String.join (s.toList.map escaped) ++ "\""

mutual

/-- The compact text of a value. -/
def text : Json → String
  | .null => "null"
  | .bool value => if value then "true" else "false"
  | .integer value => toString value
  | .float value => Decimal.documentText value
  | .string value => quoted value
  | .array elements => "[" ++ ",".intercalate (elementTexts elements) ++ "]"
  | .object fields => "\x7b" ++ ",".intercalate (fieldTexts fields) ++ "\x7d"

def elementTexts : List Json → List String
  | [] => []
  | value :: rest => value.text :: elementTexts rest

def fieldTexts : List (String × Json) → List String
  | [] => []
  | (name, value) :: rest => (quoted name ++ ":" ++ value.text) :: fieldTexts rest

end

/-! ### Access -/

/-- The value of a field; the last one counts if there are several. -/
def field? (name : String) : Json → Option Json
  | .object fields => (fields.reverse.find? fun (n, _) => n == name).map (·.2)
  | _ => none

end Json

end ClockDiscipline
