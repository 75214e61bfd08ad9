/-
  ClockDiscipline/Json/Error.lean
  ===============================
  **What is wrong with a JSON text, and where.**

  A text may not be JSON, may end too early, or may be JSON of the wrong kind.
  An error is told with the place at which it was noticed: the number of the
  line, and the number of bytes in front of the place on this line.
-/
import ClockDiscipline.Decimal.Layout
import ClockDiscipline.Text.Quoted

namespace ClockDiscipline.Json

/-! ### Values of the wrong kind -/

/-- What was found in place of the value that was asked for. -/
inductive Found where
  | null
  | bool (value : Bool)
  | integer (value : Int)
  | float (value : Float)
  | string (value : String)
  | list
  | object

def Found.text : Found → String
  | .null => "null"
  | .bool value => s!"boolean `{value}`"
  | .integer value => s!"integer `{value}`"
  | .float value => s!"floating point `{Decimal.documentText value}`"
  | .string value => s!"string {Text.quoted value}"
  | .list => "sequence"
  | .object => "map"

/-- How names to choose from are listed. -/
def choiceText (names : List String) : String :=
  match names.map fun name => s!"`{name}`" with
  | [] => "nothing"
  | [a] => a
  | [a, b] => s!"{a} or {b}"
  | all => "one of " ++ ", ".intercalate all

/-- Why a value is not what was asked for. -/
inductive Mismatch where
  /-- It is of another kind. -/
  | kind (found : Found) (expected : String)
  /-- It is out of range. -/
  | range (found : Found) (expected : String)
  /-- It has too few elements. -/
  | length (found : Nat) (expected : String)
  | unknownField (name : String) (fields : List String)
  | repeatedField (name : String)
  | missingField (name : String)
  /-- It has no meaning. -/
  | meaningless (text : String)

def Mismatch.text : Mismatch → String
  | .kind found expected => s!"invalid type: {found.text}, expected {expected}"
  | .range found expected => s!"invalid value: {found.text}, expected {expected}"
  | .length found expected => s!"invalid length {found}, expected {expected}"
  | .unknownField name fields => s!"unknown field `{name}`, expected {choiceText fields}"
  | .repeatedField name => s!"duplicate field `{name}`"
  | .missingField name => s!"missing field `{name}`"
  | .meaningless text => text

/-! ### Causes -/

/-- What is wrong with a text. -/
inductive Cause where
  /-- The text ends inside of a list. -/
  | openList
  | openObject
  | openString
  /-- The text ends where a value should be. -/
  | openValue
  | noColon
  | noListSeparator
  | noObjectSeparator
  | unknownWord
  | noValue
  | unknownEscape
  | badNumber
  | hugeNumber
  | controlCharacter
  | keyNotString
  /-- Half of a pair of escapes stands alone. -/
  | loneHalf
  /-- The second half of a pair of escapes is missing. -/
  | missingHalf
  | trailingComma
  | trailingCharacters
  | nestedTooDeeply
  | mismatch (mismatch : Mismatch)

/-- What is wrong with a text on the whole. -/
inductive ErrorKind where
  /-- It is not JSON. -/
  | malformed
  /-- It ends too early. -/
  | truncated
  /-- It is not the value that was asked for. -/
  | unsuitable
deriving DecidableEq, Repr

namespace Cause

def kind : Cause → ErrorKind
  | .openList | .openObject | .openString | .openValue => .truncated
  | .mismatch _ => .unsuitable
  | _ => .malformed

def text : Cause → String
  | .openList => "EOF while parsing a list"
  | .openObject => "EOF while parsing an object"
  | .openString => "EOF while parsing a string"
  | .openValue => "EOF while parsing a value"
  | .noColon => "expected `:`"
  | .noListSeparator => "expected `,` or `]`"
  | .noObjectSeparator => "expected `,` or `\x7d`"
  | .unknownWord => "expected ident"
  | .noValue => "expected value"
  | .unknownEscape => "invalid escape"
  | .badNumber => "invalid number"
  | .hugeNumber => "number out of range"
  | .controlCharacter => "control character (\\u0000-\\u001F) found while parsing a string"
  | .keyNotString => "key must be a string"
  | .loneHalf => "lone leading surrogate in hex escape"
  | .missingHalf => "unexpected end of hex escape"
  | .trailingComma => "trailing comma"
  | .trailingCharacters => "trailing characters"
  | .nestedTooDeeply => "recursion limit exceeded"
  | .mismatch m => m.text

end Cause

/-! ### Errors -/

/-- A cause, and the rest of the text near the place at which it was noticed:
    so many bytes after the beginning of the rest. -/
structure ReadError where
  cause : Cause
  rest : List Char
  ahead : Nat := 0

/-- A place in a text. -/
structure Position where
  line : Nat
  column : Nat
deriving DecidableEq, Repr

/-- The place after so many bytes of a text. -/
def Position.after (bytes : List UInt8) (count : Nat) : Position :=
  let passed := bytes.take count
  ⟨1 + passed.count 10, (passed.reverse.takeWhile (· != 10)).length⟩

namespace ReadError

/-- An error at the beginning of the rest. -/
def here (cause : Cause) (rest : List Char) : ReadError := ⟨cause, rest, 0⟩

/-- An error that is noticed by the next byte, if there is one. -/
def next (cause : Cause) (rest : List Char) : ReadError :=
  ⟨cause, rest, if rest.isEmpty then 0 else 1⟩

def kind (e : ReadError) : ErrorKind := e.cause.kind

/-- Where the error was noticed in the text. -/
def position (e : ReadError) (text : String) : Position :=
  .after text.toUTF8.data.toList
    (text.utf8ByteSize - (e.rest.map Char.utf8Size).foldl (· + ·) 0 + e.ahead)

def message (e : ReadError) (text : String) : String :=
  let p := e.position text
  s!"{e.cause.text} at line {p.line} column {p.column}"

end ReadError

end ClockDiscipline.Json
