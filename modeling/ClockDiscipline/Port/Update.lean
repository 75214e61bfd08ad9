/-
  ClockDiscipline/Port/Update.lean
  ================================
  **Reports of port states.**

  A report is one JSON object with a port and a state, or a list of the two.
  It is read from left to right and refused at the first thing that is wrong.
-/
import ClockDiscipline.Json.Reader
import ClockDiscipline.Port.State

namespace ClockDiscipline

/-- A port and the state it is said to be in. -/
structure PortUpdate where
  port : UInt16
  state : PortState
deriving DecidableEq, Repr

namespace PortUpdate

open Json

/-! ### Values of another kind -/

/-- A value of another kind than the one asked for.  Lists and objects are not
    looked into; anything else has at least to be JSON. -/
def found (cs : List Char) : Except ReadError (Taken Found) := do
  match cs with
  | [] => .error (.here .openValue [])
  | c :: rest =>
    if c = 'n' then return (.null, ← expectWord "ull".toList rest)
    else if c = 't' then return (.bool true, ← expectWord "rue".toList rest)
    else if c = 'f' then return (.bool false, ← expectWord "alse".toList rest)
    else if c = '-' ∨ isDigit c then
      let (number, rest) ← if c = '-' then readNumber true rest else readNumber false cs
      let value : Found := match number with
        | .integer n => .integer n
        | .float x => .float x
        | _ => .null
      return (value, rest)
    else if c = '"' then
      let (text, rest) ← readString rest
      return (.string text, rest)
    else if c = '[' then return (.list, cs)
    else if c = '\x7b' then return (.object, cs)
    else .error (.next .noValue cs)

/-- The error about a value of another kind. -/
def mismatch (expected : String) (cs : List Char) : ReadError :=
  match found cs with
  | .error e => e
  | .ok (what, rest) => .here (.mismatch (.kind what expected)) rest

/-! ### Ports and states -/

/-- What a port is called in messages. -/
def portKind : String := "u16"

def readPort (cs : List Char) : Except ReadError (Taken UInt16) := do
  let cs := skipBlanks cs
  match ← found cs with
  | (.integer n, rest) =>
    if 0 ≤ n ∧ n < 0x10000 then return (UInt16.ofNat n.toNat, rest)
    else .error (.here (.mismatch (.range (.integer n) portKind)) rest)
  | _ => .error (mismatch portKind cs)

/-- A state is given by its number or its name.  In place of the name there
    may be an object whose only field has this name and is null. -/
def stateOfJson : Json → Option PortState
  | .integer n => if n < 0 then none else PortState.ofNumber? n.toNat
  | .string name => PortState.ofName? name
  | .object [(name, .null)] => PortState.ofName? name
  | _ => none

/-- Inside of a report one list or object less may be entered. -/
def stateDepth : Nat := depthLimit - 1

/-- Why a value is no state. -/
def stateMismatch : Json → Mismatch
  | .integer n =>
    if 0 ≤ n ∧ n < 256 then .meaningless s!"unknown port state {n}" else noState
  | _ => noState
where
  noState : Mismatch :=
    .meaningless "data did not match any variant of untagged enum RawPortState"

/-- Read a state; an error about its meaning is told where `leave` leads. -/
def readState (leave : List Char → List Char) (cs : List Char) :
    Except ReadError (Taken PortState) := do
  let (value, rest) ← readValue (fuelFor cs) stateDepth cs
  match stateOfJson value with
  | some state => return (state, rest)
  | none => .error (.here (.mismatch (stateMismatch value)) (leave rest))

/-! ### Reports -/

/-- What a report is called in messages. -/
def reportKind : String := "struct PortStateUpdate"

def fieldNames : List String := ["port", "state"]

/-- Where an error about an object is told: after it, if it could end here. -/
def leaveFields (cs : List Char) : List Char :=
  match skipBlanks cs with
  | '\x7d' :: rest => rest
  | rest => rest

/-- Where an error about a list is told: after it, or its next comma, if they
    could be here. -/
def leaveElements (cs : List Char) : List Char :=
  match skipBlanks cs with
  | ']' :: rest => rest
  | ',' :: rest => skipBlanks rest
  | rest => rest

/-- What is known of a report while its fields are read. -/
structure Partial where
  port : Option UInt16 := none
  state : Option PortState := none

/-- Both fields have to be there. -/
def Partial.complete (p : Partial) : Except Mismatch PortUpdate :=
  match p.port, p.state with
  | some port, some state => .ok ⟨port, state⟩
  | none, _ => .error (.missingField "port")
  | _, none => .error (.missingField "state")

/-- Read the value of a field.  No field may occur twice. -/
def readField (p : Partial) (name : String) (cs : List Char) :
    Except ReadError (Taken Partial) := do
  let refuse (m : Mismatch) : Except ReadError (Taken Partial) :=
    .error (.here (.mismatch m) (leaveFields cs))
  if name == "port" then
    if p.port.isSome then refuse (.repeatedField name)
    else
      let (port, rest) ← readPort (← readColon cs)
      return ({ p with port := some port }, rest)
  else if name == "state" then
    if p.state.isSome then refuse (.repeatedField name)
    else
      let (state, rest) ← readState leaveFields (← readColon cs)
      return ({ p with state := some state }, rest)
  else refuse (.unknownField name fieldNames)

/-- The fields of an object.  Each step reads at least one field. -/
def readUpdateFields : Nat → Bool → Partial → List Char → Except ReadError (Taken PortUpdate)
  | 0, _, _, cs => .error (.here .openObject cs)
  | fuel + 1, isFirst, p, cs => do
    let (name?, rest) ← nextField isFirst cs
    match name? with
    | none =>
      match p.complete with
      | .ok update => return (update, rest)
      | .error m => .error (.here (.mismatch m) (leaveFields rest))
    | some name =>
      let (p, rest) ← readField p name rest
      readUpdateFields fuel false p rest

/-- A list ends after too few elements. -/
def tooShort (found : Nat) (cs : List Char) : ReadError :=
  .here (.mismatch (.length found s!"{reportKind} with {fieldNames.length} elements"))
    (leaveElements cs)

/-- The elements of a list: the port and the state. -/
def readUpdateElements (cs : List Char) : Except ReadError (Taken PortUpdate) := do
  let (more, rest) ← nextElement true cs
  if !more then .error (tooShort 0 rest)
  else
    let (port, rest) ← readPort rest
    let (more, rest) ← nextElement false rest
    if !more then .error (tooShort 1 rest)
    else
      let (state, rest) ← readState leaveElements rest
      return (⟨port, state⟩, rest)

def readUpdate (cs : List Char) : Except ReadError (Taken PortUpdate) := do
  match skipBlanks cs with
  | '\x7b' :: rest =>
    let (update, rest) ← readUpdateFields (rest.length + 1) true {} rest
    return (update, ← leaveObject rest)
  | '[' :: rest =>
    let (update, rest) ← readUpdateElements rest
    return (update, ← leaveArray rest)
  | cs => .error (mismatch reportKind cs)

/-- The report a line consists of. -/
def ofLine (line : String) : Except ReadError PortUpdate := do
  let (update, rest) ← readUpdate line.toList
  readEnd rest
  return update

end PortUpdate

end ClockDiscipline
