/-
  ClockDiscipline/Document/Record.lean
  ====================================
  **Reading records, lists and names from a document.**

  A record is described by its fields in order.  It is read from a table, in
  the order of the table's entries, or from a list of values for its first
  fields.  Reading stops at the first flaw.
-/
import ClockDiscipline.Document.Node

namespace ClockDiscipline

/-- What is wrong with a document. -/
inductive Flaw where
  | unknownField
  | missingField
  | invalidType
  /-- A number is out of range. -/
  | invalidValue
  | unknownVariant
  | invalidLength
  | other
deriving DecidableEq, Repr

def Flaw.text : Flaw → String
  | .unknownField => "unknown field"
  | .missingField => "missing field"
  | .invalidType => "invalid type"
  | .invalidValue => "invalid value"
  | .unknownVariant => "unknown variant"
  | .invalidLength => "invalid length"
  | .other => "other"

/-- How a value is read from a node. -/
abbrev NodeReader (α : Type) := Format → Node → Except Flaw α

namespace NodeReader

variable {α : Type}

/-! ### Plain values -/

def bool : NodeReader Bool
  | _, .bool value => .ok value
  | _, _ => .error .invalidType

def text : NodeReader String
  | _, .string value => .ok value
  | _, _ => .error .invalidType

/-- An integer may stand for a number with a fraction. -/
def float : NodeReader Float
  | _, .float value => .ok value
  | _, .integer value => .ok (Float.ofInt value)
  | _, _ => .error .invalidType

/-- An integer from `least` up to, but not including, `bound`. -/
def integer (least bound : Int) : NodeReader Int
  | _, .integer value =>
    if least ≤ value ∧ value < bound then .ok value else .error .invalidValue
  | _, _ => .error .invalidType

def int64 : NodeReader Int64 := fun format node =>
  Int64.ofInt <$> integer (-0x8000000000000000) 0x8000000000000000 format node

def word64 : NodeReader UInt64 := fun format node =>
  (fun n => UInt64.ofNat n.toNat) <$> integer 0 0x10000000000000000 format node

def word32 : NodeReader UInt32 := fun format node =>
  (fun n => UInt32.ofNat n.toNat) <$> integer 0 0x100000000 format node

def positiveWord32 : NodeReader UInt32 := fun format node =>
  (fun n => UInt32.ofNat n.toNat) <$> integer 1 0x100000000 format node

def word16 : NodeReader UInt16 := fun format node =>
  (fun n => UInt16.ofNat n.toNat) <$> integer 0 0x10000 format node

/-! ### Names -/

/-- Whether nothing is said by the value that belongs to a name. -/
def isVoid : Format → Node → Bool
  | .json, .null => true
  | .toml, .list [] => true
  | .toml, .table [] => true
  | _, _ => false

/-- What a name stands for.  In place of the name there may be a table with
    one entry of that name, the value of which says nothing. -/
def named (ofName? : String → Option α) : NodeReader α
  | _, .string name =>
    match ofName? name with
    | some a => .ok a
    | none => .error .unknownVariant
  | format, .table [(name, content)] =>
    match ofName? name with
    | none => .error .unknownVariant
    | some a =>
      if isVoid format content then .ok a
      else .error (match format with | .json => .invalidType | .toml => .other)
  | .json, .table _ => .error .invalidValue
  | .json, _ => .error .invalidType
  | .toml, _ => .error .other

/-! ### Lists and absent values -/

def list (reader : NodeReader α) : NodeReader (List α)
  | format, .list elements => elements.mapM (reader format)
  | _, _ => .error .invalidType

def optional (reader : NodeReader α) : NodeReader (Option α)
  | _, .null => .ok none
  | format, node => some <$> reader format node

end NodeReader

/-! ### Records -/

/-- A field of a record `α`, and what its value does to the record. -/
structure Field (α : Type) where
  name : String
  required : Bool
  read : Format → Node → α → Except Flaw α

namespace Field

variable {α β : Type}

/-- A field that may be left out. -/
def optional (name : String) (reader : NodeReader β) (set : β → α → α) : Field α :=
  ⟨name, false, fun format node a => (fun b => set b a) <$> reader format node⟩

/-- A field that has to be there. -/
def mandatory (name : String) (reader : NodeReader β) (set : β → α → α) : Field α :=
  { optional name reader set with required := true }

end Field

namespace NodeReader

variable {α : Type}

/-- Read the entries of a table in their order. -/
def entries (format : Format) (fields : List (Field α)) :
    List (String × Node) → α → Except Flaw α
  | [], a => .ok a
  | (name, node) :: rest, a =>
    match fields.find? (·.name == name) with
    | none => .error .unknownField
    | some field => do entries format fields rest (← field.read format node a)

/-- Whether an entry is missing that has to be there. -/
def lacksField (fields : List (Field α)) (entries : List (String × Node)) : Bool :=
  fields.any fun field => field.required && !(entries.any fun (name, _) => name == field.name)

def table (format : Format) (fields : List (Field α)) (nodes : List (String × Node)) (start : α) :
    Except Flaw α := do
  let a ← entries format fields nodes start
  if lacksField fields nodes then .error .missingField else return a

/-- Read the values of fields in the order of the fields.  What is left over
    in a JSON document is an error. -/
def positions (format : Format) : List (Field α) → List Node → α → Except Flaw α
  | [], [], a => .ok a
  | [], _ :: _, a =>
    match format with
    | .json => .error .invalidLength
    | .toml => .ok a
  | field :: fields, [], a =>
    if (field :: fields).any (·.required) then .error .invalidLength else .ok a
  | field :: fields, node :: nodes, a => do
    positions format fields nodes (← field.read format node a)

/-- Read a record, starting from its default.  A date is a table with a field
    that no record has. -/
def record (fields : List (Field α)) (start : α) : NodeReader α
  | format, .table nodes => table format fields nodes start
  | format, .list nodes => positions format fields nodes start
  | _, .date => .error .unknownField
  | _, _ => .error .invalidType

end NodeReader

end ClockDiscipline
