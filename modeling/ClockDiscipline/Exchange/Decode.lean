/-
  ClockDiscipline/Exchange/Decode.lean
  ====================================
  **Taking values out of JSON.**

  Times have to fit their type; of shorter words only the low bits are kept.
  A double is given by its bits, as sixteen hexadecimal digits, or by the word
  `nan`.  A field that is null counts as absent.
-/
import ClockDiscipline.Clock.Registry
import ClockDiscipline.Json.Reader

namespace ClockDiscipline

/-- A value, or what is wrong with the JSON. -/
abbrev Decode := Except String

namespace Json

variable {α : Type}

/-! ### Fields -/

/-- A field that is there and not null. -/
def present? (j : Json) (name : String) : Option Json :=
  match j.field? name with
  | some .null => none
  | other => other

def get (j : Json) (name : String) (f : Json → Decode α) : Decode α :=
  match j.present? name with
  | some v => f v
  | none => .error s!"missing {name}"

def getD (j : Json) (name : String) (f : Json → Decode α) (d : α) : Decode α :=
  match j.present? name with
  | some v => f v
  | none => .ok d

def get? (j : Json) (name : String) (f : Json → Decode α) : Decode (Option α) :=
  match j.present? name with
  | some v => some <$> f v
  | none => .ok none

/-! ### Plain values -/

def asInt : Json → Decode Int
  | .integer n => .ok n
  | _ => .error "expected an integer"

/-- An integer from `least` up to, but not including, `bound`. -/
def asBounded (least bound : Int) (j : Json) : Decode Int := do
  let n ← j.asInt
  if least ≤ n ∧ n < bound then return n else .error "integer out of range"

def asNat (j : Json) : Decode Nat := Int.toNat <$> j.asBounded 0 0x10000000000000000

def asInt64 (j : Json) : Decode Int64 :=
  Int64.ofInt <$> j.asBounded (-0x8000000000000000) 0x8000000000000000

def asInt32 (j : Json) : Decode Int32 := Int32.ofInt <$> j.asInt

def asWord64 (j : Json) : Decode UInt64 :=
  (fun n => UInt64.ofNat n.toNat) <$> j.asBounded 0 0x10000000000000000

def asWord32 (j : Json) : Decode UInt32 := UInt32.ofInt <$> j.asInt

def asWord16 (j : Json) : Decode UInt16 := UInt16.ofInt <$> j.asInt

def asWord8 (j : Json) : Decode UInt8 := UInt8.ofInt <$> j.asInt

def asBool : Json → Decode Bool
  | .bool b => .ok b
  | _ => .error "expected a boolean"

def asText : Json → Decode String
  | .string s => .ok s
  | _ => .error "expected a string"

def asList (f : Json → Decode α) : Json → Decode (List α)
  | .array xs => xs.mapM f
  | _ => .error "expected a list"

/-- The fields of an object with their names. -/
def asPairs (f : Json → Decode α) : Json → Decode (List (String × α))
  | .object fields => fields.mapM fun (name, v) => do return (name, ← f v)
  | _ => .error "expected an object"

/-- Null, or a value. -/
def asNullable (f : Json → Decode α) : Json → Decode (Option α)
  | .null => .ok none
  | j => some <$> f j

/-- The value that a name stands for. -/
def asNamed (f : String → Option α) (j : Json) : Decode α := do
  match f (← j.asText) with
  | some a => return a
  | none => .error "unknown name"

/-! ### Digits -/

def hexNat (digits : List Char) : Decode Nat :=
  digits.foldlM (fun n c => match hexValue? c with
    | some d => .ok (16 * n + d)
    | none => .error "expected hexadecimal digits") 0

/-- Bytes of two hexadecimal digits each. -/
def hexBytes : List Char → Decode (List UInt8)
  | [] => .ok []
  | [_] => .error "expected hexadecimal digits"
  | a :: b :: rest => do
    let byte ← hexNat [a, b]
    return UInt8.ofNat byte :: (← hexBytes rest)

def asBytes (j : Json) : Decode (List UInt8) := do
  hexBytes (← j.asText).toList

def asFloat (j : Json) : Decode Float := do
  let s ← j.asText
  if s == "nan" then return 0.0 / 0.0
  else if s.length = 16 then return Float.ofBits (UInt64.ofNat (← hexNat s.toList))
  else .error "expected 16 hexadecimal digits"

/-! ### Values of the domain -/

def asInstant (j : Json) : Decode Instant := Instant.ofNanos <$> j.asInt64

def asDuration (j : Json) : Decode Duration := Duration.ofNanos <$> j.asInt64

def asClockId (j : Json) : Decode ClockId := ClockId.mk <$> j.asNat

def asPortState : Json → Decode PortState := asNamed PortState.ofName?

def asGains (j : Json) : Decode PiGains := do
  let d : PiGains := {}
  return { kp := ← j.getD "kp" asFloat d.kp, ki := ← j.getD "ki" asFloat d.ki }

def asThresholds (j : Json) : Decode LockThresholds := do
  let d : LockThresholds := {}
  return {
    firstStep := ← j.getD "first_step_threshold" asInt64 d.firstStep
    step := ← j.getD "step_threshold" asInt64 d.step
    stableOffset := ← j.getD "stable_offset_threshold" asInt64 d.stableOffset
    stableCount := ← j.getD "stable_sample_count" asWord32 d.stableCount }

end Json

end ClockDiscipline
