/-
  ClockDiscipline/Decimal/Layout.lean
  ===================================
  **How doubles are written in messages, in snapshots and in columns.**

  Messages never use an exponent and drop an empty fraction; snapshots are
  JSON, where an empty fraction is kept and very large or small numbers get
  an exponent.  Both print the shortest digits that denote the number.
-/
import ClockDiscipline.Decimal.Shortest
import ClockDiscipline.Text.Padding

namespace ClockDiscipline.Decimal

/-! ### Layouts -/

/-- The decisions left open once the digits are known. -/
structure Layout where
  choice : Choice
  /-- Positions of the decimal point, relative to the first digit, that are
      written without an exponent; all of them if there is no range. -/
  positional : Option (Int × Int)
  /-- Whether a whole number is followed by `.0`. -/
  emptyFraction : Bool
  nan : String
  infinity : String
  negativeInfinity : String

/-- Numbers inside messages. -/
def Layout.message : Layout where
  choice := .greater
  positional := none
  emptyFraction := false
  nan := "NaN"
  infinity := "inf"
  negativeInfinity := "-inf"

/-- Numbers of a JSON document, which has no word for the infinities. -/
def Layout.document : Layout where
  choice := .evenDigit
  positional := some (-4, 16)
  emptyFraction := true
  nan := "null"
  infinity := "null"
  negativeInfinity := "null"

/-- What follows a whole number. -/
def Layout.wholeEnd (layout : Layout) : String := if layout.emptyFraction then ".0" else ""

def zeros (n : Nat) : String := String.ofList (List.replicate n '0')

/-- Write a decimal without an exponent; `point` is the number of digits in
    front of the point. -/
def Layout.writePositional (layout : Layout) (digits : String) (point : Int) : String :=
  if point ≤ 0 then s!"0.{zeros (-point).toNat}{digits}"
  else if point < digits.length then
    s!"{digits.take point.toNat}.{digits.drop point.toNat}"
  else digits ++ zeros (point - digits.length).toNat ++ layout.wholeEnd

/-- Write a decimal with one digit in front of the point.  Its exponent has a
    sign in either case. -/
def writeExponent (digits : String) (point : Int) : String :=
  let fraction := if digits.length = 1 then "" else s!".{digits.drop 1}"
  let sign := if point < 1 then "" else "+"
  s!"{digits.take 1}{fraction}e{sign}{point - 1}"

/-- Write a nonzero decimal. -/
def Layout.writeDigits (layout : Layout) (d : Decimal) : String :=
  let digits := toString d.digits
  let point := digits.length + d.exponent
  let inRange := match layout.positional with
    | none => true
    | some (least, greatest) => least ≤ point && point ≤ greatest
  if inRange then layout.writePositional digits point else writeExponent digits point

def Layout.write (layout : Layout) (x : Float) : String :=
  match Binary64.ofFloat x with
  | .nan => layout.nan
  | .infinite negative => if negative then layout.negativeInfinity else layout.infinity
  | .finite negative significand exponent =>
    let sign := if negative then "-" else ""
    if significand = 0 then sign ++ "0" ++ layout.wholeEnd
    else sign ++ layout.writeDigits (shortest layout.choice significand exponent)

/-- The text of a number inside a message. -/
def messageText (x : Float) : String := Layout.message.write x

/-- The text of a number in a JSON document. -/
def documentText (x : Float) : String := Layout.document.write x

/-! ### Signed whole numbers -/

/-- The nearest whole number with its sign, a half going to the even
    neighbour.  A number that is not one has no sign. -/
def signedWhole (x : Float) : String :=
  match Binary64.ofFloat x with
  | .nan => "NaN"
  | .infinite negative => if negative then "-inf" else "+inf"
  | .finite negative significand exponent =>
    (if negative then "-" else "+") ++ toString (Binary64.nearestWhole .toEven significand exponent)

end ClockDiscipline.Decimal
