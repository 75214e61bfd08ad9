/-
  ClockDiscipline/Decimal/Shortest.lean
  =====================================
  **The fewest decimal digits that still denote a given double.**

  Every real number nearer to a double than to its neighbours is read back as
  that double, and so are the two midpoints if its significand is even.  For
  one digit, two digits and so on, `shortest` looks at the two points of the
  decimal grid around the value; the first grid with a point that reads back
  wins, and of two such points the nearer one.
-/
import ClockDiscipline.Decimal.Binary64

namespace ClockDiscipline

/-- The number `digits * 10 ^ exponent`. -/
structure Decimal where
  digits : Nat
  exponent : Int
deriving DecidableEq, Repr

namespace Decimal

/-! ### Digits -/

/-- The number of decimal digits of `n`, none for zero. -/
def length (n : Nat) : Nat := if n = 0 then 0 else (Nat.toDigits 10 n).length

/-- The position of the decimal point in front of the first digit of
    `num / den`: the least `p` with `num / den < 10 ^ p`. -/
def pointPosition (num den : Nat) : Int :=
  if den ≤ num then length (num / den) else 1 - length ((den - 1) / num)

/-- Move trailing zeros of up to `fuel` digits into the exponent. -/
def strip : Nat → Nat → Int → Decimal
  | 0, digits, exponent => ⟨digits, exponent⟩
  | fuel + 1, digits, exponent =>
    if digits % 10 = 0 ∧ digits ≠ 0 then strip fuel (digits / 10) (exponent + 1)
    else ⟨digits, exponent⟩

/-! ### The interval of a double -/

/-- The reals that are read back as a double, over one denominator. -/
structure Interval where
  lower : Nat
  value : Nat
  upper : Nat
  den : Nat
  closed : Bool

/-- The interval of `significand * 2 ^ exponent`.  Below a power of two the
    neighbour is only half as far away. -/
def Interval.of (significand : Nat) (exponent : Int) : Interval :=
  let scale := Nat.pow 2 (exponent - 2).toNat
  let step := if significand = 0x10000000000000 ∧ -1074 < exponent then 1 else 2
  { lower := (4 * significand - step) * scale
    value := 4 * significand * scale
    upper := (4 * significand + 2) * scale
    den := Nat.pow 2 (2 - exponent).toNat
    closed := significand % 2 = 0 }

/-- Whether `num / den` is read back as the double, for a numerator over the
    interval's denominator times `scale`. -/
def Interval.has (i : Interval) (scale num : Nat) : Bool :=
  if i.closed then i.lower * scale ≤ num && num ≤ i.upper * scale
  else i.lower * scale < num && num < i.upper * scale

/-! ### The shortest decimal -/

/-- How to choose between two shortest decimals that are equally near. -/
inductive Choice where
  | greater
  | evenDigit
deriving DecidableEq, Repr

/-- The nearest number with `count` digits that is read back, if any is;
    `point` is the position of the value's decimal point. -/
def candidate (choice : Choice) (i : Interval) (point : Int) (count : Nat) : Option Decimal :=
  let exponent := point - count
  let unit := Nat.pow 10 exponent.toNat * i.den
  let scale := Nat.pow 10 (-exponent).toNat
  let below := i.value * scale / unit
  let above := below + 1
  let down := i.value * scale - below * unit
  let up := above * unit - i.value * scale
  match i.has scale (below * unit), i.has scale (above * unit) with
  | false, false => none
  | true, false => some ⟨below, exponent⟩
  | false, true => some ⟨above, exponent⟩
  | true, true =>
    if down < up then some ⟨below, exponent⟩
    else if up < down then some ⟨above, exponent⟩
    else match choice with
      | .greater => some ⟨above, exponent⟩
      | .evenDigit => some ⟨below + below % 2, exponent⟩

/-- The shortest decimal of the nonzero double `significand * 2 ^ exponent`.
    Seventeen digits always suffice. -/
def shortest (choice : Choice) (significand : Nat) (exponent : Int) : Decimal :=
  let i := Interval.of significand exponent
  let point := pointPosition i.value i.den
  match (List.range' 1 17).findSome? (candidate choice i point) with
  | some d => strip 17 d.digits d.exponent
  | none => ⟨0, 0⟩

end Decimal

end ClockDiscipline
