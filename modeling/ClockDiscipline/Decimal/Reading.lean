/-
  ClockDiscipline/Decimal/Reading.lean
  ====================================
  **The double nearest to a written decimal.**
-/

namespace ClockDiscipline.Decimal

/-- The digits of `cs` as a number, after those of `n`. -/
def digitsValue (n : Nat) (cs : List Char) : Nat :=
  cs.foldl (fun n c => 10 * n + (c.toNat - '0'.toNat)) n

/-- The double nearest to `digits * 10 ^ exponent`.  Numbers that are beyond
    all doubles, or below half of the least one, are decided by their size, so
    that no power of ten is taken for them. -/
def toFloat (negative : Bool) (digits : Nat) (exponent : Int) : Float :=
  let size := (Nat.toDigits 10 digits).length + exponent
  let magnitude :=
    if digits = 0 ∨ size < -330 then (0 : Float)
    else if 310 < size then 1 / 0
    else if exponent < 0 then Float.ofScientific digits true (-exponent).toNat
    else Float.ofScientific digits false exponent.toNat
  if negative then -magnitude else magnitude

end ClockDiscipline.Decimal
