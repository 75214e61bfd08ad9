/-
  ClockDiscipline/Decimal/Binary64.lean
  =====================================
  **The number a double stands for.**

  A finite double is `significand * 2 ^ exponent` with a sign.  Everything
  that is written about doubles is decided on these three, in exact integer
  arithmetic.
-/

namespace ClockDiscipline

/-- A double taken apart. -/
inductive Binary64 where
  | nan
  | infinite (negative : Bool)
  | finite (negative : Bool) (significand : Nat) (exponent : Int)
deriving DecidableEq, Repr

namespace Binary64

/-- Take apart the sign, eleven exponent bits and 52 fraction bits of a word.
    The lowest binade has no hidden bit. -/
def ofBits (w : UInt64) : Binary64 :=
  let negative := decide (0x8000000000000000 ≤ w.toNat)
  let biased : Nat := w.toNat / 0x10000000000000 % 2048
  let fraction := w.toNat % 0x10000000000000
  if biased = 2047 then
    if fraction = 0 then .infinite negative else .nan
  else if biased = 0 then .finite negative fraction (-1074)
  else .finite negative (0x10000000000000 + fraction) ((biased : Int) - 1075)

def ofFloat (x : Float) : Binary64 := ofBits x.toBits

/-! ### Rounding to whole numbers -/

/-- Which way a number goes that lies exactly between two neighbours. -/
inductive Tie where
  | toEven
  | away
deriving DecidableEq, Repr

/-- The natural number nearest to `num / den`. -/
def nearest (tie : Tie) (num den : Nat) : Nat :=
  let q := num / den
  let twice := 2 * (num % den)
  if twice < den then q
  else if den < twice then q + 1
  else match tie with
    | .away => q + 1
    | .toEven => q + q % 2

/-- The natural number nearest to `significand * 2 ^ exponent`. -/
def nearestWhole (tie : Tie) (significand : Nat) (exponent : Int) : Nat :=
  nearest tie (significand * Nat.pow 2 exponent.toNat) (Nat.pow 2 (-exponent).toNat)

end Binary64

end ClockDiscipline
