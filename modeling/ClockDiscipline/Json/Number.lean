/-
  ClockDiscipline/Json/Number.lean
  ================================
  **The double of a number in a JSON text.**

  Of the digits only those count which a 64 bit word holds together; the
  double of that word is then multiplied or divided by the power of ten.  That
  is not always the nearest double, and of the numbers close to the greatest
  double it makes some too large.  `takeDigits_spec` says that the digits
  taken off are the first ones, and that the word holds them.
-/
import ClockDiscipline.Decimal.Reading

namespace ClockDiscipline.Json

/-! ### Digits that fit -/

/-- One more than the greatest 64 bit word. -/
def wordBound : Nat := 0x10000000000000000

/-- Append digits to a number as long as it stays below a bound; the digits
    from the first that does not fit are left over. -/
def takeDigits (bound : Nat) : Nat → List Char → Nat × List Char
  | n, [] => (n, [])
  | n, c :: cs =>
    let next := Decimal.digitsValue n [c]
    if next < bound then takeDigits bound next cs else (n, c :: cs)

theorem takeDigits_spec {bound n : Nat} (cs : List Char) (h : n < bound) :
    (takeDigits bound n cs).1 < bound ∧
      ∃ kept, cs = kept ++ (takeDigits bound n cs).2 ∧
        (takeDigits bound n cs).1 = Decimal.digitsValue n kept := by
  induction cs generalizing n with
  | nil => exact ⟨h, [], rfl, rfl⟩
  | cons c cs ih =>
    simp only [takeDigits]
    split
    · next fits =>
      obtain ⟨below, kept, split_eq, value_eq⟩ := ih fits
      exact ⟨below, c :: kept, by rw [List.cons_append, ← split_eq], value_eq⟩
    · exact ⟨h, [], rfl, rfl⟩

/-! ### Powers of ten -/

/-- The greatest power of ten that is a double. -/
def greatestPower : Nat := 308

def powerOfTen (n : Nat) : Float := Decimal.toFloat false 1 n

/-- The double times a power of ten, unless the result is infinite.  Numbers
    that are divided by more than the greatest power go down in several
    steps, and no further than zero. -/
def scaled? (x : Float) (exponent : Int) : Option Float :=
  if exponent.natAbs ≤ greatestPower then
    if 0 ≤ exponent then
      let product := x * powerOfTen exponent.natAbs
      if product.isInf then none else some product
    else some (x / powerOfTen exponent.natAbs)
  else if x == 0 then some x
  else if 0 ≤ exponent then none
  else scaled? (x / powerOfTen greatestPower) (exponent + greatestPower)
termination_by (-exponent).toNat
decreasing_by
  simp only [greatestPower] at *
  omega

/-- The double of a number with a sign, if it is finite. -/
def double? (negative : Bool) (significand : Nat) (exponent : Int) : Option Float :=
  (scaled? (Float.ofNat significand) exponent).map fun x => if negative then -x else x

end ClockDiscipline.Json
