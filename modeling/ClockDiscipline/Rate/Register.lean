/-
  ClockDiscipline/Rate/Register.lean
  ==================================
  **The rate of a hardware clock as a 32 bit fixed-point register.**

  The register holds one integer bit and 31 fraction bits, so it covers the
  rates from zero up to, but not including, two.  The fraction is read off
  the fraction bits of a double in `[1, 2)`; rates below one are moved there
  by adding one first.
-/
import ClockDiscipline.Decimal.Layout

namespace ClockDiscipline

/-- Why a clock can not be given a rate or a correction. -/
inductive RangeError where
  /-- The rate is not strictly between zero and two. -/
  | ratio (value : Float)
  /-- The clock is ahead, and time can only be added to it. -/
  | offset (nanos : Int)

def RangeError.message : RangeError → String
  | .ratio value => s!"ratio {Decimal.messageText value} exceeds register range"
  | .offset nanos => s!"offset of {nanos}ns can not be corrected by adding time"

/-- The word of a rate register. -/
structure RateRegister where
  bits : UInt32
deriving DecidableEq, Repr

namespace RateRegister

/-- The integer bit. -/
def integerBit : UInt32 := 0x80000000

/-- A clock running at its own speed. -/
def nominal : RateRegister := ⟨integerBit⟩

/-- The top 31 fraction bits of a double. -/
def fractionBits (x : Float) : UInt32 := ((x.toBits >>> 21) &&& 0x7fffffff).toUInt32

/-- The word for a rate; fraction bits beyond the register are dropped.  A
    value that is not a number fails both comparisons and is refused. -/
def encode (ratio : Float) : Except RangeError RateRegister :=
  if 0 < ratio ∧ ratio < 2 then
    if ratio < 1 then .ok ⟨fractionBits (ratio + 1)⟩
    else .ok ⟨fractionBits ratio ||| integerBit⟩
  else .error (.ratio ratio)

/-- The rate a word stands for, exactly. -/
def decode (r : RateRegister) : Float := Float.ofNat r.bits.toNat / 2147483648

end RateRegister

end ClockDiscipline
