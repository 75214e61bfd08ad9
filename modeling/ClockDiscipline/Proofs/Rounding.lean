/-
  ClockDiscipline/Proofs/Rounding.lean
  ====================================
  **How a sum with one is rounded.**

  The model of floating point shifts a significand to the right one bit at a
  time, keeps a round bit and a sticky bit of what it drops, and decides on
  these two.  `Guards` is what holds of them after every shift; it makes the
  result `Binary64.nearest`, the same rounding as in plain arithmetic.
-/
import ClockDiscipline.Proofs.Doubles
import Mathlib

namespace ClockDiscipline

open Float.Model (UnpackedFloat Format totalExponent)
open Float.Model.UnpackedFloat

namespace Binary64

/-! ### The nearest whole number -/

section Nearest

variable {num den : Nat}

theorem nearest_within (tie : Tie) (h : 0 < den) :
    2 * num ≤ den * (2 * nearest tie num den + 1) ∧
      den * (2 * nearest tie num den) ≤ 2 * num + den := by
  have hsplit := Nat.div_add_mod num den
  have hmod := Nat.mod_lt num h
  have heven : num / den % 2 = 0 ∨ num / den % 2 = 1 := Nat.mod_two_eq_zero_or_one _
  unfold nearest
  dsimp only
  generalize num / den = q at *
  generalize num % den = r at *
  split
  · constructor <;> nlinarith
  · split
    · constructor <;> nlinarith
    · cases tie with
      | away => constructor <;> nlinarith
      | toEven => rcases heven with heven | heven <;> rw [heven] <;> constructor <;> nlinarith

/-- An even number of wholes passes through rounding to even. -/
theorem nearest_add_even {n : Nat} (h : 0 < den) (heven : n % 2 = 0) :
    nearest .toEven (num + n * den) den = nearest .toEven num den + n := by
  have hmod : (num / den + n) % 2 = num / den % 2 := by omega
  unfold nearest
  dsimp only
  rw [Nat.add_mul_div_right _ _ h, Nat.add_mul_mod_self_right, hmod]
  split
  · rfl
  · split <;> omega

theorem nearest_mul (tie : Tie) (q : Nat) (h : 0 < den) :
    nearest tie (q * den) den = q := by
  unfold nearest
  dsimp only
  rw [Nat.mul_div_cancel q h, Nat.mul_mod_left, if_pos (by omega)]

end Nearest

/-! ### Rounding by guard bits -/

/-- A significand with its guard bits stands for the quotient `num / den`: the
    round bit says whether at least a half has been dropped, the sticky bit
    whether it was neither nothing nor a half. -/
structure Guards (em : ExtendedMantissa) (num den : Nat) : Prop where
  mantissa : em.mantissa = num / den
  roundBit : em.roundBit = decide (den ≤ 2 * (num % den))
  stickyBit : em.stickyBit = decide (num % den ≠ 0 ∧ 2 * (num % den) ≠ den)

section Guards

variable {em : ExtendedMantissa} {num den : Nat}

theorem guards_exact (m : Nat) : Guards (.ofMantissaAndAccuracy m .exact) m 1 := by
  constructor <;> simp [ExtendedMantissa.ofMantissaAndAccuracy, Nat.mod_one]

theorem Guards.shiftRightOne (h : Guards em num den) (hden : 0 < den) :
    Guards em.shiftRightOne num (2 * den) := by
  have hsplit : num % (2 * den) = num % den + den * (num / den % 2) := by
    rw [Nat.mul_comm 2 den, Nat.mod_mul]
  have hmod := Nat.mod_lt num hden
  have hbit := Nat.mod_two_eq_zero_or_one (num / den)
  constructor
  · show em.mantissa / 2 = num / (2 * den)
    rw [h.mantissa, Nat.div_div_eq_div_mul, Nat.mul_comm den 2]
  · show (em.mantissa % 2 != 0) = _
    rw [h.mantissa, hsplit]
    rcases hbit with hbit | hbit
    · rw [hbit]
      exact (decide_eq_false (by omega)).symm
    · rw [hbit]
      exact (decide_eq_true (by omega)).symm
  · show (em.roundBit || em.stickyBit) = _
    rw [h.roundBit, h.stickyBit, hsplit, ← Bool.decide_or, decide_eq_decide]
    rcases hbit with hbit | hbit <;> rw [hbit] <;> omega

theorem Guards.shiftRight (h : Guards em num 1) (k : Nat) : Guards (em >>> k) num (2 ^ k) := by
  show Guards (Nat.repeat ExtendedMantissa.shiftRightOne k em) num (2 ^ k)
  induction k with
  | zero => simpa [Nat.repeat] using h
  | succ k ih =>
    rw [Nat.repeat, Nat.pow_succ, Nat.mul_comm]
    exact ih.shiftRightOne (by positivity)

theorem Guards.roundedMantissa (h : Guards em num den) (hden : 0 < den) :
    em.roundedMantissa = nearest .toEven num den := by
  have hmod := Nat.mod_lt num hden
  obtain ⟨m, round, sticky⟩ := em
  obtain ⟨rfl, rfl, rfl⟩ := h
  unfold nearest
  dsimp only
  split
  · next hlow =>
    have hround : decide (den ≤ 2 * (num % den)) = false :=
      decide_eq_false (by omega)
    rw [hround]
    cases decide (num % den ≠ 0 ∧ 2 * (num % den) ≠ den) <;> rfl
  · next hlow =>
    have hround : decide (den ≤ 2 * (num % den)) = true :=
      decide_eq_true (by omega)
    rw [hround]
    split
    · next hhigh =>
      have hsticky : decide (num % den ≠ 0 ∧ 2 * (num % den) ≠ den) = true :=
        decide_eq_true (by omega)
      rw [hsticky]
      rfl
    · next hhigh =>
      have hsticky : decide (num % den ≠ 0 ∧ 2 * (num % den) ≠ den) = false :=
        decide_eq_false (by omega)
      rw [hsticky]
      rfl

end Guards

section Rounding

variable {m k : Nat} {e : Int}

theorem targetExponent_of_log2 (hm : m.log2 = 52 + k) (he : -1074 ≤ e + k) :
    Format.binary64.targetExponent (totalExponent m e) = e + k := by
  show max ((m.log2 : Int) + 1 + e - 53) (-1074) = e + k
  omega

theorem shiftToTargetExponent_of_log2 (hm : m.log2 = 52 + k) (he : -1074 ≤ e + k) :
    shiftToTargetExponent Format.binary64 m e .exact =
      (ExtendedMantissa.ofMantissaAndAccuracy m .exact >>> k, e + k) := by
  unfold shiftToTargetExponent shiftToExponent
  simp only [targetExponent_of_log2 hm he, add_sub_cancel_left, Int.toNat_natCast]

/-- A significand of `53 + k` bits loses the last `k` to rounding; if that
    carries into a new bit, one more is dropped. -/
theorem round_of_log2 (s : Sign) (hm : m.log2 = 52 + k) (he : -1074 ≤ e + k) :
    ∃ m' e' h, UnpackedFloat.round Format.binary64 s m e = .finite s m' e' h ∧
      (m' = nearest .toEven m (2 ^ k) ∧ e' = e + k ∨
        nearest .toEven m (2 ^ k) = 0x20000000000000 ∧ m' = 0x10000000000000 ∧ e' = e + k + 1) := by
  have hpos : 0 < 2 ^ k := by positivity
  have hm0 : m ≠ 0 := by
    rintro rfl
    rw [Nat.log2_zero] at hm
    omega
  obtain ⟨hlow, hhigh⟩ := (Nat.log2_eq_iff hm0).mp hm
  rw [show 52 + k + 1 = 53 + k by omega] at hhigh
  rw [pow_add] at hlow hhigh
  obtain ⟨habove, hbelow⟩ := @nearest_within m (2 ^ k) .toEven hpos
  have hshift : (e - (e + k)).toNat = 0 := by omega
  have hrounded := ((guards_exact m).shiftRight k).roundedMantissa hpos
  unfold UnpackedFloat.round
  simp only [targetExponent_of_log2 hm he, decreaseExponent, hshift, Nat.shiftLeft_zero,
    Int.natCast_zero, sub_zero]
  unfold roundWithAccuracy
  simp only [shiftToTargetExponent_of_log2 hm he, hrounded]
  generalize nearest .toEven m (2 ^ k) = n at *
  have hn : 2 ^ 52 ≤ n := by nlinarith
  have hn' : n ≤ 2 ^ 53 := by nlinarith
  -- The rounded significand is shifted once more: by nothing, or by the bit it
  -- has carried into.
  rcases hn'.lt_or_eq with hlt | rfl
  · have hlog : n.log2 = 52 + 0 := (Nat.log2_eq_iff (by omega)).mpr ⟨hn, hlt⟩
    simp only [shiftToTargetExponent_of_log2 hlog (show -1074 ≤ e + k + (0 : Nat) by omega)]
    have hmantissa : (ExtendedMantissa.ofMantissaAndAccuracy n .exact >>> 0).mantissa = n := rfl
    rw [dif_neg (by omega)]
    refine ⟨n, e + k, by omega, ?_, .inl ⟨rfl, rfl⟩⟩
    simp [hmantissa]
  · have hlog : (2 ^ 53).log2 = 52 + 1 := by decide
    simp only [shiftToTargetExponent_of_log2 hlog (show -1074 ≤ e + k + (1 : Nat) by omega)]
    have hmantissa :
        (ExtendedMantissa.ofMantissaAndAccuracy (2 ^ 53) .exact >>> 1).mantissa = 2 ^ 52 := by
      decide
    rw [dif_neg (by rw [hmantissa]; decide)]
    refine ⟨2 ^ 52, e + k + 1, by decide, ?_, .inr ⟨rfl, rfl, rfl⟩⟩
    simp only [hmantissa, Nat.cast_one]

theorem pack_of_le {s : Sign} {hm : 0 < m} (h : e ≤ 971) :
    UnpackedFloat.pack Format.binary64 (.finite s m e hm) =
      if m.log2 = 52 then
        packComponents Format.binary64 s (BitVec.ofNat 11 (e + 1075).toNat) (BitVec.ofNat 52 m)
      else packComponents Format.binary64 s 0#11 (BitVec.ofNat 52 m) := by
  have hbias : e + Format.binary64.exponentBias + Format.binary64.mantissaBitsWithoutImplicit =
      e + 1075 := Int.add_assoc e 1023 52
  have hrange : ¬2 ^ Format.binary64.exponentBits ≤ (e + 1075).toNat + 1 := by
    show ¬2048 ≤ (e + 1075).toNat + 1
    omega
  have hbits : m.log2 + 1 = Format.binary64.mantissaBits ↔ m.log2 = 52 := Nat.succ_inj
  unfold UnpackedFloat.pack
  rw [hbias, if_neg hrange]
  exact if_congr hbits rfl rfl

theorem toNat_pack_mod {s : Sign} {hm : 0 < m} (he : e < 972) :
    (Float.Model.pack (.finite s m e hm)).toBits.toNat % 0x10000000000000 =
      m % 0x10000000000000 := by
  rw [← toNat_unpackMantissa]
  show (unpackMantissa (UnpackedFloat.pack Format.binary64 (.finite s m e hm))).toNat = _
  rw [pack_of_le (by omega)]
  split <;> rw [unpackMantissa_packComponents] <;> rfl

/-- The two summands are brought to the exponent of the smaller one and added
    exactly; what is rounded is their sum. -/
theorem add_one_eq_round {hm : 0 < m} (he : e = -52 - k) :
    UnpackedFloat.add Format.binary64 (.finite .positive m e hm) (1 : Float).toModel.unpack =
      UnpackedFloat.round Format.binary64 .positive (m + 2 ^ 52 * 2 ^ k) e := by
  have hone : (1 : Float).toModel.unpack = .finite .positive (2 ^ 52) (-52) (by decide) := rfl
  have hmin : min e (-52) = e := by omega
  have hshift : (-52 - e).toNat = k := by omega
  have hpos : compare ((m + 2 ^ 52 * 2 ^ k : Nat) : Int) 0 = .gt :=
    compare_gt_iff_gt.mpr (by omega)
  rw [hone]
  unfold UnpackedFloat.add
  simp only [hmin, decreaseExponent, hshift, sub_self, Int.toNat_zero, pow_zero, mul_one,
    Nat.shiftLeft_eq, Sign.apply, ← Nat.cast_add]
  unfold UnpackedFloat.normalize
  simp only [hpos, Int.toNat_natCast]

theorem log2_add_one (hbelow : m < 2 ^ 52 * 2 ^ k) : (m + 2 ^ 52 * 2 ^ k).log2 = 52 + k := by
  have hpos : 0 < 2 ^ k := by positivity
  apply (Nat.log2_eq_iff (by omega)).mpr
  constructor
  · rw [pow_add]
    omega
  · rw [show 52 + k + 1 = 1 + (52 + k) by omega, pow_add, pow_add]
    omega

/-- Adding one to a smaller positive double rounds it to a multiple of `2 ^ -52`. -/
theorem toNat_add_one_mod {x : Float} {hm : 0 < m}
    (hx : x.toModel.unpack = .finite .positive m e hm) (he : e = -52 - k)
    (hbelow : m < 2 ^ 52 * 2 ^ k) :
    (x + 1).toBits.toNat % 0x10000000000000 = nearest .toEven m (2 ^ k) % 0x10000000000000 := by
  obtain ⟨m', e', hm', hround, hcases⟩ :=
    round_of_log2 .positive (log2_add_one hbelow) (show -1074 ≤ e + k by omega)
  -- `2 ^ 52` wholes are an even number of them: they move out of the rounding.
  rw [nearest_add_even (by positivity) (by decide)] at hcases
  show (Float.Model.pack (UnpackedFloat.add Format.binary64 x.toModel.unpack
    (1 : Float).toModel.unpack)).toBits.toNat % 0x10000000000000 = _
  rw [hx, add_one_eq_round he, hround, toNat_pack_mod (by omega)]
  omega

end Rounding

end Binary64

end ClockDiscipline
