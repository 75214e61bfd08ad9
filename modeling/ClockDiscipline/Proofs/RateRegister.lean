/-
  ClockDiscipline/Proofs/RateRegister.lean
  ========================================
  **How near the rate register comes to the rate that was asked for.**

  The register is meant to drop the bits beyond `2 ^ -31` and nothing else.
  From one upwards it does.  Below one the fraction is that of `ratio + 1`,
  which is rounded first: the rounding is harmless unless it reaches two,
  because then the fraction is zero and the clock stops.  The largest double
  below one is the only one for which this happens.
-/
import ClockDiscipline.Rate.Register
import ClockDiscipline.Proofs.Rounding
import Mathlib

namespace ClockDiscipline

open Binary64 (Canonical ofFloat nearest)

namespace RateRegister

/-- The rate a word stands for, as an exact number. -/
def rate (r : RateRegister) : ℚ := r.bits.toNat / 2 ^ 31

/-! ### The word -/

theorem toNat_fractionBits (x : Float) :
    (fractionBits x).toNat = x.toBits.toNat % 0x10000000000000 / 0x200000 := by
  have hmask : (0x7fffffff : UInt64).toNat = 2 ^ 31 - 1 := rfl
  unfold fractionBits
  rw [UInt64.toNat_toUInt32, UInt64.toNat_and, UInt64.toNat_shiftRight, hmask,
    Nat.and_two_pow_sub_one_eq_mod, Nat.shiftRight_eq_div_pow]
  show x.toBits.toNat / 2 ^ 21 % 2 ^ 31 % 2 ^ 32 = _
  omega

theorem toNat_or_integerBit {w : UInt32} (h : w.toNat < 0x80000000) :
    (w ||| integerBit).toNat = w.toNat + 0x80000000 := by
  have hbit : integerBit.toNat = 2 ^ 31 * 1 := rfl
  rw [UInt32.toNat_or, hbit, Nat.lor_comm, ← Nat.two_pow_add_eq_or_of_lt h]
  omega

/-! ### The range -/

section Range

variable {r : Float} {q : ℚ}

theorem value?_zero : (ofFloat 0).value? = some 0 := by
  have hzero : ofFloat 0 = .finite false 0 (-1074) := by decide
  simp [hzero, Binary64.value?]

theorem value?_one : (ofFloat 1).value? = some 1 := by
  have hone : ofFloat 1 = .finite false (2 ^ 52) (-52) := by decide
  norm_num [hone, Binary64.value?]

theorem value?_two : (ofFloat 2).value? = some 2 := by
  have htwo : ofFloat 2 = .finite false (2 ^ 52) (-51) := by decide
  norm_num [htwo, Binary64.value?]

theorem inRange_iff (hr : (ofFloat r).value? = some q) : 0 < r ∧ r < 2 ↔ 0 < q ∧ q < 2 := by
  rw [Binary64.lt_iff_value value?_zero hr, Binary64.lt_iff_value hr value?_two]

theorem exists_value_of_inRange (h : 0 < r ∧ r < 2) : ∃ q, (ofFloat r).value? = some q :=
  Binary64.exists_value_of_between value?_zero value?_two h.1 h.2

/-- A rate in range in the form that the model of floating point works on. -/
theorem exists_unpack (hr : (ofFloat r).value? = some q) (hq : 0 < q) :
    ∃ m e hm, r.toModel.unpack = .finite .positive m e hm ∧ Canonical m e ∧ q = m * 2 ^ e := by
  rw [Binary64.ofFloat_eq_ofUnpacked] at hr
  cases hu : r.toModel.unpack with
  | notANumber => simp [hu] at hr
  | infinity s => simp [hu] at hr
  | zero s =>
    obtain rfl : 0 = q := by simpa [hu] using hr
    exact absurd hq (lt_irrefl 0)
  | finite s m e hm =>
    cases s with
    | positive =>
      obtain rfl : m * 2 ^ e = q := by simpa [hu] using hr
      exact ⟨m, e, hm, rfl, Binary64.canonical_of_unpack hu, rfl⟩
    | negative =>
      obtain rfl : -(m * 2 ^ e) = q := by simpa [hu] using hr
      have hpos : (0 : ℚ) < m * 2 ^ e := by positivity
      linarith

end Range

/-! ### Exponents -/

section Exponents

variable {m : Nat} {e : Int}

theorem exponent_of_lt_one (h : Canonical m e) (hone : (m : ℚ) * 2 ^ e < 1) : e ≤ -53 := by
  by_contra hnot
  have hpow : (2 : ℚ) ^ (52 + e) < 1 := (h.two_pow_le_scaled (by omega)).trans_lt hone
  have hexponent := (zpow_lt_one_iff_right₀ one_lt_two).mp hpow
  omega

theorem exponent_of_one_le (h : Canonical m e) (hone : 1 ≤ (m : ℚ) * 2 ^ e)
    (htwo : (m : ℚ) * 2 ^ e < 2) : e = -52 := by
  have hhigh : (1 : ℚ) < 2 ^ (53 + e) := hone.trans_lt h.scaled_lt_two_pow
  have hlow := (one_lt_zpow_iff_right₀ one_lt_two).mp hhigh
  have hpow : (2 : ℚ) ^ (52 + e) < 2 ^ (1 : ℤ) := by
    rw [zpow_one]
    exact (h.two_pow_le_scaled (by omega)).trans_lt htwo
  have hexponent := (zpow_lt_zpow_iff_right₀ one_lt_two).mp hpow
  omega

theorem scaled_eq_div {k : Nat} (he : e = -52 - k) :
    (m : ℚ) * 2 ^ e = m / (2 ^ 52 * 2 ^ k) := by
  rw [he, show (-52 - (k : Int)) = -(52 + k : Nat) by omega, zpow_neg, zpow_natCast, pow_add,
    div_eq_mul_inv]

end Exponents

/-! ### The word of a rate -/

section Words

variable {r : Float} {m : Nat} {e : Int} {hm : 0 < m}

theorem encode_of_one_le (hu : r.toModel.unpack = .finite .positive m e hm) (hc : Canonical m e)
    (he : -1074 < e) (hrange : 0 < r ∧ r < 2) (hlow : ¬r < 1) :
    ∃ reg, encode r = .ok reg ∧ reg.bits.toNat = m / 0x200000 := by
  have hfraction : r.toBits.toNat % 0x10000000000000 = m % 0x10000000000000 := by
    have hfloat := Binary64.ofFloat_eq_ofUnpacked r
    rw [hu] at hfloat
    exact Binary64.toNat_mod_of_ofBits hfloat
  have hbounded := hc.bounded
  have hleading := hc.leading
  have hsmall : (fractionBits r).toNat < 0x80000000 := by
    rw [toNat_fractionBits]
    omega
  refine ⟨⟨fractionBits r ||| integerBit⟩, ?_, ?_⟩
  · rw [encode, if_pos hrange, if_neg hlow]
  · rw [toNat_or_integerBit hsmall, toNat_fractionBits, hfraction]
    omega

theorem encode_of_lt_one {k : Nat} (hu : r.toModel.unpack = .finite .positive m e hm)
    (he : e = -52 - k) (hbelow : m < 2 ^ 52 * 2 ^ k) (hrange : 0 < r ∧ r < 2) (hlow : r < 1) :
    ∃ reg, encode r = .ok reg ∧
      reg.bits.toNat = nearest .toEven m (2 ^ k) % 0x10000000000000 / 0x200000 := by
  refine ⟨⟨fractionBits (r + 1)⟩, ?_, ?_⟩
  · rw [encode, if_pos hrange, if_pos hlow]
  · rw [toNat_fractionBits, Binary64.toNat_add_one_mod hu he hbelow]

end Words

/-! ### The distance -/

/-- The largest double below one. -/
def belowOne : ℚ := 1 - 1 / 2 ^ 53

section Distance

variable {m k : Nat}

/-- A significand that reaches the last half unit below one has nothing below
    that half unit. -/
theorem topmost_iff (hm : m < 0x20000000000000) (hk : 1 ≤ k) :
    0x1fffffffffffff * 2 ^ k ≤ 2 * m ↔ m = 0x1fffffffffffff ∧ k = 1 := by
  constructor
  · intro h
    have hk1 : k = 1 := by
      by_contra hne
      have hfour : 2 ^ 2 ≤ 2 ^ k := Nat.pow_le_pow_right (by decide) (by omega)
      omega
    subst hk1
    omega
  · rintro ⟨rfl, rfl⟩
    decide

theorem eq_belowOne_iff :
    (m : ℚ) / (2 ^ 52 * 2 ^ k) = belowOne ↔ 0x1fffffffffffff * 2 ^ k = 2 * m := by
  have hpos : (0 : ℚ) < 2 ^ k := by positivity
  unfold belowOne
  rw [div_eq_iff (by positivity)]
  constructor
  · intro h
    have hq : (0x1fffffffffffff * 2 ^ k : ℚ) = 2 * m := by
      rw [h]
      ring
    exact_mod_cast hq
  · intro h
    have hq : (0x1fffffffffffff * 2 ^ k : ℚ) = 2 * m := by exact_mod_cast h
    linarith

/-- Rounding reaches one only from the last half unit below it. -/
theorem nearest_eq_one_iff (hm : m < 0x20000000000000) (hk : 1 ≤ k) (hbelow : m < 2 ^ 52 * 2 ^ k) :
    nearest .toEven m (2 ^ k) = 0x10000000000000 ↔ (m : ℚ) / (2 ^ 52 * 2 ^ k) = belowOne := by
  have hpos : 0 < 2 ^ k := by positivity
  obtain ⟨habove, hunder⟩ := @Binary64.nearest_within m (2 ^ k) .toEven hpos
  rw [eq_belowOne_iff]
  constructor
  · intro h
    rw [h] at hunder
    have htop : 0x1fffffffffffff * 2 ^ k ≤ 2 * m := by omega
    obtain ⟨rfl, rfl⟩ := (topmost_iff hm hk).mp htop
    decide
  · intro h
    obtain ⟨rfl, rfl⟩ := (topmost_iff hm hk).mp h.le
    decide

theorem distance_of_one_le {w : Nat} (hw : w = m / 0x200000) :
    |(w : ℚ) / 2 ^ 31 - m / 2 ^ 52| ≤ 1 / 2 ^ 31 := by
  have hlow : (w * 0x200000 : ℚ) ≤ m := by exact_mod_cast (by omega : w * 0x200000 ≤ m)
  have hhigh : (m : ℚ) ≤ (w + 1) * 0x200000 := by
    exact_mod_cast (by omega : m ≤ (w + 1) * 0x200000)
  rw [abs_le]
  constructor <;> linarith

/-- Below one the sum with one is rounded by half a unit at most before its
    last bits are lost, which is too much only if it is rounded to two. -/
theorem distance_of_lt_one {w : Nat} (hm : m < 0x20000000000000) (hk : 1 ≤ k)
    (hbelow : m < 2 ^ 52 * 2 ^ k)
    (hw : w = nearest .toEven m (2 ^ k) % 0x10000000000000 / 0x200000) :
    |(w : ℚ) / 2 ^ 31 - m / (2 ^ 52 * 2 ^ k)| ≤ 1 / 2 ^ 31 ↔
      (m : ℚ) / (2 ^ 52 * 2 ^ k) ≠ belowOne := by
  have hpos : 0 < 2 ^ k := by positivity
  have hone := nearest_eq_one_iff hm hk hbelow
  obtain ⟨habove, hunder⟩ := @Binary64.nearest_within m (2 ^ k) .toEven hpos
  generalize nearest .toEven m (2 ^ k) = n at *
  have hn : n ≤ 0x10000000000000 := by nlinarith
  rcases hn.lt_or_eq with hlt | hwrap
  · have hne := fun h => hlt.ne (hone.mpr h)
    have habove' : (m : ℚ) / 2 ^ k ≤ n + 1 / 2 := by
      rw [div_le_iff₀ (by positivity)]
      have hcast : (2 * m : ℚ) ≤ 2 ^ k * (2 * n + 1) := by exact_mod_cast habove
      linarith
    have hunder' : (n : ℚ) - 1 / 2 ≤ m / 2 ^ k := by
      rw [le_div_iff₀ (by positivity)]
      have hcast : (2 ^ k * (2 * n) : ℚ) ≤ 2 * m + 2 ^ k := by exact_mod_cast hunder
      linarith
    have hlow : (w * 0x200000 : ℚ) ≤ n := by exact_mod_cast (by omega : w * 0x200000 ≤ n)
    have hhigh : (n : ℚ) + 1 ≤ (w + 1) * 0x200000 := by
      exact_mod_cast (by omega : n + 1 ≤ (w + 1) * 0x200000)
    have hscale : (m : ℚ) / (2 ^ 52 * 2 ^ k) = m / 2 ^ k / 2 ^ 52 := by
      rw [div_div, mul_comm]
    refine iff_of_true ?_ hne
    rw [hscale, abs_le]
    constructor <;> linarith
  · have hzero : w = 0 := by omega
    rw [hone.mp hwrap, hzero]
    norm_num [belowOne]

end Distance

/-! ### What encoding does to every double -/

section Encoding

variable {r : Float} {m : Nat} {e : Int} {hm : 0 < m}

theorem within_iff_of_lt_one (hu : r.toModel.unpack = .finite .positive m e hm)
    (hc : Canonical m e) (hrange : 0 < r ∧ r < 2) (hlow : r < 1) (hone : (m : ℚ) * 2 ^ e < 1) :
    ∃ reg, encode r = .ok reg ∧
      (|reg.rate - m * 2 ^ e| ≤ 1 / 2 ^ 31 ↔ (m : ℚ) * 2 ^ e ≠ belowOne) := by
  have hbounded := hc.bounded
  have hexponent := exponent_of_lt_one hc hone
  obtain ⟨k, hk⟩ : ∃ k : Nat, e = -52 - k := ⟨(-52 - e).toNat, by omega⟩
  have hscaled := @scaled_eq_div m e k hk
  have hbelow : m < 2 ^ 52 * 2 ^ k := by
    rw [hscaled, div_lt_one (by positivity)] at hone
    exact_mod_cast hone
  obtain ⟨reg, hencode, hword⟩ := encode_of_lt_one hu hk hbelow hrange hlow
  refine ⟨reg, hencode, ?_⟩
  rw [rate, hscaled]
  exact distance_of_lt_one hbounded (by omega) hbelow hword

theorem within_of_one_le (hu : r.toModel.unpack = .finite .positive m e hm)
    (hc : Canonical m e) (hrange : 0 < r ∧ r < 2) (hlow : ¬r < 1) (hone : 1 ≤ (m : ℚ) * 2 ^ e)
    (htwo : (m : ℚ) * 2 ^ e < 2) :
    ∃ reg, encode r = .ok reg ∧ |reg.rate - m * 2 ^ e| ≤ 1 / 2 ^ 31 := by
  obtain rfl := exponent_of_one_le hc hone htwo
  have hscaled := @scaled_eq_div m (-52) 0 (by decide)
  rw [pow_zero, mul_one] at hscaled
  obtain ⟨reg, hencode, hword⟩ := encode_of_one_le hu hc (by decide) hrange hlow
  refine ⟨reg, hencode, ?_⟩
  rw [rate, hscaled]
  exact distance_of_one_le hword

end Encoding

/-- A double is encoded exactly if it is a number strictly between zero and
    two.  The register is then within its resolution of it, unless the double
    is the last one below one. -/
theorem encode_within_resolution_iff (r : Float) :
    (∀ q, (ofFloat r).value? = some q → 0 < q → q < 2 →
      ∃ reg, encode r = .ok reg ∧ (|reg.rate - q| ≤ 1 / 2 ^ 31 ↔ q ≠ belowOne)) ∧
    ((¬∃ q, (ofFloat r).value? = some q ∧ 0 < q ∧ q < 2) → encode r = .error (.ratio r)) := by
  constructor
  · intro q hq hpos htwo
    have hrange : 0 < r ∧ r < 2 := (inRange_iff hq).mpr ⟨hpos, htwo⟩
    have hone : r < 1 ↔ q < 1 := Binary64.lt_iff_value hq value?_one
    obtain ⟨m, e, hm, hu, hc, rfl⟩ := exists_unpack hq hpos
    by_cases hlow : r < 1
    · exact within_iff_of_lt_one hu hc hrange hlow (hone.mp hlow)
    · have hle : 1 ≤ (m : ℚ) * 2 ^ e := not_lt.mp fun h => hlow (hone.mpr h)
      have hlast : belowOne < 1 := by norm_num [belowOne]
      obtain ⟨reg, hencode, hwithin⟩ := within_of_one_le hu hc hrange hlow hle htwo
      exact ⟨reg, hencode, iff_of_true hwithin (hlast.trans_le hle).ne'⟩
  · intro hnot
    rw [encode, if_neg]
    intro hrange
    obtain ⟨q, hq⟩ := exists_value_of_inRange hrange
    exact hnot ⟨q, hq, (inRange_iff hq).mp hrange⟩

/-- Three quarters are encoded exactly, and what is not a number is refused. -/
theorem encode_within_resolution_iff_threeQuarters :
    (∃ reg, encode 0.75 = .ok reg ∧ |reg.rate - 3 / 4| ≤ 1 / 2 ^ 31) ∧
      encode (0 / 0) = .error (.ratio (0 / 0)) := by
  have hvalue : (ofFloat 0.75).value? = some (3 / 4) := by
    have hparts : ofFloat 0.75 = .finite false (3 * 2 ^ 51) (-53) := by decide
    norm_num [hparts, Binary64.value?]
  have hnan : (ofFloat (0 / 0)).value? = none := by
    have hparts : ofFloat (0 / 0) = .nan := by decide
    rw [hparts]
    rfl
  constructor
  · obtain ⟨reg, hencode, hwithin⟩ :=
      (encode_within_resolution_iff 0.75).1 (3 / 4) hvalue (by norm_num) (by norm_num)
    exact ⟨reg, hencode, hwithin.mpr (by norm_num [belowOne])⟩
  · refine (encode_within_resolution_iff (0 / 0)).2 ?_
    rintro ⟨q, hq, -⟩
    rw [hnan] at hq
    cases hq

/-- The last double below one is encoded as a stopped clock. -/
theorem not_forall_encode_within_resolution :
    ¬∀ (r : Float) (q : ℚ), (ofFloat r).value? = some q → 0 < q → q < 2 →
      ∃ reg, encode r = .ok reg ∧ |reg.rate - q| ≤ 1 / 2 ^ 31 := by
  intro h
  have hparts : ofFloat (.ofBits 0x3fefffffffffffff) = .finite false (2 ^ 53 - 1) (-53) := by
    decide
  have hvalue : (ofFloat (.ofBits 0x3fefffffffffffff)).value? = some belowOne := by
    norm_num [hparts, Binary64.value?, belowOne]
  obtain ⟨reg, hencode, hwithin⟩ := h _ _ hvalue (by norm_num [belowOne]) (by norm_num [belowOne])
  have hstopped : encode (.ofBits 0x3fefffffffffffff) = .ok ⟨0⟩ := rfl
  obtain rfl : ⟨0⟩ = reg := Except.ok.inj (hstopped.symm.trans hencode)
  norm_num [rate, belowOne] at hwithin

end RateRegister

end ClockDiscipline
