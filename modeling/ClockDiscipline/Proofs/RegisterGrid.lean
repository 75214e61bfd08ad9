/-
  ClockDiscipline/Proofs/RegisterGrid.lean
  ========================================
  **Rates on the grid of the register come back as they were.**

  A word of the register has few enough bits for a double, and dividing by a
  power of two takes none of them away, so that decoding loses nothing
  (`unpack_decode`).  Encoding drops bits below that grid only, and on it there
  are none, with one added first or without.  Zero alone is left out: a clock
  may not be stopped, so that encoding refuses the rate that the word zero
  stands for.
-/
import ClockDiscipline.Proofs.FiniteDoubles
import ClockDiscipline.Proofs.RateRegister

namespace ClockDiscipline

open Float.Model (UnpackedFloat Format totalExponent)
open Float.Model.UnpackedFloat

namespace Binary64

/-! ### Dividing by a power of two -/

section Quotients

variable {x : Float} {m : Nat} {e : Int} {hm : 0 < m}

theorem unpack_two_pow_31 :
    (2147483648 : Float).toModel.unpack = .finite .positive (2 ^ 52) (-21) (by decide) := rfl

/-- A divisor that is a power of two leaves the significand as it is. -/
theorem divCore_two_pow {d : Nat} {f : Int} (hlow : 2 ^ 52 ≤ m) (hhigh : m < 2 ^ 53)
    (hd : d = 2 ^ 52) (he : -1021 ≤ e - f) :
    divCore Format.binary64 m e d f = (m * 2 ^ 1, e - f - 53, .exact) := by
  have hlog : m.log2 = 52 := (Nat.log2_eq_iff (by omega)).mpr ⟨hlow, hhigh⟩
  have hlogd : d.log2 = 52 := by rw [hd, Nat.log2_two_pow]
  have htarget : min (e - f) (Format.binary64.targetExponent
      (totalExponent m e - totalExponent d f)) = e - f - 53 := by
    show min (e - f) (max ((m.log2 : Int) + 1 + e - (d.log2 + 1 + f) - 53) (-1074)) = _
    omega
  have hshift : (e - f - (e - f - 53)).toNat = 53 := by omega
  have hshifted : m * 2 ^ 53 = m * 2 ^ 1 * d := by rw [hd, mul_assoc, ← pow_add]
  have hpos : 0 < d := by omega
  unfold divCore
  simp only [htarget, hshift, Nat.shiftLeft_eq, hshifted, Nat.mul_mod_left,
    Nat.mul_div_cancel _ hpos]
  rfl

/-- Halving 31 times lowers the exponent and keeps the significand. -/
theorem unpack_div_two_pow_31 (hx : x.toModel.unpack = .finite .positive m e hm)
    (hlow : 2 ^ 52 ≤ m) (he : -1042 ≤ e) :
    (x / 2147483648).toModel.unpack = .finite .positive m (e - 31) hm := by
  have hcanonical := canonical_of_unpack hx
  have hhigh := exponent_le_of_unpack hx
  have hexponent : e - -21 - 53 + (1 : Nat) = e - 31 := by omega
  show (Float.Model.pack (UnpackedFloat.div Format.binary64 x.toModel.unpack
    (2147483648 : Float).toModel.unpack)).unpack = _
  rw [hx, unpack_two_pow_31]
  unfold UnpackedFloat.div
  simp only [divCore_two_pow hlow hcanonical.bounded rfl (show -1021 ≤ e - -21 by omega)]
  show (Float.Model.pack (roundWithAccuracy Format.binary64 .positive (m * 2 ^ 1) (e - -21 - 53)
    .exact)).unpack = _
  rw [round_mul_two_pow hm hlow hcanonical.bounded (by omega)]
  simp only [hexponent]
  exact unpack_pack ⟨hcanonical.bounded, by omega, .inl hlow⟩ (by omega)

end Quotients

end Binary64

namespace RateRegister

open Binary64 (Canonical ofFloat nearest shiftedUp)

variable {a b r : RateRegister} {x y : Float}

/-! ### Decoding -/

theorem toNat_pos (hr : r.bits ≠ 0) : 0 < r.bits.toNat := by
  have hne : r.bits.toNat ≠ 0 := fun h => hr (UInt32.toNat_inj.mp h)
  omega

theorem toNat_lt_two_pow (r : RateRegister) : r.bits.toNat < 2 ^ 53 :=
  r.bits.toNat_lt.trans (by decide)

theorem log2_bits_le (r : RateRegister) : r.bits.toNat.log2 ≤ 52 :=
  Nat.le_of_lt_succ (Binary64.log2_lt_of_lt (by decide) r.toNat_lt_two_pow)

theorem unpack_decode (hr : r.bits ≠ 0) :
    ∃ hm, r.decode.toModel.unpack =
      .finite .positive (shiftedUp r.bits.toNat) (r.bits.toNat.log2 - 52 - 31) hm := by
  have hpos := toNat_pos hr
  obtain ⟨hm, hunpack⟩ := Binary64.unpack_ofNat hpos r.toNat_lt_two_pow
  have hlow := (Binary64.shiftedUp_bounds hpos r.log2_bits_le).1
  exact ⟨hm, Binary64.unpack_div_two_pow_31 hunpack hlow (by omega)⟩

theorem shiftedUp_scaled {n : Nat} (hlog : n.log2 ≤ 52) :
    (shiftedUp n : ℚ) * 2 ^ ((n.log2 : Int) - 52 - 31) = n / 2 ^ 31 := by
  have hexponent : ((52 - n.log2 : Nat) : Int) + (n.log2 - 52 - 31) = -(31 : Nat) := by omega
  unfold shiftedUp
  rw [Nat.cast_mul, Nat.cast_pow, Nat.cast_ofNat, mul_assoc, ← zpow_natCast,
    ← zpow_add₀ two_ne_zero, hexponent, zpow_neg, zpow_natCast, div_eq_mul_inv]

/-- Decoding is exact. -/
theorem value?_decode (r : RateRegister) : (ofFloat r.decode).value? = some r.rate := by
  by_cases hr : r.bits = 0
  · have hzero : r = ⟨0⟩ := by rw [← hr]
    have hparts : ofFloat (decode ⟨0⟩) = .finite false 0 (-1074) := by decide
    rw [hzero, hparts]
    simp [Binary64.value?, rate]
  · obtain ⟨hm, hunpack⟩ := unpack_decode hr
    rw [Binary64.ofFloat_eq_ofUnpacked, hunpack, Binary64.value?_positive,
      shiftedUp_scaled r.log2_bits_le]
    rfl

theorem rate_lt_iff : a.rate < b.rate ↔ a.bits < b.bits := by
  unfold rate
  rw [div_lt_div_iff_of_pos_right (by positivity), Nat.cast_lt]
  exact UInt32.lt_iff_toNat_lt.symm

/-! ### Encoding -/

theorem rate_pos (hr : r.bits ≠ 0) : 0 < r.rate := by
  have hpos : (0 : ℚ) < r.bits.toNat := by exact_mod_cast toNat_pos hr
  unfold rate
  positivity

theorem rate_lt_two (r : RateRegister) : r.rate < 2 := by
  have hlt : (r.bits.toNat : ℚ) < 2 ^ 32 := by exact_mod_cast r.bits.toNat_lt
  unfold rate
  rw [div_lt_iff₀ (by positivity)]
  linarith

theorem eq_of_toNat_bits (h : a.bits.toNat = b.bits.toNat) : a = b := by
  cases a
  cases b
  exact congrArg mk (UInt32.toNat_inj.mp h)

/-- On the grid the significand has zeros only below the register. -/
theorem significand_of_rate {m k : Nat} (h : (m : ℚ) / (2 ^ 52 * 2 ^ k) = r.rate) :
    m = r.bits.toNat * 0x200000 * 2 ^ k := by
  have hpos : (0 : ℚ) < 2 ^ k := by positivity
  unfold rate at h
  rw [div_eq_iff (by positivity)] at h
  have hq : (m : ℚ) = r.bits.toNat * 0x200000 * 2 ^ k := by
    rw [h]
    ring
  exact_mod_cast hq

section Halves

variable {m : Nat} {e : Int} {hm : 0 < m}

/-- The sum with one needs no rounding, so that the fraction is read off the
    bits that were there. -/
theorem encode_of_rate_lt_one (hu : x.toModel.unpack = .finite .positive m e hm)
    (hc : Canonical m e) (hrange : 0 < x ∧ x < 2) (hlow : x < 1) (hrate : r.rate = m * 2 ^ e)
    (hone : r.rate < 1) : encode x = .ok r := by
  rw [hrate] at hone
  have hexponent := exponent_of_lt_one hc hone
  obtain ⟨k, hk⟩ : ∃ k : Nat, e = -52 - k := ⟨(-52 - e).toNat, by omega⟩
  have hscaled := @scaled_eq_div m e k hk
  have hbelow : m < 2 ^ 52 * 2 ^ k := by
    rw [hscaled, div_lt_one (by positivity)] at hone
    exact_mod_cast hone
  have hgrid := significand_of_rate (hscaled.symm.trans hrate.symm)
  obtain ⟨reg, hencode, hreg⟩ := encode_of_lt_one hu hk hbelow hrange hlow
  rw [hgrid, Binary64.nearest_mul .toEven _ (by positivity)] at hreg
  have hbits : r.bits.toNat * 0x200000 < 2 ^ 52 := by
    rw [hgrid] at hbelow
    exact Nat.lt_of_mul_lt_mul_right hbelow
  have hsame : reg = r := eq_of_toNat_bits (by omega)
  rw [hencode, hsame]

/-- From one upwards the bits of the double are the word, the leading one
    included. -/
theorem encode_of_one_le_rate (hu : x.toModel.unpack = .finite .positive m e hm)
    (hc : Canonical m e) (hrange : 0 < x ∧ x < 2) (hlow : ¬x < 1) (hrate : r.rate = m * 2 ^ e)
    (hone : 1 ≤ r.rate) : encode x = .ok r := by
  have htwo := r.rate_lt_two
  rw [hrate] at hone htwo
  obtain rfl := exponent_of_one_le hc hone htwo
  have hscaled := @scaled_eq_div m (-52) 0 (by decide)
  have hgrid := significand_of_rate (hscaled.symm.trans hrate.symm)
  obtain ⟨reg, hencode, hreg⟩ := encode_of_one_le hu hc (by decide) hrange hlow
  have hsame : reg = r := eq_of_toNat_bits (by omega)
  rw [hencode, hsame]

end Halves

/-- A rate on the grid is encoded as its own word, whatever double stands for
    it. -/
theorem encode_of_rate (hx : (ofFloat x).value? = some r.rate) (hr : r.bits ≠ 0) :
    encode x = .ok r := by
  have hrange : 0 < x ∧ x < 2 := (inRange_iff hx).mpr ⟨rate_pos hr, rate_lt_two r⟩
  have hone : x < 1 ↔ r.rate < 1 := Binary64.lt_iff_value hx value?_one
  obtain ⟨m, e, hm, hu, hc, hrate⟩ := exists_unpack hx (rate_pos hr)
  by_cases hlow : x < 1
  · exact encode_of_rate_lt_one hu hc hrange hlow hrate (hone.mp hlow)
  · have hle : 1 ≤ r.rate := not_lt.mp fun h => hlow (hone.mpr h)
    exact encode_of_one_le_rate hu hc hrange hlow hrate hle

theorem encode_decode_zero (hr : r.bits = 0) : encode r.decode = .error (.ratio r.decode) := by
  have hzero : r.rate = 0 := by
    unfold rate
    rw [hr]
    norm_num
  rw [encode, if_neg]
  intro hrange
  have hpos := ((inRange_iff (value?_decode r)).mp hrange).1
  rw [hzero] at hpos
  exact lt_irrefl 0 hpos

/-- Decoding is exact and keeps the order of the words, and encoding undoes
    it, below one, at one and above; only zero is refused.  So every word but
    zero is the word of some rate, and different rates on the grid have
    different words. -/
theorem encode_decode_grid :
    (∀ r : RateRegister, (ofFloat r.decode).value? = some r.rate ∧
      encode r.decode = if r.bits = 0 then .error (.ratio r.decode) else .ok r) ∧
    (∀ a b : RateRegister, a.decode < b.decode ↔ a.bits < b.bits) ∧
    ∀ (x y : Float) (a b : RateRegister), (ofFloat x).value? = some a.rate →
      (ofFloat y).value? = some b.rate → a.bits ≠ 0 → b.bits ≠ 0 →
        encode x = .ok a ∧ (encode x = encode y → a = b) := by
  refine ⟨?_, ?_, ?_⟩
  · intro r
    refine ⟨value?_decode r, ?_⟩
    split
    · next hr => exact encode_decode_zero hr
    · next hr => exact encode_of_rate (value?_decode r) hr
  · intro a b
    rw [Binary64.lt_iff_value (value?_decode a) (value?_decode b), rate_lt_iff]
  · intro x y a b hx hy ha hb
    have hencode := encode_of_rate hx ha
    refine ⟨hencode, ?_⟩
    intro hsame
    rw [hencode, encode_of_rate hy hb] at hsame
    exact Except.ok.inj hsame

/-- Three quarters, and the next rate above nominal. -/
theorem encode_decode_grid_bothSides :
    encode (decode ⟨0x60000000⟩) = .ok ⟨0x60000000⟩ ∧
      encode (decode ⟨0x80000001⟩) = .ok ⟨0x80000001⟩ ∧
      encode (decode ⟨0x60000000⟩) ≠ encode (decode ⟨0x80000001⟩) := by
  obtain ⟨hdecode, -, hgrid⟩ := encode_decode_grid
  have hbelow := (hdecode ⟨0x60000000⟩).1
  have habove := (hdecode ⟨0x80000001⟩).1
  obtain ⟨hlow, hdistinct⟩ := hgrid _ _ _ _ hbelow habove (by decide) (by decide)
  obtain ⟨hhigh, -⟩ := hgrid _ _ _ _ habove hbelow (by decide) (by decide)
  have hne : (⟨0x60000000⟩ : RateRegister) ≠ ⟨0x80000001⟩ := by decide
  refine ⟨hlow, hhigh, ?_⟩
  intro hsame
  exact hne (hdistinct hsame)

end RateRegister

end ClockDiscipline
