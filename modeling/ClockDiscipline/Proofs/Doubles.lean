/-
  ClockDiscipline/Proofs/Doubles.lean
  ===================================
  **Doubles are ordered as the numbers they stand for.**

  A double is taken apart in two ways: by `Binary64.ofBits`, in plain
  arithmetic on the word, and by the machine's model of floating point, which
  decides `<` and `+`.  `ofFloat_eq_ofUnpacked` says that both find the same
  sign, significand and exponent, so that a comparison of doubles can be read
  as a comparison of rational numbers (`lt_iff_value`).
-/
import ClockDiscipline.Decimal.Binary64
import Mathlib

namespace ClockDiscipline

open Float.Model (UnpackedFloat Format)
open Float.Model.UnpackedFloat

namespace Binary64

/-- The number that a finite double stands for. -/
def value? : Binary64 → Option ℚ
  | .finite negative significand exponent =>
    some ((if negative then -1 else 1) * significand * 2 ^ exponent)
  | _ => none

/-- The parts that the model of floating point works on. -/
def ofUnpacked : UnpackedFloat → Binary64
  | .notANumber => .nan
  | .infinity s => .infinite (s == .negative)
  | .zero s => .finite (s == .negative) 0 (-1074)
  | .finite s m e _ => .finite (s == .negative) m e

section Values

variable {m : Nat} {e : Int} {hm : 0 < m}

@[simp]
theorem value?_nan : (ofUnpacked .notANumber).value? = none := rfl

@[simp]
theorem value?_infinity {s : Sign} : (ofUnpacked (.infinity s)).value? = none := rfl

@[simp]
theorem value?_zero {s : Sign} : (ofUnpacked (.zero s)).value? = some 0 := by
  simp [ofUnpacked, value?]

@[simp]
theorem value?_positive :
    (ofUnpacked (.finite .positive m e hm)).value? = some ((m : ℚ) * 2 ^ e) := by
  simp [ofUnpacked, value?]

@[simp]
theorem value?_negative :
    (ofUnpacked (.finite .negative m e hm)).value? = some (-((m : ℚ) * 2 ^ e)) := by
  simp [ofUnpacked, value?]

end Values

/-! ### Two ways to take a word apart -/

section Fields

variable (w : UInt64)

theorem toNat_unpackExponent :
    (@unpackExponent Format.binary64 w.toBitVec).toNat =
      w.toNat / 0x10000000000000 % 2048 := by
  rw [unpackExponent_def, BitVec.extractLsb'_toNat, Nat.shiftRight_eq_div_pow]
  rfl

theorem toNat_unpackMantissa :
    (@unpackMantissa Format.binary64 w.toBitVec).toNat = w.toNat % 0x10000000000000 := by
  rw [unpackMantissa_def, BitVec.extractLsb'_toNat, Nat.shiftRight_zero]
  rfl

theorem unpackSign_eq_negative :
    (Sign.ofBitVec (@unpackSign Format.binary64 w.toBitVec) == .negative) =
      decide (0x8000000000000000 ≤ w.toNat) := by
  have hlt := w.toNat_lt
  have hbit : (@unpackSign Format.binary64 w.toBitVec).toNat =
      w.toNat / 0x8000000000000000 := by
    rw [unpackSign_def, BitVec.extractLsb'_toNat, Nat.shiftRight_eq_div_pow]
    show w.toNat / 0x8000000000000000 % 2 = w.toNat / 0x8000000000000000
    omega
  by_cases h : 0x8000000000000000 ≤ w.toNat
  · have hone : @unpackSign Format.binary64 w.toBitVec = 1#1 :=
      BitVec.eq_of_toNat_eq (by rw [hbit]; show _ = 1; omega)
    simp [hone, h, Sign.ofBitVec]
  · have hzero : @unpackSign Format.binary64 w.toBitVec = 0#1 :=
      BitVec.eq_of_toNat_eq (by rw [hbit]; show _ = 0; omega)
    simp [hzero, h, Sign.ofBitVec]

end Fields

theorem toNat_append_one (f : BitVec 52) : (1#1 ++ f).toNat = 0x10000000000000 + f.toNat := by
  rw [BitVec.toNat_append, ← Nat.shiftLeft_add_eq_or_of_lt f.isLt]
  rfl

theorem ofFloat_eq_ofUnpacked (x : Float) : ofFloat x = ofUnpacked x.toModel.unpack := by
  obtain ⟨⟨w, hw⟩⟩ := x
  show ofBits w = ofUnpacked (UnpackedFloat.unpack Format.binary64 w.toBitVec)
  have hexponent := toNat_unpackExponent w
  have hmantissa := toNat_unpackMantissa w
  have hsign := unpackSign_eq_negative w
  have hall : @unpackExponent Format.binary64 w.toBitVec = -1#11 ↔
      w.toNat / 0x10000000000000 % 2048 = 2047 := by
    rw [← hexponent, ← BitVec.toNat_inj]
    rfl
  have hnone : @unpackExponent Format.binary64 w.toBitVec = 0#11 ↔
      w.toNat / 0x10000000000000 % 2048 = 0 := by
    rw [← hexponent, ← BitVec.toNat_inj]
    rfl
  have hwhole : @unpackMantissa Format.binary64 w.toBitVec = 0#52 ↔
      w.toNat % 0x10000000000000 = 0 := by
    rw [← hmantissa, ← BitVec.toNat_inj]
    rfl
  unfold UnpackedFloat.unpack ofBits
  simp only [hall, hnone, hwhole]
  by_cases htop : w.toNat / 0x10000000000000 % 2048 = 2047
  · by_cases hzero : w.toNat % 0x10000000000000 = 0
    · simp only [if_pos htop, if_pos hzero, ofUnpacked, hsign]
    · simp only [if_pos htop, if_neg hzero, ofUnpacked]
  · by_cases hlow : w.toNat / 0x10000000000000 % 2048 = 0
    · by_cases hzero : w.toNat % 0x10000000000000 = 0
      · simp only [if_neg htop, if_pos hlow, dif_pos hzero, ofUnpacked, hsign]
        rw [hzero]
      · simp only [if_neg htop, if_pos hlow, dif_neg hzero, ofUnpacked, hsign, hmantissa,
          hexponent]
        rw [hlow]
        rfl
    · simp only [if_neg htop, if_neg hlow, ofUnpacked, hsign, toNat_append_one, hmantissa,
        hexponent]
      rfl

/-! ### The order -/

/-- A significand of 53 bits, of which the leading one is set unless the
    exponent is the least there is. -/
structure Canonical (significand : Nat) (exponent : Int) : Prop where
  bounded : significand < 0x20000000000000
  least : -1074 ≤ exponent
  leading : 0x10000000000000 ≤ significand ∨ exponent = -1074

theorem canonical_of_ofBits {w : UInt64} {negative : Bool} {m : Nat} {e : Int}
    (h : ofBits w = .finite negative m e) : Canonical m e := by
  have hfraction : w.toNat % 0x10000000000000 < 0x10000000000000 := Nat.mod_lt _ (by decide)
  unfold ofBits at h
  dsimp only at h
  split at h
  · split at h <;> cases h
  · split at h
    · cases h
      exact ⟨by omega, by omega, .inr rfl⟩
    · cases h
      exact ⟨by omega, by omega, .inl (by omega)⟩

/-- Only the hidden bit of the significand is not in the word. -/
theorem toNat_mod_of_ofBits {w : UInt64} {negative : Bool} {m : Nat} {e : Int}
    (h : ofBits w = .finite negative m e) :
    w.toNat % 0x10000000000000 = m % 0x10000000000000 := by
  unfold ofBits at h
  dsimp only at h
  split at h
  · split at h <;> cases h
  · split at h <;> cases h <;> omega

theorem canonical_of_unpack {x : Float} {s : Sign} {m : Nat} {e : Int} {hm : 0 < m}
    (h : x.toModel.unpack = .finite s m e hm) : Canonical m e := by
  have hfloat := ofFloat_eq_ofUnpacked x
  rw [h] at hfloat
  exact canonical_of_ofBits hfloat

section Magnitudes

variable {m m' : Nat} {e e' : Int}

theorem swap_compare_then : ((compare e e').then (compare m m')).swap =
    (compare e' e).then (compare m' m) := by
  rw [Ordering.swap_then, ← Std.OrientedCmp.eq_swap, ← Std.OrientedCmp.eq_swap]

theorem Canonical.scaled_lt_two_pow (h : Canonical m e) : (m : ℚ) * 2 ^ e < 2 ^ (53 + e) := by
  have hm : (m : ℚ) < 0x20000000000000 := by exact_mod_cast h.bounded
  have hpos : (0 : ℚ) < 2 ^ e := by positivity
  rw [zpow_add₀ two_ne_zero]
  calc (m : ℚ) * 2 ^ e < 0x20000000000000 * 2 ^ e := mul_lt_mul_of_pos_right hm hpos
    _ = 2 ^ (53 : ℤ) * 2 ^ e := by norm_num

theorem Canonical.two_pow_le_scaled (h : Canonical m e) (he : -1074 < e) :
    2 ^ (52 + e) ≤ (m : ℚ) * 2 ^ e := by
  have hm : (0x10000000000000 : ℚ) ≤ m := by
    rcases h.leading with hleading | hlow
    · exact_mod_cast hleading
    · omega
  rw [zpow_add₀ two_ne_zero]
  calc (2 : ℚ) ^ (52 : ℤ) * 2 ^ e = 0x10000000000000 * 2 ^ e := by norm_num
    _ ≤ m * 2 ^ e := by gcongr

theorem Canonical.scaled_lt (h : Canonical m e) (h' : Canonical m' e') (he : e < e') :
    (m : ℚ) * 2 ^ e < m' * 2 ^ e' := by
  have hleast := h.least
  calc (m : ℚ) * 2 ^ e < 2 ^ (53 + e) := h.scaled_lt_two_pow
    _ ≤ 2 ^ (52 + e') := zpow_le_zpow_right₀ one_le_two (by omega)
    _ ≤ m' * 2 ^ e' := h'.two_pow_le_scaled (by omega)

/-- Canonical doubles are ordered by exponent first and significand second. -/
theorem Canonical.scaled_lt_iff (h : Canonical m e) (h' : Canonical m' e') :
    (m : ℚ) * 2 ^ e < m' * 2 ^ e' ↔ (compare e e').then (compare m m') = .lt := by
  rcases lt_trichotomy e e' with he | rfl | he
  · have hcompare : compare e e' = .lt := compare_lt_iff_lt.mpr he
    simp [hcompare, h.scaled_lt h' he]
  · have hpos : (0 : ℚ) < 2 ^ e := by positivity
    rw [mul_lt_mul_iff_of_pos_right hpos, Nat.cast_lt, compare_eq_iff_eq.mpr rfl]
    exact compare_lt_iff_lt.symm
  · have hcompare : compare e e' = .gt := compare_gt_iff_gt.mpr he
    simp [hcompare, (h'.scaled_lt h he).le]

end Magnitudes

theorem lt_iff_compare {x y : Float} :
    x < y ↔ x.toModel.unpack.compare y.toModel.unpack = some .lt := by
  show decide (x.toModel < y.toModel) = true ↔ _
  rw [decide_eq_true_iff]
  exact beq_iff_eq

theorem le_iff_compare {x y : Float} :
    x ≤ y ↔ (x.toModel.unpack.compare y.toModel.unpack).any (·.isLE) = true := by
  show decide (x.toModel ≤ y.toModel) = true ↔ _
  rw [decide_eq_true_iff]
  exact Iff.rfl

/-- Finite doubles are compared as the numbers they stand for. -/
theorem lt_iff_value {x y : Float} {a b : ℚ} (ha : (ofFloat x).value? = some a)
    (hb : (ofFloat y).value? = some b) : x < y ↔ a < b := by
  rw [ofFloat_eq_ofUnpacked] at ha hb
  rw [lt_iff_compare]
  have hcanonical : ∀ {s m e hm}, x.toModel.unpack = .finite s m e hm → Canonical m e :=
    canonical_of_unpack
  have hcanonical' : ∀ {s m e hm}, y.toModel.unpack = .finite s m e hm → Canonical m e :=
    canonical_of_unpack
  generalize x.toModel.unpack = u at ha hcanonical
  generalize y.toModel.unpack = v at hb hcanonical'
  cases u with
  | notANumber => simp at ha
  | infinity s => simp at ha
  | zero s =>
    obtain rfl : 0 = a := by simpa using ha
    cases v with
    | notANumber => simp at hb
    | infinity s' => simp at hb
    | zero s' =>
      obtain rfl : 0 = b := by simpa using hb
      simp [UnpackedFloat.compare]
    | finite s' m' e' hm' =>
      have hpos : (0 : ℚ) < m' * 2 ^ e' := by positivity
      cases s' with
      | positive =>
        obtain rfl : m' * 2 ^ e' = b := by simpa using hb
        simp [UnpackedFloat.compare, hpos]
      | negative =>
        obtain rfl : -(m' * 2 ^ e') = b := by simpa using hb
        simp [UnpackedFloat.compare, hpos.le]
  | finite s m e hm =>
    have hpos : (0 : ℚ) < m * 2 ^ e := by positivity
    cases v with
    | notANumber => simp at hb
    | infinity s' => simp at hb
    | zero s' =>
      obtain rfl : 0 = b := by simpa using hb
      cases s with
      | positive =>
        obtain rfl : m * 2 ^ e = a := by simpa using ha
        simp [UnpackedFloat.compare, hpos.le]
      | negative =>
        obtain rfl : -(m * 2 ^ e) = a := by simpa using ha
        simp [UnpackedFloat.compare, hpos]
    | finite s' m' e' hm' =>
      have hpos' : (0 : ℚ) < m' * 2 ^ e' := by positivity
      cases s with
      | positive =>
        obtain rfl : m * 2 ^ e = a := by simpa using ha
        cases s' with
        | positive =>
          obtain rfl : m' * 2 ^ e' = b := by simpa using hb
          rw [(hcanonical rfl).scaled_lt_iff (hcanonical' rfl)]
          simp [UnpackedFloat.compare]
        | negative =>
          obtain rfl : -(m' * 2 ^ e') = b := by simpa using hb
          have hnot : ¬(m : ℚ) * 2 ^ e < -(m' * 2 ^ e') := by linarith
          simp only [UnpackedFloat.compare, hnot, iff_false]
          decide
      | negative =>
        obtain rfl : -(m * 2 ^ e) = a := by simpa using ha
        cases s' with
        | positive =>
          obtain rfl : m' * 2 ^ e' = b := by simpa using hb
          have hlt : -((m : ℚ) * 2 ^ e) < m' * 2 ^ e' := by linarith
          simp only [UnpackedFloat.compare, hlt]
        | negative =>
          obtain rfl : -(m' * 2 ^ e') = b := by simpa using hb
          -- The larger magnitude is the smaller number.
          rw [neg_lt_neg_iff, (hcanonical' rfl).scaled_lt_iff (hcanonical rfl),
            ← swap_compare_then]
          simp only [UnpackedFloat.compare, Option.some.injEq]

/-- What lies between two finite doubles is finite. -/
theorem exists_value_of_between {x y z : Float} {a c : ℚ} (ha : (ofFloat x).value? = some a)
    (hc : (ofFloat z).value? = some c) (hxy : x < y) (hyz : y < z) :
    ∃ b, (ofFloat y).value? = some b := by
  rw [ofFloat_eq_ofUnpacked] at ha hc ⊢
  rw [lt_iff_compare] at hxy hyz
  cases hy : y.toModel.unpack with
  | notANumber => cases hu : x.toModel.unpack <;> simp [hy, hu, UnpackedFloat.compare] at hxy
  | infinity s =>
    cases s with
    | positive =>
      cases hw : z.toModel.unpack <;> simp [hy, hw, UnpackedFloat.compare] at hyz hc
    | negative =>
      cases hu : x.toModel.unpack <;> simp [hy, hu, UnpackedFloat.compare] at hxy ha
  | zero s => exact ⟨0, value?_zero⟩
  | finite s m e hm =>
    cases s with
    | positive => exact ⟨_, value?_positive⟩
    | negative => exact ⟨_, value?_negative⟩

/-! ### Doubles and zero -/

theorem unpack_zero : (0 : Float).toModel.unpack = .zero .positive := rfl

theorem isNaN_eq {x : Float} : x.isNaN = x.toModel.unpack.isNaN := rfl

/-- What is not above zero and yet not at most zero is not a number. -/
theorem zero_lt_iff {x : Float} : 0 < x ↔ ¬x ≤ 0 ∧ x.isNaN = false := by
  rw [lt_iff_compare, le_iff_compare, isNaN_eq, unpack_zero]
  cases x.toModel.unpack with
  | notANumber => simp [UnpackedFloat.compare, UnpackedFloat.isNaN]
  | infinity s => cases s <;> decide
  | zero s => simp [UnpackedFloat.compare]
  | finite s m e hm => cases s <;> simp [UnpackedFloat.compare, UnpackedFloat.isNaN]

theorem zero_le_iff {x : Float} : 0 ≤ x ↔ ¬x < 0 ∧ x.isNaN = false := by
  rw [lt_iff_compare, le_iff_compare, isNaN_eq, unpack_zero]
  cases x.toModel.unpack with
  | notANumber => simp [UnpackedFloat.compare, UnpackedFloat.isNaN]
  | infinity s => cases s <;> decide
  | zero s => simp [UnpackedFloat.compare, UnpackedFloat.isNaN]
  | finite s m e hm => cases s <;> simp [UnpackedFloat.compare, UnpackedFloat.isNaN]

end Binary64

end ClockDiscipline
