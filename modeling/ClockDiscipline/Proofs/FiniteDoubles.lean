/-
  ClockDiscipline/Proofs/FiniteDoubles.lean
  =========================================
  **Which operations on doubles give a number again.**

  A sum or a product of finite doubles may become infinite, but it takes an
  infinity to get something that is not a number.  So what is computed from
  finite doubles is a number as long as every operation has a finite operand
  (`isNaN_finite_add`, `isNaN_mul_of_pos`), and numbers are ordered, so that
  bounds can bring it back into the finite (`isFinite_of_le_of_le`).  A whole
  number of up to 53 bits is a double, because no rounding on the way drops a
  bit that is set (`round_mul_two_pow`, `unpack_ofNat`); a larger word is a
  finite one because rounding raises an exponent by one at most (`Within`).
-/
import ClockDiscipline.Proofs.Rounding
import Mathlib

namespace ClockDiscipline

open Float.Model (UnpackedFloat Format totalExponent)
open Float.Model.UnpackedFloat

namespace Binary64

/-- Zero, or a number whose exponent is at most `bound`. -/
inductive Within (bound : Int) : UnpackedFloat → Prop
  | zero (s : Sign) : Within bound (.zero s)
  | finite (s : Sign) (m : Nat) (e : Int) (hm : 0 < m) : e ≤ bound → Within bound (.finite s m e hm)

/-! ### Packing -/

section Packing

variable {u : UnpackedFloat} {s : Sign} {m : Nat} {e bound bound' : Int} {hm : 0 < m}

theorem Within.mono (h : Within bound u) (hle : bound ≤ bound') : Within bound' u := by
  cases h with
  | zero s => exact .zero s
  | finite s m e hm he => exact .finite s m e hm (he.trans hle)

theorem Within.isFinite (h : Within bound u) : u.isFinite = true := by
  cases h <;> rfl

theorem isNaN_of_isFinite (h : u.isFinite = true) : u.isNaN = false := by
  cases u with
  | notANumber => cases h
  | _ => rfl

theorem within_unpack_packComponents {exponent : BitVec 11} {mantissa : BitVec 52}
    (h : exponent ≠ -1#11) :
    Within (max (exponent.toNat - 1075) (-1074))
      (UnpackedFloat.unpack Format.binary64
        (packComponents Format.binary64 s exponent mantissa)) := by
  unfold UnpackedFloat.unpack
  simp only [unpackExponent_packComponents, unpackMantissa_packComponents]
  rw [if_neg h]
  split
  · next hzero =>
    split
    · exact .zero _
    · refine .finite _ _ _ _ ?_
      rw [hzero]
      show (0 : Int) - 1075 + 1 ≤ _
      exact le_max_of_le_right (by decide)
  · exact .finite _ _ _ _ (le_max_left _ _)

theorem toNat_biased (h : e ≤ 971) :
    (BitVec.ofNat 11 (e + 1075).toNat).toNat = (e + 1075).toNat := by
  rw [BitVec.toNat_ofNat, Nat.mod_eq_of_lt (by omega)]

theorem biased_ne_last (h : e ≤ 971) : BitVec.ofNat 11 (e + 1075).toNat ≠ -1#11 := by
  rw [← BitVec.toNat_inj.ne, toNat_biased h]
  show (e + 1075).toNat ≠ 2047
  omega

theorem within_unpack_pack (h : e ≤ 971) :
    Within (max e (-1074)) (Float.Model.pack (.finite s m e hm)).unpack := by
  show Within _ (UnpackedFloat.unpack Format.binary64 (UnpackedFloat.pack Format.binary64 _))
  rw [pack_of_le h]
  split
  · refine (within_unpack_packComponents (biased_ne_last h)).mono ?_
    rw [toNat_biased h]
    omega
  · exact (within_unpack_packComponents (by decide)).mono (by rw [BitVec.toNat_ofNat]; omega)

theorem Within.unpack_pack (h : Within bound u) (hlow : -1074 ≤ bound) (hhigh : bound ≤ 971) :
    Within bound (Float.Model.pack u).unpack := by
  cases h with
  | zero s => cases s <;> exact .zero _
  | finite s m e hm he => exact (within_unpack_pack (he.trans hhigh)).mono (max_le he hlow)

/-- What is too large for a double is packed as an infinity. -/
theorem unpack_pack_of_large (h : 971 < e) :
    (Float.Model.pack (.finite s m e hm)).unpack = .infinity s := by
  show UnpackedFloat.unpack Format.binary64 (UnpackedFloat.pack Format.binary64 _) = _
  have hrange : 2 ^ Format.binary64.exponentBits ≤
      (e + Format.binary64.exponentBias +
        Format.binary64.mantissaBitsWithoutImplicit).toNat + 1 := by
    show 2048 ≤ (e + 1023 + 52).toNat + 1
    omega
  unfold UnpackedFloat.pack
  rw [if_pos hrange]
  cases s <;> rfl

theorem isNaN_unpack_pack (h : u.isNaN = false) : (Float.Model.pack u).unpack.isNaN = false := by
  cases u with
  | notANumber => cases h
  | infinity s => cases s <;> rfl
  | zero s => cases s <;> rfl
  | finite s m e hm =>
    by_cases hlarge : 971 < e
    · rw [unpack_pack_of_large hlarge]
      rfl
    · exact isNaN_of_isFinite (within_unpack_pack (not_lt.mp hlarge)).isFinite

theorem unpackSign_packComponents {format : Format} {exponent mantissa} :
    unpackSign (packComponents format s exponent mantissa) = s.toBitVec := by
  ext i hi
  obtain rfl : i = 0 := by omega
  simp [unpackSign, packComponents, BitVec.getLsbD_eq_getElem, BitVec.getLsbD_append,
    BitVec.getElem_append]

theorem ofBitVec_toBitVec : Sign.ofBitVec s.toBitVec = s := by
  cases s <;> rfl

/-- A double survives being packed and taken apart again. -/
theorem unpack_pack (h : Canonical m e) (he : e ≤ 971) :
    (Float.Model.pack (.finite s m e hm)).unpack = .finite s m e hm := by
  have hbounded := h.bounded
  have hleast := h.least
  have hmantissa : (BitVec.ofNat 52 m).toNat = m % 0x10000000000000 := BitVec.toNat_ofNat ..
  have hlog : m.log2 = 52 ↔ 0x10000000000000 ≤ m := by
    rw [Nat.log2_eq_iff hm.ne']
    exact and_iff_left hbounded
  show UnpackedFloat.unpack Format.binary64 (UnpackedFloat.pack Format.binary64 _) = _
  rw [pack_of_le he]
  split
  · next hnormal =>
    have hlow := hlog.mp hnormal
    have hsome : BitVec.ofNat 11 (e + 1075).toNat ≠ 0#11 := by
      rw [← BitVec.toNat_inj.ne, toNat_biased he]
      show (e + 1075).toNat ≠ 0
      omega
    unfold UnpackedFloat.unpack
    simp only [unpackExponent_packComponents, unpackMantissa_packComponents,
      unpackSign_packComponents, ofBitVec_toBitVec]
    refine (if_neg (biased_ne_last he)).trans ((if_neg hsome).trans ?_)
    congr 1
    · rw [toNat_append_one, hmantissa]
      omega
    · show ((BitVec.ofNat 11 (e + 1075).toNat).toNat : Int) - (1023 + 52) = e
      rw [toNat_biased he]
      omega
  · next hsubnormal =>
    have hlow : ¬0x10000000000000 ≤ m := fun hle => hsubnormal (hlog.mpr hle)
    obtain rfl : e = -1074 := h.leading.resolve_left hlow
    have hsome : BitVec.ofNat 52 m ≠ 0#52 := by
      rw [← BitVec.toNat_inj.ne, hmantissa]
      show m % 0x10000000000000 ≠ 0
      omega
    unfold UnpackedFloat.unpack
    simp only [unpackExponent_packComponents, unpackMantissa_packComponents,
      unpackSign_packComponents, ofBitVec_toBitVec]
    refine (if_neg (by decide)).trans ((if_pos trivial).trans ((dif_neg hsome).trans ?_))
    congr 1
    rw [hmantissa]
    omega

end Packing

/-! ### Negation -/

theorem exponent_le_of_ofBits {w : UInt64} {negative : Bool} {m : Nat} {e : Int}
    (h : ofBits w = .finite negative m e) : e ≤ 971 := by
  unfold ofBits at h
  dsimp only at h
  split at h
  · split at h <;> cases h
  · split at h
    · cases h
      decide
    · cases h
      omega

theorem exponent_le_of_unpack {x : Float} {s : Sign} {m : Nat} {e : Int} {hm : 0 < m}
    (h : x.toModel.unpack = .finite s m e hm) : e ≤ 971 := by
  have hfloat := ofFloat_eq_ofUnpacked x
  rw [h] at hfloat
  exact exponent_le_of_ofBits hfloat

theorem unpack_neg (x : Float) : (-x).toModel.unpack = x.toModel.unpack.neg := by
  show (Float.Model.pack x.toModel.unpack.neg).unpack = _
  cases h : x.toModel.unpack with
  | notANumber => rfl
  | infinity s => cases s <;> rfl
  | zero s => cases s <;> rfl
  | finite s m e hm => exact unpack_pack (canonical_of_unpack h) (exponent_le_of_unpack h)

/-! ### Rounding -/

section Rounding

variable {s : Sign} {m : Nat} {e bound : Int} {accuracy : Accuracy}

theorem roundedMantissa_le (em : ExtendedMantissa) : em.roundedMantissa ≤ em.mantissa + 1 := by
  obtain ⟨m, round, sticky⟩ := em
  have hodd : m % 2 ≤ 1 := by omega
  cases round <;> cases sticky <;>
    simp [ExtendedMantissa.roundedMantissa, ExtendedMantissa.accuracy,
      Accuracy.roundToNearestEven, hodd]

theorem mantissa_shiftRight (em : ExtendedMantissa) (k : Nat) :
    (em >>> k).mantissa = em.mantissa / 2 ^ k := by
  show (Nat.repeat ExtendedMantissa.shiftRightOne k em).mantissa = _
  induction k with
  | zero => simp [Nat.repeat]
  | succ k ih =>
    rw [Nat.pow_succ, ← Nat.div_div_eq_div_mul, ← ih]
    rfl

theorem mantissa_ofMantissaAndAccuracy :
    (ExtendedMantissa.ofMantissaAndAccuracy m accuracy).mantissa = m := by
  cases accuracy with
  | exact => rfl
  | inexact relation => cases relation <;> rfl

/-- Shifting to the target leaves at most 53 bits. -/
theorem shiftToTargetExponent_fst_lt :
    (shiftToTargetExponent Format.binary64 m e accuracy).1.mantissa < 2 ^ 53 := by
  show (_ >>> _ : ExtendedMantissa).mantissa < _
  rw [mantissa_shiftRight, mantissa_ofMantissaAndAccuracy, Nat.div_lt_iff_lt_mul (by positivity),
    ← pow_add]
  refine lt_of_lt_of_le Nat.lt_log2_self (Nat.pow_le_pow_right (by decide) ?_)
  show m.log2 + 1 ≤ 53 + (max ((m.log2 : Int) + 1 + e - 53) (-1074) - e).toNat
  omega

theorem shiftToTargetExponent_snd :
    (shiftToTargetExponent Format.binary64 m e accuracy).2 =
      max e (max (totalExponent m e - 53) (-1074)) := by
  show e + ((max (totalExponent m e - 53) (-1074) - e).toNat : Int) = _
  omega

/-- Rounding raises the exponent by one at most, when it carries into a new bit. -/
theorem within_roundWithAccuracy (he : e < bound) (htotal : totalExponent m e < bound + 53)
    (hbound : -1074 < bound) :
    Within bound (roundWithAccuracy Format.binary64 s m e accuracy) := by
  have hshifted := @shiftToTargetExponent_fst_lt m e accuracy
  have hexponent := @shiftToTargetExponent_snd m e accuracy
  unfold roundWithAccuracy
  dsimp only
  generalize shiftToTargetExponent Format.binary64 m e accuracy = first at *
  have hrounded := roundedMantissa_le first.1
  have hexponent' := @shiftToTargetExponent_snd first.1.roundedMantissa first.2 .exact
  have hlog : first.1.roundedMantissa.log2 ≤ 53 := by
    by_cases hzero : first.1.roundedMantissa = 0
    · rw [hzero]
      decide
    · exact Nat.le_of_lt_succ ((Nat.log2_lt hzero).mpr (by omega))
  split
  · exact .zero s
  · refine .finite _ _ _ _ ?_
    rw [hexponent']
    unfold totalExponent at *
    omega

theorem isNaN_roundWithAccuracy :
    (roundWithAccuracy Format.binary64 s m e accuracy).isNaN = false := by
  unfold roundWithAccuracy
  dsimp only
  split <;> rfl

theorem isNaN_normalize {n : Int} :
    (UnpackedFloat.normalize Format.binary64 n e s).isNaN = false := by
  unfold UnpackedFloat.normalize
  split
  · exact isNaN_roundWithAccuracy
  · rfl
  · exact isNaN_roundWithAccuracy

theorem log2_shiftLeft (hm : 0 < m) (k : Nat) : (m <<< k).log2 = m.log2 + k := by
  rw [Nat.shiftLeft_eq, Nat.log2_eq_iff (by positivity)]
  have hlow := Nat.log2_self_le hm.ne'
  have hhigh := @Nat.lt_log2_self m
  constructor
  · rw [pow_add]
    gcongr
  · rw [show m.log2 + k + 1 = m.log2 + 1 + k by omega, pow_add]
    gcongr

end Rounding

/-! ### Rounding that drops nothing -/

section Exact

variable {s : Sign} {m k : Nat} {e : Int}

theorem log2_mul_two_pow (hlow : 2 ^ 52 ≤ m) (hhigh : m < 2 ^ 53) (k : Nat) :
    (m * 2 ^ k).log2 = 52 + k := by
  have hlog : m.log2 = 52 := (Nat.log2_eq_iff (by omega)).mpr ⟨hlow, hhigh⟩
  rw [← Nat.shiftLeft_eq, log2_shiftLeft (by omega), hlog]

/-- A significand of 53 bits, with nothing but zeros below it, is rounded to
    itself. -/
theorem round_mul_two_pow (hm : 0 < m) (hlow : 2 ^ 52 ≤ m) (hhigh : m < 2 ^ 53)
    (he : -1074 ≤ e + k) :
    roundWithAccuracy Format.binary64 s (m * 2 ^ k) e .exact = .finite s m (e + k) hm := by
  have hlog := log2_mul_two_pow hlow hhigh k
  have hshift : (e - (e + k)).toNat = 0 := by omega
  have hround : UnpackedFloat.round Format.binary64 s (m * 2 ^ k) e =
      roundWithAccuracy Format.binary64 s (m * 2 ^ k) e .exact := by
    unfold UnpackedFloat.round
    simp only [targetExponent_of_log2 hlog he, decreaseExponent, hshift, Nat.shiftLeft_zero,
      Int.natCast_zero, sub_zero]
  obtain ⟨m', e', hm', hrounded, hcases⟩ := round_of_log2 s hlog he
  rw [nearest_mul .toEven m (by positivity)] at hcases
  rw [← hround, hrounded]
  rcases hcases with ⟨rfl, rfl⟩ | ⟨hcarry, -, -⟩
  · rfl
  · omega

/-- A number of up to 53 bits, shifted up until the leading one is set. -/
def shiftedUp (n : Nat) : Nat := n * 2 ^ (52 - n.log2)

theorem shiftedUp_bounds {n : Nat} (hn : 0 < n) (hlog : n.log2 ≤ 52) :
    2 ^ 52 ≤ shiftedUp n ∧ shiftedUp n < 2 ^ 53 := by
  unfold shiftedUp
  constructor
  · calc 2 ^ 52 = 2 ^ n.log2 * 2 ^ (52 - n.log2) := by rw [← pow_add, Nat.add_sub_cancel' hlog]
      _ ≤ n * 2 ^ (52 - n.log2) := Nat.mul_le_mul_right _ (Nat.log2_self_le hn.ne')
  · calc n * 2 ^ (52 - n.log2) < 2 ^ (n.log2 + 1) * 2 ^ (52 - n.log2) :=
          Nat.mul_lt_mul_of_pos_right Nat.lt_log2_self (by positivity)
      _ = 2 ^ 53 := by
          rw [← pow_add]
          congr 1
          omega

theorem round_of_lt (hm : 0 < m) (hlog : m.log2 ≤ 52) :
    ∃ h, UnpackedFloat.round Format.binary64 s m 0 =
      .finite s (shiftedUp m) (m.log2 - 52) h := by
  obtain ⟨hlow, hhigh⟩ := shiftedUp_bounds hm hlog
  have htarget : Format.binary64.targetExponent (totalExponent m 0) = m.log2 - 52 := by
    show max ((m.log2 : Int) + 1 + 0 - 53) (-1074) = m.log2 - 52
    omega
  have hshift : (0 - ((m.log2 : Int) - 52)).toNat = 52 - m.log2 := by omega
  have hexponent : (0 : Int) - (52 - m.log2 : Nat) + (0 : Nat) = m.log2 - 52 := by omega
  have hexact := @round_mul_two_pow s (shiftedUp m) 0 (0 - (52 - m.log2 : Nat)) (by omega) hlow
    hhigh (by omega)
  refine ⟨by omega, ?_⟩
  unfold UnpackedFloat.round
  simp only [htarget, decreaseExponent, hshift, Nat.shiftLeft_eq]
  rw [pow_zero, mul_one] at hexact
  simp only [hexponent] at hexact
  exact hexact

end Exact

/-! ### Arithmetic -/

section Arithmetic

variable {u v : UnpackedFloat} {x y : Float}

theorem isFinite_eq : x.isFinite = x.toModel.unpack.isFinite := rfl

theorem isNaN_neg : (-x).isNaN = x.isNaN := by
  rw [isNaN_eq, isNaN_eq, unpack_neg]
  cases x.toModel.unpack <;> rfl

theorem isFinite_neg : (-x).isFinite = x.isFinite := by
  rw [isFinite_eq, isFinite_eq, unpack_neg]
  cases x.toModel.unpack <;> rfl

/-- A sum is a number unless both summands are infinite. -/
theorem isNaN_unpacked_add (hu : u.isNaN = false) (hv : v.isNaN = false)
    (h : u.isFinite = true ∨ v.isFinite = true) :
    (UnpackedFloat.add Format.binary64 u v).isNaN = false := by
  cases u with
  | notANumber => cases hu
  | infinity s => cases v with
    | notANumber => cases hv
    | infinity s' => rcases h with h | h <;> cases h
    | zero s' | finite s' m' e' hm' => rfl
  | zero s => cases v with
    | notANumber => cases hv
    | zero s' => cases s <;> cases s' <;> rfl
    | infinity s' | finite s' m' e' hm' => rfl
  | finite s m e hm => cases v with
    | notANumber => cases hv
    | infinity s' | zero s' => rfl
    | finite s' m' e' hm' => exact isNaN_normalize

/-- A product is a number unless one factor is infinite and the other one zero. -/
theorem isNaN_unpacked_mul (hu : u.isNaN = false) (hv : v.isFinite = true)
    (h : u.isFinite = true ∨ ∃ s m e hm, v = .finite s m e hm) :
    (UnpackedFloat.mul Format.binary64 u v).isNaN = false := by
  cases v with
  | notANumber | infinity s' => cases hv
  | zero s' => cases u with
    | notANumber => cases hu
    | infinity s => rcases h with h | ⟨_, _, _, _, h⟩ <;> cases h
    | zero s | finite s m e hm => rfl
  | finite s' m' e' hm' => cases u with
    | notANumber => cases hu
    | infinity s | zero s => rfl
    | finite s m e hm => exact isNaN_roundWithAccuracy

theorem isNaN_unpacked_div {s : Sign} {m : Nat} {e : Int} {hm : 0 < m} (hu : u.isNaN = false) :
    (UnpackedFloat.div Format.binary64 u (.finite s m e hm)).isNaN = false := by
  cases u with
  | notANumber => cases hu
  | infinity s' | zero s' => rfl
  | finite s' m' e' hm' => exact isNaN_roundWithAccuracy

/-- A positive finite double as the model of floating point works on it. -/
theorem exists_unpack_of_pos (hpos : 0 < x) (hx : x.isFinite = true) :
    ∃ m e hm, x.toModel.unpack = .finite .positive m e hm := by
  rw [lt_iff_compare, unpack_zero] at hpos
  rw [isFinite_eq] at hx
  generalize x.toModel.unpack = u at *
  cases u with
  | notANumber | infinity s => cases hx
  | zero s => cases hpos
  | finite s m e hm => cases s with
    | positive => exact ⟨m, e, hm, rfl⟩
    | negative => cases hpos

theorem isNaN_finite_add (hx : x.isFinite = true) (hy : y.isNaN = false) :
    (x + y).isNaN = false :=
  isNaN_unpack_pack (isNaN_unpacked_add (isNaN_of_isFinite hx) hy (.inl hx))

theorem isNaN_add_finite (hx : x.isNaN = false) (hy : y.isFinite = true) :
    (x + y).isNaN = false :=
  isNaN_unpack_pack (isNaN_unpacked_add hx (isNaN_of_isFinite hy) (.inr hy))

theorem isNaN_mul (hx : x.isFinite = true) (hy : y.isFinite = true) : (x * y).isNaN = false :=
  isNaN_unpack_pack (isNaN_unpacked_mul (isNaN_of_isFinite hx) hy (.inl hx))

theorem isNaN_mul_of_pos (hx : x.isNaN = false) (hpos : 0 < y) (hy : y.isFinite = true) :
    (x * y).isNaN = false := by
  obtain ⟨m, e, hm, hunpack⟩ := exists_unpack_of_pos hpos hy
  exact isNaN_unpack_pack (isNaN_unpacked_mul hx hy (.inr ⟨_, m, e, hm, hunpack⟩))

theorem isNaN_div_of_pos (hx : x.isNaN = false) (hpos : 0 < y) (hy : y.isFinite = true) :
    (x / y).isNaN = false := by
  obtain ⟨m, e, hm, hunpack⟩ := exists_unpack_of_pos hpos hy
  refine isNaN_unpack_pack (u := UnpackedFloat.div _ x.toModel.unpack y.toModel.unpack) ?_
  rw [hunpack]
  exact isNaN_unpacked_div hx

end Arithmetic

/-! ### Order -/

section Order

variable {u v : UnpackedFloat} {x y z : Float}

theorem compare_swap : v.compare u = (u.compare v).map Ordering.swap := by
  cases u with
  | notANumber => cases v <;> rfl
  | infinity s => cases v with
    | infinity s' => cases s <;> cases s' <;> rfl
    | notANumber | zero _ | finite _ _ _ _ => cases s <;> rfl
  | zero s => cases v with
    | notANumber | zero _ => rfl
    | infinity s' | finite s' _ _ _ => cases s' <;> rfl
  | finite s m e hm => cases v with
    | notANumber => cases s <;> rfl
    | zero _ => cases s <;> rfl
    | infinity s' => cases s' <;> cases s <;> rfl
    | finite s' m' e' hm' => cases s with
      | positive => cases s' with
        | positive => exact congrArg some swap_compare_then.symm
        | negative => rfl
      | negative => cases s' with
        | positive => rfl
        | negative => exact congrArg (fun relation => some relation.swap) swap_compare_then.symm

theorem exists_compare (hu : u.isNaN = false) (hv : v.isNaN = false) :
    ∃ relation, u.compare v = some relation := by
  cases u with
  | notANumber => cases hu
  | infinity s => cases v with
    | notANumber => cases hv
    | infinity s' | zero s' | finite s' _ _ _ => cases s <;> cases s' <;> exact ⟨_, rfl⟩
  | zero s => cases v with
    | notANumber => cases hv
    | infinity s' | zero s' | finite s' _ _ _ => cases s <;> cases s' <;> exact ⟨_, rfl⟩
  | finite s m e hm => cases v with
    | notANumber => cases hv
    | infinity s' | zero s' | finite s' _ _ _ => cases s <;> cases s' <;> exact ⟨_, rfl⟩

theorem le_of_not_lt (hx : x.isNaN = false) (hy : y.isNaN = false) (h : ¬y < x) : x ≤ y := by
  obtain ⟨relation, hrelation⟩ := exists_compare hx hy
  rw [lt_iff_compare, compare_swap, hrelation] at h
  rw [le_iff_compare, hrelation]
  cases relation with
  | lt | eq => rfl
  | gt => exact absurd rfl h

theorem le_refl (hx : x.isNaN = false) : x ≤ x := by
  refine le_of_not_lt hx hx fun h => ?_
  have hswap := compare_swap (u := x.toModel.unpack) (v := x.toModel.unpack)
  rw [lt_iff_compare.mp h] at hswap
  cases hswap

theorem isNaN_of_le_left (h : x ≤ y) : x.isNaN = false := by
  rw [le_iff_compare] at h
  rw [isNaN_eq]
  generalize x.toModel.unpack = u at *
  cases u with
  | notANumber => cases h
  | infinity s | zero s | finite s m e hm => rfl

theorem isNaN_of_le_right (h : x ≤ y) : y.isNaN = false := by
  rw [le_iff_compare, compare_swap] at h
  rw [isNaN_eq]
  generalize y.toModel.unpack = v at *
  cases v with
  | notANumber => cases h
  | infinity s | zero s | finite s m e hm => rfl

/-- What lies between finite doubles is finite, bounds included. -/
theorem isFinite_of_le_of_le (hx : x.isFinite = true) (hz : z.isFinite = true) (hxy : x ≤ y)
    (hyz : y ≤ z) : y.isFinite = true := by
  have hy := isNaN_of_le_left hyz
  rw [le_iff_compare] at hxy hyz
  rw [isNaN_eq] at hy
  rw [isFinite_eq] at *
  generalize x.toModel.unpack = u at *
  generalize y.toModel.unpack = v at *
  generalize z.toModel.unpack = w at *
  cases v with
  | notANumber => cases hy
  | zero s | finite s m e hm => rfl
  | infinity s => cases s with
    | positive => cases w with
      | notANumber | infinity s' => cases hz
      | zero s' | finite s' m' e' hm' => cases hyz
    | negative => cases u with
      | notANumber | infinity s' => cases hx
      | zero s' => cases hxy
      | finite s' m' e' hm' => cases s' <;> cases hxy

theorem neg_le_self (h : 0 < x) : -x ≤ x := by
  rw [lt_iff_compare, unpack_zero] at h
  rw [le_iff_compare, unpack_neg]
  generalize x.toModel.unpack = u at *
  cases u with
  | notANumber | zero s => cases h
  | infinity s | finite s m e hm => cases s with
    | positive => rfl
    | negative => cases h

end Order

/-! ### Whole numbers -/

section Whole

variable {x : Float} {n m : Nat} {e : Int} {hm : 0 < m}

/-- The double that whole numbers below `2 ^ 53` are multiplied by. -/
theorem unpack_tenToZero : (Float.ofBits 0x3ff0000000000000).toModel.unpack =
    .finite .positive (2 ^ 52) (-52) (by decide) := rfl

theorem ofNat_of_lt (h : n < 2 ^ 53) :
    Float.ofNat n = n.toUInt64.toFloat * .ofBits 0x3ff0000000000000 := by
  show Float.ofScientific n false 0 = _
  unfold Float.ofScientific
  rw [dif_pos ⟨h, by decide⟩]
  rfl

theorem ofNat_of_le (h : 2 ^ 53 ≤ n) : Float.ofNat n = .ofModel (Float.Model.ofScientific n 0) := by
  show Float.ofScientific n false 0 = _
  unfold Float.ofScientific
  rw [dif_neg (fun hboth => not_lt.mpr h hboth.1)]
  rfl

theorem log2_lt_of_lt {k : Nat} (hk : 0 < k) (h : n < 2 ^ k) : n.log2 < k := by
  by_cases hzero : n = 0
  · rw [hzero]
    exact hk
  · exact (Nat.log2_lt hzero).mpr h

theorem unpack_mul_one (hx : x.toModel.unpack = .finite .positive m e hm) (hlow : 2 ^ 52 ≤ m) :
    (x * .ofBits 0x3ff0000000000000).toModel.unpack = .finite .positive m e hm := by
  have hcanonical := canonical_of_unpack hx
  have hleast := hcanonical.least
  have hexponent : e + -52 + (52 : Nat) = e := by omega
  show (Float.Model.pack (UnpackedFloat.mul Format.binary64 x.toModel.unpack
    (Float.ofBits 0x3ff0000000000000).toModel.unpack)).unpack = _
  rw [hx, unpack_tenToZero]
  show (Float.Model.pack (roundWithAccuracy Format.binary64 .positive (m * 2 ^ 52) (e + -52)
    .exact)).unpack = _
  rw [round_mul_two_pow hm hlow hcanonical.bounded (by omega)]
  simp only [hexponent]
  exact unpack_pack hcanonical (exponent_le_of_unpack hx)

theorem unpack_toFloat (hn : 0 < n) (h : n < 2 ^ 53) :
    ∃ hm, n.toUInt64.toFloat.toModel.unpack =
      .finite .positive (shiftedUp n) (n.log2 - 52) hm := by
  have hlog := Nat.le_of_lt_succ (log2_lt_of_lt (by decide) h)
  have hsame : n.toUInt64.toNat = n := by
    show n % 2 ^ 64 = n
    omega
  have hpos : compare (n : Int) 0 = .gt := compare_gt_iff_gt.mpr (by omega)
  obtain ⟨hlow, hhigh⟩ := shiftedUp_bounds hn hlog
  obtain ⟨hm, hround⟩ := @round_of_lt .positive n hn hlog
  refine ⟨hm, ?_⟩
  show (Float.Model.pack
    (UnpackedFloat.normalize Format.binary64 (n.toUInt64.toNat : Int) 0 .positive)).unpack = _
  unfold UnpackedFloat.normalize
  simp only [hsame, hpos, Int.toNat_natCast, hround]
  exact unpack_pack ⟨hhigh, by omega, .inl hlow⟩ (by omega)

/-- Whole numbers of up to 53 bits are doubles. -/
theorem unpack_ofNat (hn : 0 < n) (h : n < 2 ^ 53) :
    ∃ hm, (Float.ofNat n).toModel.unpack =
      .finite .positive (shiftedUp n) (n.log2 - 52) hm := by
  have hlog := Nat.le_of_lt_succ (log2_lt_of_lt (by decide) h)
  obtain ⟨hm, hunpack⟩ := unpack_toFloat hn h
  refine ⟨hm, ?_⟩
  rw [ofNat_of_lt h]
  exact unpack_mul_one hunpack (shiftedUp_bounds hn hlog).1

theorem ofScientific_eq_round (hn : n ≠ 0) :
    UnpackedFloat.ofScientific Format.binary64 n 0 =
      roundWithAccuracy Format.binary64 .positive (n <<< 53) (-53) .exact := by
  have hlarge : ¬(0 : Int) < -((2 ^ 11 : Int) + n.log2) := by omega
  unfold UnpackedFloat.ofScientific
  rw [dif_neg hn, if_neg (by decide), if_neg hlarge, if_pos (by decide)]
  show roundWithAccuracy Format.binary64 .positive (n <<< 53 * 1) (-53) .exact = _
  rw [Nat.mul_one]

theorem isFinite_ofNat_of_lt (h : n < 2 ^ 53) : (Float.ofNat n).isFinite = true := by
  rcases n.eq_zero_or_pos with rfl | hn
  · decide
  · obtain ⟨hm, hunpack⟩ := unpack_ofNat hn h
    rw [isFinite_eq, hunpack]
    rfl

theorem isFinite_ofNat_of_le (h : 2 ^ 53 ≤ n) (hword : n < 2 ^ 64) :
    (Float.ofNat n).isFinite = true := by
  rw [ofNat_of_le h]
  show (Float.Model.pack (UnpackedFloat.ofScientific Format.binary64 n 0)).unpack.isFinite = true
  rw [ofScientific_eq_round (by omega)]
  have hlog : n.log2 < 64 := log2_lt_of_lt (by decide) hword
  have hrounded : Within 12
      (roundWithAccuracy Format.binary64 .positive (n <<< 53) (-53) .exact) := by
    refine within_roundWithAccuracy (by decide) ?_ (by decide)
    rw [totalExponent, log2_shiftLeft (by omega)]
    omega
  exact (hrounded.unpack_pack (by decide) (by decide)).isFinite

/-- Whole numbers below `2 ^ 53` are taken as they are, others are rounded. -/
theorem isFinite_ofNat (h : n < 2 ^ 64) : (Float.ofNat n).isFinite = true := by
  by_cases hsmall : n < 2 ^ 53
  · exact isFinite_ofNat_of_lt hsmall
  · exact isFinite_ofNat_of_le (not_lt.mp hsmall) h

end Whole

theorem isFinite_ofInt (offset : Int64) : (Float.ofInt offset.toInt).isFinite = true := by
  have hlow := offset.le_toInt
  have hhigh := offset.toInt_lt
  cases h : offset.toInt with
  | ofNat n =>
    rw [h] at hhigh
    have hn : (n : Int) < 2 ^ 63 := hhigh
    exact isFinite_ofNat (by omega)
  | negSucc n =>
    rw [h, Int.negSucc_eq] at hlow
    show (-Float.ofNat (n + 1)).isFinite = true
    rw [isFinite_neg]
    exact isFinite_ofNat (by omega)

end Binary64

end ClockDiscipline
