/-
  ClockDiscipline/Proofs/ServoInBounds.lean
  =========================================
  **The accumulator and the frequency of a servo keep within their bounds.**

  Offsets are words, so they are finite doubles, but what they are multiplied
  with may make them infinite.  Clamping brings an infinity back, and it needs
  no more than a number to work on (`clampFloat_bounds`).  That the accumulator
  is finite (`Bounded`) makes the next sum a number whatever is added to it, so
  that it is finite again, and the correction is a number, from which the
  frequency is clamped in turn.
-/
import ClockDiscipline.Servo.Pi
import ClockDiscipline.Proofs.FiniteDoubles

namespace ClockDiscipline

open Binary64

/-! ### Clamping -/

/-- Clamping by a machine that breaks off if the bounds are not in order, or
    are not numbers. -/
def clampFloat? (x least greatest : Float) : Option Float :=
  if least ≤ greatest then some (clampFloat x least greatest) else none

/-- What is clamped ends up within the bounds, also if it is infinite. -/
theorem clampFloat_bounds {x least greatest : Float} (hx : x.isNaN = false)
    (h : least ≤ greatest) :
    least ≤ clampFloat x least greatest ∧ clampFloat x least greatest ≤ greatest := by
  have hleast := isNaN_of_le_left h
  have hgreatest := isNaN_of_le_right h
  unfold clampFloat
  dsimp only
  split
  · next hbelow =>
    split
    · exact ⟨h, le_refl hgreatest⟩
    · exact ⟨le_refl hleast, h⟩
  · next hnotBelow =>
    split
    · exact ⟨h, le_refl hgreatest⟩
    · next hnotAbove =>
      exact ⟨le_of_not_lt hleast hx hnotBelow, le_of_not_lt hx hgreatest hnotAbove⟩

theorem adjustmentScale_pos : 0 < adjustmentScale := by decide

theorem isFinite_adjustmentScale : adjustmentScale.isFinite = true := by decide

theorem zero_bounds : -adjustmentScale ≤ 0 ∧ 0 ≤ adjustmentScale := by decide

namespace PiServo

/-! ### What a servo is asked -/

inductive Call where
  | sample (offset : Int64) (weight : Float)
  | reset

/-- Samples have positive, finite weights. -/
def Call.Weighs : Call → Prop
  | .sample _ weight => weight.isFinite = true ∧ 0 < weight
  | .reset => True

def call (s : PiServo) : Call → PiServo
  | .sample offset weight => (s.sample offset weight).2
  | .reset => s.reset

def after (s : PiServo) (calls : List Call) : PiServo := calls.foldl call s

/-- Taking a sample with clamping that may break off. -/
def sample? (s : PiServo) (offset : Int64) (weight : Float) : Option (Float × PiServo) :=
  let lock := s.lock.update offset
  if lock.state = .jump then some (0, { s with drift := 0, lock := lock })
  else do
    let x := Float.ofInt offset.toInt
    let drift ← clampFloat? (s.drift + x * s.gains.ki * weight) (-adjustmentScale) adjustmentScale
    return (-(x * s.gains.kp + drift) / adjustmentScale, { s with drift := drift, lock := lock })

/-- The frequency with clamping that may break off. -/
def frequency? (s : PiServo) (adjustment : Float) : Option Float :=
  let f := s.initialFrequency + adjustment * 1000000000
  if 0 < s.maxAdjustment then clampFloat? f (-s.maxAdjustment) s.maxAdjustment else some f

section Steps

variable {s : PiServo} {offset : Int64} {weight adjustment : Float} {c : Call}

/-- The bounds of the accumulator are in order. -/
theorem sample?_eq (s : PiServo) (offset : Int64) (weight : Float) :
    s.sample? offset weight = some (s.sample offset weight) := by
  have hbounds := neg_le_self adjustmentScale_pos
  simp only [sample?, sample, clampFloat?, if_pos hbounds]
  split <;> rfl

/-- So are those of the frequency, which are only used if they are. -/
theorem frequency?_eq (s : PiServo) (adjustment : Float) :
    s.frequency? adjustment = some (s.frequency adjustment) := by
  simp only [frequency?, frequency, clampFloat?]
  split
  · next hmax => rw [if_pos (neg_le_self hmax)]
  · rfl

/-- What the arithmetic of a servo relies on: its configuration is finite, and
    its accumulator within its bounds. -/
structure Bounded (s : PiServo) : Prop where
  kp : s.gains.kp.isFinite = true
  ki : s.gains.ki.isFinite = true
  initialFrequency : s.initialFrequency.isFinite = true
  least : -adjustmentScale ≤ s.drift
  greatest : s.drift ≤ adjustmentScale

theorem Bounded.drift (h : s.Bounded) : s.drift.isFinite = true :=
  isFinite_of_le_of_le (isFinite_neg.trans isFinite_adjustmentScale) isFinite_adjustmentScale
    h.least h.greatest

theorem Bounded.cleared (h : s.Bounded) (lock : LockTracker) :
    Bounded { s with drift := 0, lock := lock } where
  kp := h.kp
  ki := h.ki
  initialFrequency := h.initialFrequency
  least := zero_bounds.1
  greatest := zero_bounds.2

theorem sample_of_jump (h : (s.lock.update offset).state = .jump) :
    s.sample offset weight = (0, { s with drift := 0, lock := s.lock.update offset }) :=
  if_pos h

theorem sample_of_not_jump (h : (s.lock.update offset).state ≠ .jump) :
    (s.sample offset weight).2 =
      { s with
        drift := clampFloat (s.drift + Float.ofInt offset.toInt * s.gains.ki * weight)
          (-adjustmentScale) adjustmentScale
        lock := s.lock.update offset } := by
  simp only [sample, if_neg h]

theorem correction_of_not_jump (h : (s.lock.update offset).state ≠ .jump) :
    (s.sample offset weight).1 =
      -(Float.ofInt offset.toInt * s.gains.kp + (s.sample offset weight).2.drift) /
        adjustmentScale := by
  simp only [sample, if_neg h]

theorem Bounded.sample (h : s.Bounded) (hweight : (Call.sample offset weight).Weighs) :
    (s.sample offset weight).2.Bounded := by
  obtain ⟨hfinite, hpos⟩ := hweight
  by_cases hjump : (s.lock.update offset).state = .jump
  · rw [sample_of_jump hjump]
    exact h.cleared _
  · -- what is added may be infinite, and is a number as the weight is not zero
    have hproduct := isNaN_mul (isFinite_ofInt offset) h.ki
    have hsum := isNaN_finite_add h.drift (isNaN_mul_of_pos hproduct hpos hfinite)
    obtain ⟨hleast, hgreatest⟩ := clampFloat_bounds hsum (neg_le_self adjustmentScale_pos)
    rw [sample_of_not_jump hjump]
    exact ⟨h.kp, h.ki, h.initialFrequency, hleast, hgreatest⟩

theorem Bounded.call (h : s.Bounded) (hc : c.Weighs) : (s.call c).Bounded := by
  cases c with
  | sample offset weight => exact h.sample hc
  | reset => exact h.cleared _

theorem Bounded.after (h : s.Bounded) {calls : List Call} (hcalls : ∀ c ∈ calls, c.Weighs) :
    (s.after calls).Bounded := by
  induction calls generalizing s with
  | nil => exact h
  | cons c rest ih =>
    obtain ⟨hc, hrest⟩ := List.forall_mem_cons.mp hcalls
    exact ih (h.call hc) hrest

theorem maxAdjustment_call (s : PiServo) (c : Call) :
    (s.call c).maxAdjustment = s.maxAdjustment := by
  cases c with
  | reset => rfl
  | sample offset weight =>
    show (s.sample offset weight).2.maxAdjustment = _
    unfold sample
    dsimp only
    split <;> rfl

theorem maxAdjustment_after (s : PiServo) (calls : List Call) :
    (s.after calls).maxAdjustment = s.maxAdjustment := by
  induction calls generalizing s with
  | nil => rfl
  | cons c rest ih => exact (ih (s.call c)).trans (maxAdjustment_call s c)

/-! ### Corrections and frequencies -/

theorem isNaN_correction (h : s.Bounded) (hweight : (Call.sample offset weight).Weighs) :
    (s.sample offset weight).1.isNaN = false := by
  by_cases hjump : (s.lock.update offset).state = .jump
  · rw [sample_of_jump hjump]
    exact isNaN_of_isFinite (u := (0 : Float).toModel.unpack) rfl
  · have hproduct := isNaN_mul (isFinite_ofInt offset) h.kp
    have hsum := isNaN_add_finite hproduct (h.sample hweight).drift
    rw [correction_of_not_jump hjump]
    exact isNaN_div_of_pos (isNaN_neg.trans hsum) adjustmentScale_pos isFinite_adjustmentScale

theorem frequency_bounds (hinitial : s.initialFrequency.isFinite = true)
    (hmax : 0 < s.maxAdjustment) (hadjustment : adjustment.isNaN = false) :
    -s.maxAdjustment ≤ s.frequency adjustment ∧ s.frequency adjustment ≤ s.maxAdjustment := by
  have hscaled : (adjustment * 1000000000).isNaN = false :=
    isNaN_mul_of_pos hadjustment (by decide) (by decide)
  rw [frequency, if_pos hmax]
  exact clampFloat_bounds (isNaN_finite_add hinitial hscaled) (neg_le_self hmax)

theorem state_sample : (s.sample offset weight).2.state = (s.lock.update offset).state := by
  unfold sample state
  dsimp only
  split <;> rfl

end Steps

/-- Whatever samples a servo with finite gains takes, and whenever it is reset,
    its accumulator stays within its bounds, and so does every frequency that
    realises one of its corrections, then or later.  A jump and a reset leave
    nothing in the accumulator. -/
theorem drift_frequency_inBounds {gains : PiGains} {initialFrequency : Float}
    (hkp : gains.kp.isFinite = true) (hki : gains.ki.isFinite = true)
    (hinitial : initialFrequency.isFinite = true) (thresholds : LockThresholds)
    (maxAdjustment interval : Float) {calls : List Call} (hcalls : ∀ c ∈ calls, c.Weighs) :
    let s := (start gains thresholds initialFrequency maxAdjustment interval).after calls
    (-adjustmentScale ≤ s.drift ∧ s.drift ≤ adjustmentScale ∧ s.drift.isNaN = false) ∧
    s.reset.drift = 0 ∧
    ∀ offset weight correction next, (Call.sample offset weight).Weighs →
      s.sample offset weight = (correction, next) →
      s.sample? offset weight = some (correction, next) ∧
      (next.state = .jump → correction = 0 ∧ next.drift = 0) ∧
      ∀ later, (∀ c ∈ later, c.Weighs) → 0 < maxAdjustment →
        ∃ f, (next.after later).frequency? correction = some f ∧
          (next.after later).frequency correction = f ∧ -maxAdjustment ≤ f ∧ f ≤ maxAdjustment := by
  intro s
  have hstart : (start gains thresholds initialFrequency maxAdjustment interval).Bounded :=
    ⟨hkp, hki, hinitial, zero_bounds.1, zero_bounds.2⟩
  have hs : s.Bounded := hstart.after hcalls
  refine ⟨⟨hs.least, hs.greatest, isNaN_of_le_left hs.greatest⟩, rfl, ?_⟩
  intro offset weight correction next hweight hsample
  obtain rfl : (s.sample offset weight).1 = correction := congrArg Prod.fst hsample
  obtain rfl : (s.sample offset weight).2 = next := congrArg Prod.snd hsample
  refine ⟨sample?_eq s offset weight, fun hjump => ?_, fun later hlater hmax => ?_⟩
  · rw [state_sample] at hjump
    rw [sample_of_jump hjump]
    exact ⟨rfl, rfl⟩
  · have hnext := (hs.sample hweight).after hlater
    have hsame : ((s.sample offset weight).2.after later).maxAdjustment = maxAdjustment := by
      rw [maxAdjustment_after]
      exact (maxAdjustment_call s (.sample offset weight)).trans (maxAdjustment_after _ calls)
    have hbounds := frequency_bounds hnext.initialFrequency (hsame ▸ hmax)
      (isNaN_correction hs hweight)
    rw [hsame] at hbounds
    exact ⟨_, frequency?_eq _ _, rfl, hbounds⟩

/-- With the largest gains there are, every product is infinite. -/
theorem drift_frequency_inBounds_largestGains :
    (Float.ofBits 0x7fefffffffffffff).isFinite = true ∧ (0 : Float).isFinite = true ∧
    (Call.sample 9223372036854775807 2).Weighs ∧ (0 : Float) < 500000 ∧
    ∃ s next f, s = (start ⟨.ofBits 0x7fefffffffffffff, .ofBits 0x7fefffffffffffff⟩
        { firstStep := 0 } 0 500000 1).after [.sample 9223372036854775807 2] ∧
      s.drift.toBits = adjustmentScale.toBits ∧ -adjustmentScale ≤ s.drift ∧
      s.drift ≤ adjustmentScale ∧ s.reset.drift = 0 ∧
      s.sample? (-9223372036854775808) 2 = some next ∧ next.2.frequency? next.1 = some f ∧
      -500000 ≤ f ∧ f ≤ 500000 := by
  have hgain : (Float.ofBits 0x7fefffffffffffff).isFinite = true := by decide
  have hzero : (0 : Float).isFinite = true := by decide
  have hweighs : (Call.sample 9223372036854775807 2).Weighs := ⟨by decide, by decide⟩
  have hmax : (0 : Float) < 500000 := by decide
  obtain ⟨⟨hleast, hgreatest, -⟩, hreset, hsampled⟩ :=
    @drift_frequency_inBounds ⟨.ofBits 0x7fefffffffffffff, .ofBits 0x7fefffffffffffff⟩ 0 hgain hgain
      hzero { firstStep := 0 } 500000 1 [.sample 9223372036854775807 2] (by simpa using hweighs)
  obtain ⟨hsample, -, hfrequency⟩ :=
    hsampled (-9223372036854775808) 2 _ _ ⟨by decide, by decide⟩ rfl
  obtain ⟨f, hf, -, hlow, hhigh⟩ := hfrequency [] (by simp) hmax
  exact ⟨hgain, hzero, hweighs, hmax, _, _, f, rfl, by decide +kernel, hleast, hgreatest, hreset,
    hsample, hf, hlow, hhigh⟩

end PiServo

end ClockDiscipline
