/-
  ClockDiscipline/Proofs/LatchedTimes.lean
  ========================================
  **The times of latched values beside the times that were read.**

  A reading rounds the exact time down to whole nanoseconds.  A value that was
  latched after the last reading is rounded down as well, and one that was
  latched before it is rounded up, though never beyond the time of the last
  reading (`Counted.timeOf`).  So the time of a latched value is never a whole
  nanosecond off and keeps the order of the values (`timeOf_near_ordered`), and
  ahead of the last reading it is what a reading would give.  A value that was
  itself read before, however, comes out one nanosecond later than it was read,
  unless it fell on a whole nanosecond or none has passed since
  (`timeOf_earlier_iff`).
-/
import ClockDiscipline.Proofs.Timeline
import Mathlib.Algebra.Order.Floor.Ring
import Mathlib.Data.Int.ModEq
import Mathlib.Data.Rat.Floor

namespace ClockDiscipline

/-! ### Distances -/

theorem forwardCycles_lt (bits : Nat) (earlier later : UInt64) :
    forwardCycles bits earlier later < 2 ^ bits := by
  have hpos : (0 : Int) < 2 ^ bits := by positivity
  have hlt := Int.emod_lt_of_pos ((later.toNat : Int) - earlier.toNat) hpos
  rw [← forwardCycles_cast] at hlt
  exact_mod_cast hlt

/-- The way back closes the circle, if there is any way at all. -/
theorem forwardCycles_swap (bits : Nat) (earlier later : UInt64) :
    forwardCycles bits later earlier =
      if forwardCycles bits earlier later = 0 then 0
      else 2 ^ bits - forwardCycles bits earlier later := by
  have hlt := forwardCycles_lt bits earlier later
  have hback : (forwardCycles bits later earlier : Int) =
      -(forwardCycles bits earlier later : Int) % 2 ^ bits := by
    rw [forwardCycles_cast, forwardCycles_cast, ← Int.neg_sub]
    exact ((Int.mod_modEq ((later.toNat : Int) - earlier.toNat) (2 ^ bits)).neg).symm
  split
  · next hzero =>
    rw [hzero, Int.natCast_zero, Int.neg_zero, Int.zero_emod] at hback
    exact_mod_cast hback
  · next hnot =>
    rw [← Int.add_emod_right, Int.emod_eq_of_lt (by norm_cast; omega) (by norm_cast; omega)]
      at hback
    zify [hlt.le]
    omega

/-- Along a list of raw values the counter ends up where their last one lies,
    having gone round any number of times. -/
theorem forwardCycles_getLastD (bits : Nat) (earlier : UInt64) (readings : List UInt64) :
    forwardCycles bits earlier (readings.getLastD earlier) =
      cyclesAlong bits earlier readings % 2 ^ bits := by
  have hsame : forwardCycles bits earlier earlier = 0 := by simp [forwardCycles]
  induction readings generalizing earlier with
  | nil => simp [cyclesAlong, hsame]
  | cons next rest ih =>
    have hsame' : forwardCycles bits next next = 0 := by simp [forwardCycles]
    have hrest := ih next hsame'
    rw [List.getLastD_cons, cyclesAlong, ← Nat.add_mod_mod, ← hrest]
    zify
    rw [forwardCycles_cast, forwardCycles_cast, forwardCycles_cast, ← Int.add_emod]
    congr 1
    ring

theorem cyclesAlong_append (bits : Nat) (earlier : UInt64) (readings more : List UInt64) :
    cyclesAlong bits earlier (readings ++ more) =
      cyclesAlong bits earlier readings + cyclesAlong bits (readings.getLastD earlier) more := by
  induction readings generalizing earlier with
  | nil => simp [cyclesAlong]
  | cons next rest ih =>
    rw [List.cons_append, cyclesAlong, cyclesAlong, ih, List.getLastD_cons, Nat.add_assoc]

/-- How far a raw value lies from another one: ahead, if that is at most half of
    the counter's range, and behind otherwise. -/
def signedCycles (bits : Nat) (latest cycle : UInt64) : Int :=
  if forwardCycles bits latest cycle ≤ (2 ^ bits - 1) / 2 then forwardCycles bits latest cycle
  else -forwardCycles bits cycle latest

theorem signedCycles_of_ahead {bits : Nat} {latest cycle : UInt64}
    (h : forwardCycles bits latest cycle ≤ (2 ^ bits - 1) / 2) :
    signedCycles bits latest cycle = forwardCycles bits latest cycle :=
  if_pos h

/-- A value that was read lies as far behind as has been counted since, if that
    is at most half of the range. -/
theorem signedCycles_of_read {bits : Nat} {earlier : UInt64} {readings : List UInt64}
    (h : cyclesAlong bits earlier readings ≤ (2 ^ bits - 1) / 2) :
    signedCycles bits (readings.getLastD earlier) earlier =
      -(cyclesAlong bits earlier readings : Int) := by
  have hpos := Nat.two_pow_pos bits
  have hsince : forwardCycles bits earlier (readings.getLastD earlier) =
      cyclesAlong bits earlier readings := by
    rw [forwardCycles_getLastD, Nat.mod_eq_of_lt (by omega)]
  have hback := forwardCycles_swap bits earlier (readings.getLastD earlier)
  rw [hsince] at hback
  by_cases hzero : cyclesAlong bits earlier readings = 0
  · rw [if_pos hzero] at hback
    rw [signedCycles_of_ahead (by omega), hback, hzero]
    rfl
  · rw [if_neg hzero] at hback
    rw [signedCycles, if_neg (by omega), hsince]

/-! ### Exact times -/

/-- The time at which so many cycles have been counted, without any rounding. -/
def exactTime (mult shift : UInt32) (initial : UInt64) (cycles : Int) : ℚ :=
  initial.toNat + cycles * mult.toNat / 2 ^ shift.toNat

section Exact

variable (mult shift : UInt32) (initial : UInt64) {cycles more : Int}

theorem exactTime_eq (cycles : Int) :
    exactTime mult shift initial cycles = ((initial.toNat : Int) : ℚ) +
      ((cycles * mult.toNat : Int) : ℚ) / ((2 ^ shift.toNat : Nat) : ℚ) := by
  unfold exactTime
  push_cast
  rfl

theorem floor_exactTime (cycles : Int) :
    ⌊exactTime mult shift initial cycles⌋ =
      initial.toNat + cycles * mult.toNat / 2 ^ shift.toNat := by
  rw [exactTime_eq, Int.floor_intCast_add, Rat.floor_intCast_div_natCast]
  norm_cast

theorem ceil_exactTime (cycles : Int) :
    ⌈exactTime mult shift initial cycles⌉ =
      initial.toNat - -(cycles * mult.toNat) / 2 ^ shift.toNat := by
  rw [exactTime_eq, Int.ceil_intCast_add, Rat.ceil_intCast_div_natCast, ← sub_eq_add_neg]
  norm_cast

theorem exactTime_mono (h : cycles ≤ more) :
    exactTime mult shift initial cycles ≤ exactTime mult shift initial more := by
  have hcast : (cycles : ℚ) ≤ more := by exact_mod_cast h
  unfold exactTime
  gcongr

end Exact

/-- The whole nanoseconds that a latched value is given: rounded down if it lies
    ahead of the last reading, else rounded up, but not beyond that reading. -/
def latchedNanos (mult shift : UInt32) (initial : UInt64) (counted distance : Int) : Int :=
  if 0 ≤ distance then ⌊exactTime mult shift initial (counted + distance)⌋
  else
    min ⌊exactTime mult shift initial counted⌋ ⌈exactTime mult shift initial (counted + distance)⌉

/-- Taking off what is left of a product after its remainder is used up is
    rounding the difference up, but not beyond the quotient. -/
theorem min_ceil_sub (product less : Nat) {unit : Nat} (h : 0 < unit) :
    min ((product : Int) / unit) (-(-((product : Int) - less) / unit)) =
      (product : Int) / unit - ((less - product % unit) / unit : Nat) := by
  have hsplit : unit * ((product : Int) / unit) + (product : Int) % unit = product :=
    Int.mul_ediv_add_emod ..
  have hceil : -((product : Int) - less) / unit =
      ((less : Int) - (product : Int) % unit) / unit - (product : Int) / unit := by
    rw [← Int.sub_mul_ediv_left _ _ (by omega : (unit : Int) ≠ 0)]
    congr 1
    linarith
  rw [hceil]
  by_cases hused : product % unit ≤ less
  · have hcast : (((less - product % unit) / unit : Nat) : Int) =
        ((less : Int) - (product : Int) % unit) / unit := by
      push_cast [hused]
      rfl
    rw [← hcast, neg_sub]
    exact min_eq_right (sub_le_self _ (Int.natCast_nonneg _))
  · have hunused : (less : Int) < (product : Int) % unit := by exact_mod_cast not_le.mp hused
    have hneg : ((less : Int) - (product : Int) % unit) / unit < 0 :=
      Int.ediv_neg_of_neg_of_pos (sub_neg.mpr hunused) (by omega)
    rw [Nat.sub_eq_zero_of_le (by omega), Nat.zero_div, min_eq_left (by omega)]
    rfl

theorem latchedNanos_of_behind (mult shift : UInt32) (initial : UInt64) (counted : Nat)
    {behind : Nat} (h : 0 < behind) :
    latchedNanos mult shift initial counted (-(behind : Int)) =
      initial.toNat + (counted * mult.toNat / 2 ^ shift.toNat : Nat) -
        ((behind * mult.toNat - counted * mult.toNat % 2 ^ shift.toNat) /
          2 ^ shift.toNat : Nat) := by
  have hunit := Nat.two_pow_pos shift.toNat
  have hround := min_ceil_sub (counted * mult.toNat) (behind * mult.toNat) hunit
  rw [latchedNanos, if_neg (by omega), floor_exactTime, ceil_exactTime]
  push_cast at hround ⊢
  have hproduct : ((counted : Int) + -behind) * mult.toNat =
      counted * mult.toNat - behind * mult.toNat := by ring
  rw [hproduct, add_sub_assoc, ← hround, ← min_add_add_left, ← sub_eq_add_neg]

section Rounding

variable (mult shift : UInt32) (initial : UInt64) {a b : Int}

theorem abs_latchedNanos_sub_lt (counted distance : Int) :
    |(latchedNanos mult shift initial counted distance : ℚ) -
      exactTime mult shift initial (counted + distance)| < 1 := by
  have hfloor := Int.floor_le (exactTime mult shift initial (counted + distance))
  have hfloor' := Int.lt_floor_add_one (exactTime mult shift initial (counted + distance))
  have hceil := Int.le_ceil (exactTime mult shift initial (counted + distance))
  have hceil' := Int.ceil_lt_add_one (exactTime mult shift initial (counted + distance))
  unfold latchedNanos
  rw [abs_lt]
  split
  · constructor <;> linarith
  · next hbehind =>
    -- the value lies before the last reading, so that being cut off there costs
    -- no more than that reading has lost itself
    have hnow := Int.lt_floor_add_one (exactTime mult shift initial counted)
    have hearlier := exactTime_mono mult shift initial (by omega : counted + distance ≤ counted)
    rw [Int.cast_min]
    constructor
    · rw [lt_sub_iff_add_lt, lt_min_iff]
      constructor <;> linarith
    · rw [sub_lt_iff_lt_add, min_lt_iff]
      exact .inr (by linarith)

/-- The whole nanoseconds of latched values are in the order of the values, also
    from behind the last reading to ahead of it. -/
theorem latchedNanos_mono (counted : Int) (h : a ≤ b) :
    latchedNanos mult shift initial counted a ≤ latchedNanos mult shift initial counted b := by
  have hexact := exactTime_mono mult shift initial (by omega : counted + a ≤ counted + b)
  unfold latchedNanos
  by_cases ha : 0 ≤ a
  · rw [if_pos ha, if_pos (ha.trans h)]
    exact Int.floor_le_floor hexact
  rw [if_neg ha]
  by_cases hb : 0 ≤ b
  -- what is behind is cut off at the last reading, where what is ahead begins
  · have hnow := exactTime_mono mult shift initial (by omega : counted ≤ counted + b)
    rw [if_pos hb]
    exact (min_le_left _ _).trans (Int.floor_le_floor hnow)
  · rw [if_neg hb]
    exact min_le_min_left _ (Int.ceil_le_ceil hexact)

/-- The exact time of a raw value that is latched when these values have been
    read: what the cycles counted so far and its distance from the last reading
    come to. -/
def latchedTime (bits mult shift : UInt32) (cycle initial : UInt64) (readings : List UInt64)
    (latched : UInt64) : ℚ :=
  exactTime mult shift initial (cyclesAlong bits.toNat cycle readings +
    signedCycles bits.toNat (readings.getLastD cycle) latched)

/-- Neither the last reading nor a latched value leaves the range of a word. -/
structure Representable (now latched : ℚ) : Prop where
  now_lt : now < 2 ^ 64
  latched_lt : latched < 2 ^ 64
  /-- Rounded up, as the time of a value behind the last reading is. -/
  latched_nonneg : 0 ≤ ⌈latched⌉

theorem latchedNanos_inRange (counted : Nat) {distance : Int}
    (h : Representable (exactTime mult shift initial counted)
      (exactTime mult shift initial (counted + distance))) :
    0 ≤ latchedNanos mult shift initial counted distance ∧
      latchedNanos mult shift initial counted distance < 2 ^ 64 := by
  have hnonneg : ∀ cycles : Int, 0 ≤ cycles → 0 ≤ exactTime mult shift initial cycles := by
    intro cycles hcycles
    have hcast : (0 : ℚ) ≤ cycles := by exact_mod_cast hcycles
    unfold exactTime
    positivity
  unfold latchedNanos
  split
  · next hahead =>
    constructor
    · exact Int.floor_nonneg.mpr (hnonneg _ (by omega))
    · exact Int.floor_lt.mpr (by exact_mod_cast h.latched_lt)
  · next hbehind =>
    constructor
    · exact le_min (Int.floor_nonneg.mpr (hnonneg _ (by omega))) h.latched_nonneg
    · exact (min_le_left _ _).trans_lt (Int.floor_lt.mpr (by exact_mod_cast h.now_lt))

/-- A reading fell on a whole nanosecond, or none has passed since. -/
def Recoverable (read now : ℚ) : Prop := (⌊read⌋ : ℚ) = read ∨ ⌊now⌋ = ⌊read⌋

/-- A value that was read, converted when some more cycles have been counted. -/
theorem latchedNanos_of_read (counted since : Nat) :
    (Recoverable (exactTime mult shift initial counted)
        (exactTime mult shift initial (counted + since)) →
      latchedNanos mult shift initial (counted + since) (-since) =
        ⌊exactTime mult shift initial counted⌋) ∧
    (¬Recoverable (exactTime mult shift initial counted)
        (exactTime mult shift initial (counted + since)) →
      latchedNanos mult shift initial (counted + since) (-since) =
        ⌊exactTime mult shift initial counted⌋ + 1) := by
  have hlater := exactTime_mono mult shift initial (by omega : (counted : Int) ≤ counted + since)
  have hfloors := Int.floor_le_floor hlater
  unfold latchedNanos Recoverable
  rw [add_neg_cancel_right]
  by_cases hsince : since = 0
  · subst hsince
    simp
  rw [if_neg (by omega)]
  generalize exactTime mult shift initial counted = read at *
  generalize exactTime mult shift initial (counted + since) = now at *
  constructor
  · rintro (hwhole | hsame)
    · have hceil : ⌈read⌉ = ⌊read⌋ := by rw [← hwhole, Int.ceil_intCast, Int.floor_intCast]
      rw [hceil]
      exact min_eq_right hfloors
    · rw [hsame]
      exact min_eq_left (Int.floor_le_ceil read)
  · intro hnot
    obtain ⟨hpart, hpassed⟩ := not_or.mp hnot
    have habove := (Int.floor_le read).lt_of_ne hpart
    have hceil : ⌈read⌉ = ⌊read⌋ + 1 := by
      rw [Int.ceil_eq_iff]
      push_cast
      exact ⟨by linarith, (Int.lt_floor_add_one read).le⟩
    rw [hceil]
    exact min_eq_right (by omega)

end Rounding

/-! ### What the timeline computes -/

/-- Masking the later value, and then the difference, is counting forward
    between the raw values as well. -/
theorem toNat_and_low_sub (earlier later : UInt64) {bits : Nat} (h : bits ≤ 64) :
    (((later &&& UInt64.ofNat (Nat.pow 2 (min bits 64) - 1)) - earlier) &&&
      UInt64.ofNat (Nat.pow 2 (min bits 64) - 1)).toNat = forwardCycles bits earlier later := by
  have hdvd : 2 ^ bits ∣ 2 ^ 64 := Nat.pow_dvd_pow 2 h
  rw [toNat_and_low _ h, UInt64.toNat_sub, toNat_and_low _ h, Nat.mod_mod_of_dvd _ hdvd]
  obtain ⟨turns, hturns⟩ := hdvd
  zify [earlier.toNat_lt.le]
  have hsplit : (2 : Int) ^ 64 - earlier.toNat + (later.toNat : Int) % 2 ^ bits =
      ((later.toNat : Int) % 2 ^ bits - earlier.toNat) + 2 ^ bits * turns := by
    have hturns' : (2 : Int) ^ 64 = 2 ^ bits * turns := by exact_mod_cast hturns
    rw [hturns']
    ring
  rw [forwardCycles_cast, hsplit, Int.add_mul_emod_self_left, Int.emod_sub_emod]

namespace CycleCounter

theorem nanosBehind_eq {c : CycleCounter} (h : c.shift.toNat < 128) (cycles fraction : UInt64) :
    c.nanosBehind cycles fraction =
      .ok (UInt64.ofNat ((cycles.toNat * c.mult.toNat - fraction.toNat) / 2 ^ c.shift.toNat)) := by
  have hlt : cycles.toNat * c.mult.toNat < 0x100000000000000000000000000000000 :=
    (Nat.le_add_right _ _).trans_lt (scaled_lt cycles fraction c.mult)
  have hwide : wide (cycles.toNat * c.mult.toNat) = .ok (cycles.toNat * c.mult.toNat) := if_pos hlt
  simp only [nanosBehind, hwide, unscale, if_pos h, Nat.shiftRight_eq_div_pow]
  rfl

end CycleCounter

namespace TimeBase

variable {bits mult shift : UInt32} {initial latest cycle : UInt64} {cycles : Nat}
  {base : TimeBase}

/-- Ahead of the last reading a value gets the time that reading it would give. -/
theorem timeOf_of_ahead
    (h : ((cycle - base.lastCycle) &&& base.counter.mask).toNat ≤ base.counter.mask.toNat / 2) :
    base.timeOf cycle = (·.1) <$> base.read cycle := by
  have hnot : ¬base.counter.mask / 2 < (cycle - base.lastCycle) &&& base.counter.mask := by
    rw [UInt64.lt_iff_toNat_lt, UInt64.toNat_div]
    exact not_lt.mpr h
  simp only [timeOf, if_neg hnot, read, readDelta]
  generalize base.counter.nanosAhead _ base.fraction = ahead
  cases ahead <;> rfl

theorem timeOf_of_behind (h : base.counter.shift.toNat < 128)
    (hbehind : base.counter.mask.toNat / 2 <
      ((cycle - base.lastCycle) &&& base.counter.mask).toNat) :
    base.timeOf cycle = .ok (base.nanos -
      UInt64.ofNat ((((base.lastCycle - cycle) &&& base.counter.mask).toNat *
        base.counter.mult.toNat - base.fraction.toNat) / 2 ^ base.counter.shift.toNat)) := by
  have hpast : base.counter.mask / 2 < (cycle - base.lastCycle) &&& base.counter.mask := by
    rw [UInt64.lt_iff_toNat_lt, UInt64.toNat_div]
    exact hbehind
  simp only [timeOf, if_pos hpast, CycleCounter.nanosBehind_eq h]
  rfl

theorem Counted.nanos_eq_floor (h : Counted bits mult shift initial latest cycles base) :
    (base.nanos.toNat : Int) = ⌊exactTime mult shift initial cycles⌋ % 2 ^ 64 := by
  rw [h.nanos, floor_exactTime]
  norm_cast

theorem Counted.read (h : Counted bits mult shift initial latest cycles base)
    (hbits : bits.toNat ≤ 64) (hshift : shift.toNat ≤ 64) (cycle : UInt64) :
    ∃ next, base.read cycle = .ok (next.nanos, next) ∧
      Counted bits mult shift initial cycle
        (cycles + forwardCycles bits.toNat latest cycle) next := by
  obtain ⟨delta, next, hread, hnext, -⟩ := h.readDelta hbits hshift cycle
  refine ⟨next, ?_, hnext⟩
  rw [TimeBase.read, hread]
  rfl

theorem Counted.toNat_mask (h : Counted bits mult shift initial latest cycles base)
    (hbits : bits.toNat ≤ 64) : base.counter.mask.toNat = 2 ^ bits.toNat - 1 := by
  rw [h.counter]
  exact toNat_low hbits

theorem Counted.toNat_ahead (h : Counted bits mult shift initial latest cycles base)
    (hbits : bits.toNat ≤ 64) (cycle : UInt64) :
    ((cycle - base.lastCycle) &&& base.counter.mask).toNat =
      forwardCycles bits.toNat latest cycle := by
  rw [h.lastCycle, h.counter]
  exact toNat_sub_and_low latest cycle hbits

theorem Counted.timeOf_of_ahead (h : Counted bits mult shift initial latest cycles base)
    (hbits : bits.toNat ≤ 64)
    (hahead : forwardCycles bits.toNat latest cycle ≤ (2 ^ bits.toNat - 1) / 2) :
    base.timeOf cycle = (·.1) <$> base.read cycle :=
  TimeBase.timeOf_of_ahead (by rwa [h.toNat_ahead hbits, h.toNat_mask hbits])

theorem Counted.timeOf (h : Counted bits mult shift initial latest cycles base)
    (hbits : bits.toNat ≤ 64) (hshift : shift.toNat ≤ 64) (cycle : UInt64) :
    ∃ t, base.timeOf cycle = .ok t ∧ (t.toNat : Int) =
      latchedNanos mult shift initial cycles (signedCycles bits.toNat latest cycle) % 2 ^ 64 := by
  by_cases hahead : forwardCycles bits.toNat latest cycle ≤ (2 ^ bits.toNat - 1) / 2
  · obtain ⟨next, hread, hnext⟩ := h.read hbits hshift cycle
    refine ⟨next.nanos, ?_, ?_⟩
    · rw [h.timeOf_of_ahead hbits hahead, hread]
      rfl
    · rw [hnext.nanos_eq_floor, signedCycles_of_ahead hahead, latchedNanos, if_pos (by omega)]
      norm_cast
  · have hshift' : base.counter.shift.toNat < 128 := by
      rw [h.counter]
      show shift.toNat < 128
      omega
    have hbackward : ((base.lastCycle - cycle) &&& base.counter.mask).toNat =
        forwardCycles bits.toNat cycle latest := by
      rw [h.lastCycle, h.counter]
      exact toNat_and_low_sub cycle latest hbits
    have hpos : 0 < forwardCycles bits.toNat cycle latest := by
      have hswap := forwardCycles_swap bits.toNat latest cycle
      have hlt := forwardCycles_lt bits.toNat latest cycle
      rw [if_neg (by omega)] at hswap
      omega
    have hmult : base.counter.mult = mult := by rw [h.counter]; rfl
    have hunit : base.counter.shift = shift := by rw [h.counter]; rfl
    have hbehind : base.counter.mask.toNat / 2 <
        ((cycle - base.lastCycle) &&& base.counter.mask).toNat := by
      rw [h.toNat_ahead hbits, h.toNat_mask hbits]
      omega
    refine ⟨_, timeOf_of_behind hshift' hbehind, ?_⟩
    rw [signedCycles, if_neg hahead, latchedNanos_of_behind _ _ _ _ hpos, hbackward, hmult, hunit,
      h.fraction, UInt64.toNat_sub, UInt64.toNat_ofNat', h.nanos]
    omega

/-- The time of a latched value is less than a nanosecond off the exact one, and
    latched values have their times in the order of their distances from the
    last reading, as long as no time leaves its range. -/
theorem timeOf_near_ordered {bits mult shift : UInt32}
    (hbits : 1 ≤ bits.toNat ∧ bits.toNat ≤ 64) (hshift : shift.toNat ≤ 64)
    (cycle initial : UInt64) (readings : List UInt64) :
    let now := exactTime mult shift initial (cyclesAlong bits.toNat cycle readings)
    let time := latchedTime bits mult shift cycle initial readings
    let distance := signedCycles bits.toNat (readings.getLastD cycle)
    ∃ deltas last,
      (start (.ofWidth bits mult shift) cycle initial).readAll readings = .ok (deltas, last) ∧
      ∀ first, Representable now (time first) →
        ∃ t, last.timeOf first = .ok t ∧ |(t.toNat : ℚ) - time first| < 1 ∧
          ∀ second, Representable now (time second) → distance first ≤ distance second →
            ∃ u, last.timeOf second = .ok u ∧ t ≤ u := by
  intro now time distance
  obtain ⟨deltas, last, hreads, hcounted, -⟩ :=
    readAll_counted (counted_start bits mult shift cycle initial) hbits.2 hshift readings
  rw [Nat.zero_add] at hcounted
  have htimes : ∀ latched, Representable now (time latched) →
      ∃ t, last.timeOf latched = .ok t ∧ (t.toNat : Int) = latchedNanos mult shift initial
        (cyclesAlong bits.toNat cycle readings) (distance latched) := by
    intro latched hrange
    obtain ⟨t, htime, hvalue⟩ := hcounted.timeOf hbits.2 hshift latched
    obtain ⟨hlow, hhigh⟩ := latchedNanos_inRange mult shift initial _ hrange
    exact ⟨t, htime, by rw [hvalue, Int.emod_eq_of_lt hlow hhigh]⟩
  refine ⟨deltas, last, hreads, fun first hfirst => ?_⟩
  obtain ⟨t, htime, hvalue⟩ := htimes first hfirst
  refine ⟨t, htime, ?_, fun second hsecond horder => ?_⟩
  · have hnear := abs_latchedNanos_sub_lt mult shift initial
      (cyclesAlong bits.toNat cycle readings) (distance first)
    rw [← hvalue] at hnear
    exact hnear
  · obtain ⟨u, htime', hvalue'⟩ := htimes second hsecond
    have hmono := latchedNanos_mono mult shift initial
      (cyclesAlong bits.toNat cycle readings) horder
    rw [← hvalue, ← hvalue'] at hmono
    exact ⟨u, htime', UInt64.le_iff_toNat_le.mpr (by omega)⟩

/-- A counter of four bits that has wrapped since its start, and wraps between
    two latched values: one is behind the last reading and one ahead of it. -/
theorem timeOf_near_ordered_acrossWrap :
    (1 ≤ (4 : UInt32).toNat ∧ (4 : UInt32).toNat ≤ 64) ∧ (1 : UInt32).toNat ≤ 64 ∧
    signedCycles (4 : UInt32).toNat 0x21 15 = -2 ∧ signedCycles (4 : UInt32).toNat 0x21 0x13 = 2 ∧
    Representable (209 / 2) (203 / 2) ∧ Representable (209 / 2) (215 / 2) ∧
    ∃ deltas last t u, (start (.ofWidth 4 3 1) 14 100).readAll [0x21] = .ok (deltas, last) ∧
      last.timeOf 15 = .ok t ∧ |(t.toNat : ℚ) - 203 / 2| < 1 ∧
      last.timeOf 0x13 = .ok u ∧ t ≤ u := by
  have hbits : 1 ≤ (4 : UInt32).toNat ∧ (4 : UInt32).toNat ≤ 64 := by decide
  have hshift : (1 : UInt32).toNat ≤ 64 := by decide
  have hcycles : cyclesAlong (4 : UInt32).toNat 14 [0x21] = 3 := by decide
  have hbehind : signedCycles (4 : UInt32).toNat 0x21 15 = -2 := by decide
  have hahead : signedCycles (4 : UInt32).toNat 0x21 0x13 = 2 := by decide
  have hexact (cycles : Int) : exactTime 3 1 100 cycles = 100 + cycles * 3 / 2 := by
    rw [exactTime, show (100 : UInt64).toNat = 100 from rfl, show (3 : UInt32).toNat = 3 from rfl,
      show (1 : UInt32).toNat = 1 from rfl]
    norm_num
  have hnow : exactTime 3 1 100 (cyclesAlong (4 : UInt32).toNat 14 [0x21]) = 209 / 2 := by
    rw [hcycles, hexact]
    norm_num
  have hfirst : latchedTime 4 3 1 14 100 [0x21] 15 = 203 / 2 := by
    rw [latchedTime, hcycles, List.getLastD_cons, List.getLastD_nil, hbehind, hexact]
    norm_num
  have hsecond : latchedTime 4 3 1 14 100 [0x21] 0x13 = 215 / 2 := by
    rw [latchedTime, hcycles, List.getLastD_cons, List.getLastD_nil, hahead, hexact]
    norm_num
  have hrange : Representable (209 / 2) (203 / 2) := by constructor <;> norm_num
  have hrange' : Representable (209 / 2) (215 / 2) := by constructor <;> norm_num
  obtain ⟨deltas, last, hreads, htimes⟩ := timeOf_near_ordered hbits hshift 14 100 [0x21]
  obtain ⟨t, htime, hnear, hordered⟩ := htimes 15 (by rwa [hnow, hfirst])
  obtain ⟨u, htime', hle⟩ := hordered 0x13 (by rwa [hnow, hsecond])
    (by rw [List.getLastD_cons, List.getLastD_nil, hbehind, hahead]; decide)
  rw [hfirst] at hnear
  exact ⟨hbits, hshift, hbehind, hahead, hrange, hrange', deltas, last, t, u, hreads, htime, hnear,
    htime', hle⟩

/-- Reading a value, reading on, and converting the value again. -/
theorem Counted.timeOf_of_read {bits mult shift : UInt32} {initial latest : UInt64} {cycles : Nat}
    {base : TimeBase} (h : Counted bits mult shift initial latest cycles base)
    (hbits : bits.toNat ≤ 64) (hshift : shift.toNat ≤ 64) {earlier : UInt64} {after : List UInt64}
    (hsince : cyclesAlong bits.toNat earlier after ≤ (2 ^ bits.toNat - 1) / 2) :
    let counted := cycles + forwardCycles bits.toNat latest earlier
    let read := exactTime mult shift initial counted
    let now := exactTime mult shift initial (counted + cyclesAlong bits.toNat earlier after)
    ∃ next deltas last u, base.read earlier = .ok (next.nanos, next) ∧
      next.readAll after = .ok (deltas, last) ∧ last.timeOf earlier = .ok u ∧
      (Recoverable read now → u = next.nanos) ∧ (¬Recoverable read now → u = next.nanos + 1) := by
  intro counted read now
  obtain ⟨next, hread, hnext⟩ := h.read hbits hshift earlier
  obtain ⟨deltas, last, hreads, hlast, -⟩ := readAll_counted hnext hbits hshift after
  obtain ⟨u, htime, hu⟩ := hlast.timeOf hbits hshift earlier
  have ht : (next.nanos.toNat : Int) = ⌊read⌋ % 2 ^ 64 := hnext.nanos_eq_floor
  obtain ⟨hsame, hlater⟩ : (Recoverable read now → _ = ⌊read⌋) ∧
      (¬Recoverable read now → _ = ⌊read⌋ + 1) :=
    latchedNanos_of_read mult shift initial counted (cyclesAlong bits.toNat earlier after)
  rw [signedCycles_of_read hsince, Nat.cast_add counted] at hu
  refine ⟨next, deltas, last, u, hread, hreads, htime, fun hback => ?_, fun hnot => ?_⟩
  · rw [hsame hback, ← ht] at hu
    exact UInt64.toNat_inj.mp (by exact_mod_cast hu)
  · rw [hlater hnot] at hu
    refine UInt64.toNat_inj.mp ?_
    rw [UInt64.toNat_add, show (1 : UInt64).toNat = 1 from rfl]
    omega

/-- Ahead of the last reading a latched value gets the time that reading it
    would give.  A value that was read before gets the time of that reading
    exactly if it is recoverable, and else one nanosecond more. -/
theorem timeOf_earlier_iff {bits mult shift : UInt32}
    (hbits : 1 ≤ bits.toNat ∧ bits.toNat ≤ 64) (hshift : shift.toNat ≤ 64)
    (cycle initial : UInt64) (before : List UInt64) :
    ∃ deltas last,
      (start (.ofWidth bits mult shift) cycle initial).readAll before = .ok (deltas, last) ∧
      (∀ ahead, forwardCycles bits.toNat (before.getLastD cycle) ahead ≤ (2 ^ bits.toNat - 1) / 2 →
        ∃ t next, last.read ahead = .ok (t, next) ∧ last.timeOf ahead = .ok t) ∧
      ∀ earlier after, cyclesAlong bits.toNat earlier after ≤ (2 ^ bits.toNat - 1) / 2 →
        let read := exactTime mult shift initial
          (cyclesAlong bits.toNat cycle (before ++ [earlier]))
        let now := exactTime mult shift initial
          (cyclesAlong bits.toNat cycle (before ++ earlier :: after))
        ∃ t next deltas' latest u, last.read earlier = .ok (t, next) ∧
          next.readAll after = .ok (deltas', latest) ∧ latest.timeOf earlier = .ok u ∧
          (u = t ↔ Recoverable read now) ∧ (¬Recoverable read now → u = t + 1) := by
  obtain ⟨deltas, last, hreads, hcounted, -⟩ :=
    readAll_counted (counted_start bits mult shift cycle initial) hbits.2 hshift before
  rw [Nat.zero_add] at hcounted
  refine ⟨deltas, last, hreads, fun ahead hahead => ?_, fun earlier after hsince => ?_⟩
  · obtain ⟨next, hread, -⟩ := hcounted.read hbits.2 hshift ahead
    refine ⟨next.nanos, next, hread, ?_⟩
    rw [hcounted.timeOf_of_ahead hbits.2 hahead, hread]
    rfl
  intro read now
  obtain ⟨next, deltas', latest, u, hread, hreads', htime, hsame, hlater⟩ :=
    hcounted.timeOf_of_read hbits.2 hshift hsince
  have hread' : read = exactTime mult shift initial ((cyclesAlong bits.toNat cycle before +
      forwardCycles bits.toNat (before.getLastD cycle) earlier : Nat) : Int) := by
    simp only [read, cyclesAlong_append, cyclesAlong, Nat.add_zero]
  have hnow : now = exactTime mult shift initial ((cyclesAlong bits.toNat cycle before +
      forwardCycles bits.toNat (before.getLastD cycle) earlier : Nat) +
        (cyclesAlong bits.toNat earlier after : Int)) := by
    simp only [now, cyclesAlong_append, cyclesAlong, ← Nat.add_assoc, Nat.cast_add]
  rw [← hread', ← hnow] at hsame hlater
  refine ⟨next.nanos, next, deltas', latest, u, hread, hreads', htime, ⟨?_, hsame⟩, hlater⟩
  intro heq
  by_contra hnot
  have hmore := hlater hnot
  rw [heq] at hmore
  exact absurd hmore (by grind)

/-- A reading of a counter of four bits, on half a nanosecond, that is converted
    again when the counter has gone on by two cycles. -/
theorem timeOf_earlier_iff_halfNano :
    (1 ≤ (4 : UInt32).toNat ∧ (4 : UInt32).toNat ≤ 64) ∧ (1 : UInt32).toNat ≤ 64 ∧
    forwardCycles (4 : UInt32).toNat 0x20 0x13 ≤ (2 ^ (4 : UInt32).toNat - 1) / 2 ∧
    cyclesAlong (4 : UInt32).toNat 0x21 [0x13] ≤ (2 ^ (4 : UInt32).toNat - 1) / 2 ∧
    ¬Recoverable (exactTime 3 1 100 3) (exactTime 3 1 100 5) ∧
    ∃ deltas last t next t' next' deltas' latest u,
      (start (.ofWidth 4 3 1) 14 100).readAll [0x20] = .ok (deltas, last) ∧
      last.read 0x13 = .ok (t, next) ∧ last.timeOf 0x13 = .ok t ∧
      last.read 0x21 = .ok (t', next') ∧ next'.readAll [0x13] = .ok (deltas', latest) ∧
      latest.timeOf 0x21 = .ok u ∧ u ≠ t' ∧ u = t' + 1 := by
  have hbits : 1 ≤ (4 : UInt32).toNat ∧ (4 : UInt32).toNat ≤ 64 := by decide
  have hshift : (1 : UInt32).toNat ≤ 64 := by decide
  have hahead : forwardCycles (4 : UInt32).toNat 0x20 0x13 ≤ (2 ^ (4 : UInt32).toNat - 1) / 2 := by
    decide
  have hsince : cyclesAlong (4 : UInt32).toNat 0x21 [0x13] ≤ (2 ^ (4 : UInt32).toNat - 1) / 2 := by
    decide
  have hread : ⌊exactTime 3 1 100 3⌋ = 104 := (floor_exactTime ..).trans (by decide)
  have hnow : ⌊exactTime 3 1 100 5⌋ = 107 := (floor_exactTime ..).trans (by decide)
  have hnot : ¬Recoverable (exactTime 3 1 100 3) (exactTime 3 1 100 5) := by
    rintro (hwhole | hsame)
    · have hceil : ⌈exactTime 3 1 100 3⌉ = 105 := (ceil_exactTime ..).trans (by decide)
      rw [← hwhole, hread, Int.ceil_intCast] at hceil
      exact absurd hceil (by decide)
    · rw [hread, hnow] at hsame
      exact absurd hsame (by decide)
  obtain ⟨deltas, last, hreads, haheads, hearlier⟩ := timeOf_earlier_iff hbits hshift 14 100 [0x20]
  obtain ⟨t, next, hnext, htime⟩ := haheads 0x13 hahead
  obtain ⟨t', next', deltas', latest, u, hnext', hlatest, hback, hiff, hone⟩ :=
    hearlier 0x21 [0x13] hsince
  exact ⟨hbits, hshift, hahead, hsince, hnot, deltas, last, t, next, t', next', deltas', latest, u,
    hreads, hnext, htime, hnext', hlatest, hback, fun heq => hnot (hiff.mp heq), hone hnot⟩

/-- The time of a reading is not always what its value is converted to later. -/
theorem not_forall_timeOf_read :
    ¬ ∀ (bits mult shift : UInt32), 1 ≤ bits.toNat ∧ bits.toNat ≤ 64 → shift.toNat < 64 →
      ∀ (cycle initial : UInt64) (before : List UInt64) (earlier : UInt64) (after : List UInt64)
        (deltas deltas' : List UInt64) (last next latest : TimeBase) (t : UInt64),
        (start (.ofWidth bits mult shift) cycle initial).readAll before = .ok (deltas, last) →
        last.read earlier = .ok (t, next) → next.readAll after = .ok (deltas', latest) →
        cyclesAlong bits.toNat earlier after ≤ (2 ^ bits.toNat - 1) / 2 →
        latest.timeOf earlier = .ok t := by
  intro hall
  have hback := hall 48 3 1 (by decide) (by decide) 0 0 [] 1 [2] [] [2] _
    ⟨.ofWidth 48 3 1, 1, 1, 1⟩ ⟨.ofWidth 48 3 1, 2, 3, 0⟩ 1 rfl (by decide) (by decide) (by decide)
  exact absurd hback (by decide)

end TimeBase

end ClockDiscipline
