/-
  ClockDiscipline/Proofs/Timeline.lean
  ====================================
  **A timeline loses nothing between its readings.**

  However the readings of a counter are spaced, the timeline stands at the
  whole nanoseconds of all cycles counted since its start, taken together.
  The invariant is `Counted`: time and fraction are quotient and remainder of
  one product, that of the cycles counted so far and the multiplier.  A
  reading adds to the product (`Counted.readDelta`), and what it takes from
  the remainder is what the quotient gains (`readAll_counted`).
-/
import ClockDiscipline.Time.Counter
import Mathlib.Tactic.LinearCombination
import Mathlib.Tactic.Positivity
import Mathlib.Tactic.Zify

namespace ClockDiscipline

/-! ### Cycles -/

/-- How far a counter of so many bits moves forward from one raw value to the
    other. -/
def forwardCycles (bits : Nat) (earlier later : UInt64) : Nat :=
  (((later.toNat : Int) - earlier.toNat) % 2 ^ bits).toNat

/-- How far it moves forward along a list of raw values. -/
def cyclesAlong (bits : Nat) : UInt64 → List UInt64 → Nat
  | _, [] => 0
  | earlier, later :: rest => forwardCycles bits earlier later + cyclesAlong bits later rest

theorem forwardCycles_cast (bits : Nat) (earlier later : UInt64) :
    (forwardCycles bits earlier later : Int) =
      ((later.toNat : Int) - earlier.toNat) % 2 ^ bits := by
  have hpos : (0 : Int) < 2 ^ bits := by positivity
  exact Int.toNat_of_nonneg (Int.emod_nonneg _ hpos.ne')

theorem toNat_low {bits : Nat} (h : bits ≤ 64) :
    (UInt64.ofNat (Nat.pow 2 (min bits 64) - 1)).toNat = 2 ^ bits - 1 := by
  have hpow : 2 ^ bits ≤ 2 ^ 64 := Nat.pow_le_pow_right (by decide) h
  have hpos : 0 < 2 ^ bits := Nat.two_pow_pos bits
  rw [Nat.min_eq_left h, UInt64.toNat_ofNat']
  exact Nat.mod_eq_of_lt (by show 2 ^ bits - 1 < 2 ^ 64; omega)

theorem toNat_and_low (x : UInt64) {bits : Nat} (h : bits ≤ 64) :
    (x &&& UInt64.ofNat (Nat.pow 2 (min bits 64) - 1)).toNat = x.toNat % 2 ^ bits := by
  rw [UInt64.toNat_and, toNat_low h, Nat.and_two_pow_sub_one_eq_mod]

/-- Masking the earlier value, and then the difference, is counting forward
    between the raw values. -/
theorem toNat_sub_and_low (earlier later : UInt64) {bits : Nat} (h : bits ≤ 64) :
    ((later - (earlier &&& UInt64.ofNat (Nat.pow 2 (min bits 64) - 1))) &&&
      UInt64.ofNat (Nat.pow 2 (min bits 64) - 1)).toNat = forwardCycles bits earlier later := by
  have hdvd : 2 ^ bits ∣ 2 ^ 64 := Nat.pow_dvd_pow 2 h
  have hle : earlier.toNat % 2 ^ bits ≤ 2 ^ 64 :=
    (Nat.mod_le _ _).trans earlier.toNat_lt.le
  rw [toNat_and_low _ h, UInt64.toNat_sub, toNat_and_low _ h, Nat.mod_mod_of_dvd _ hdvd]
  obtain ⟨turns, hturns⟩ := hdvd
  zify [hle]
  rw [forwardCycles_cast]
  have hearlier := Int.emod_add_mul_ediv (earlier.toNat : Int) (2 ^ bits)
  -- the two differ by whole turns of the counter
  have hsplit : (2 : Int) ^ 64 - (earlier.toNat : Int) % 2 ^ bits + later.toNat =
      ((later.toNat : Int) - earlier.toNat) +
        2 ^ bits * (turns + (earlier.toNat : Int) / 2 ^ bits) := by
    have hturns' : (2 : Int) ^ 64 = 2 ^ bits * turns := by exact_mod_cast hturns
    rw [hturns']
    linear_combination -hearlier
  rw [hsplit, Int.add_mul_emod_self_left]

namespace CycleCounter

/-- The product of a word and a multiplier, and the fraction of a word on top,
    stay far within 128 bits. -/
theorem scaled_lt (cycles fraction : UInt64) (mult : UInt32) :
    cycles.toNat * mult.toNat + fraction.toNat < 0x100000000000000000000000000000000 := by
  have hcycles : cycles.toNat ≤ 2 ^ 64 := cycles.toNat_lt.le
  have hmult : mult.toNat ≤ 2 ^ 32 := mult.toNat_lt.le
  have hfraction := fraction.toNat_lt
  have hproduct : cycles.toNat * mult.toNat ≤ 2 ^ 64 * 2 ^ 32 := Nat.mul_le_mul hcycles hmult
  omega

theorem nanosAhead_eq {c : CycleCounter} (h : c.shift.toNat < 128) (cycles fraction : UInt64) :
    c.nanosAhead cycles fraction =
      .ok (UInt64.ofNat ((cycles.toNat * c.mult.toNat + fraction.toNat) / 2 ^ c.shift.toNat),
        UInt64.ofNat (cycles.toNat * c.mult.toNat + fraction.toNat) &&& c.fractionMask) := by
  have hwide : wide (cycles.toNat * c.mult.toNat + fraction.toNat) =
      .ok (cycles.toNat * c.mult.toNat + fraction.toNat) := if_pos (scaled_lt _ _ _)
  simp only [nanosAhead, hwide, unscale, if_pos h, Nat.shiftRight_eq_div_pow]
  rfl

end CycleCounter

namespace TimeBase

/-! ### One reading -/

/-- The cycles since the last reading, scaled, and the fraction left from before. -/
def scaledSince (base : TimeBase) (cycle : UInt64) : Nat :=
  ((cycle - base.lastCycle) &&& base.counter.mask).toNat * base.counter.mult.toNat +
    base.fraction.toNat

theorem readDelta_eq {base : TimeBase} (h : base.counter.shift.toNat < 128) (cycle : UInt64) :
    base.readDelta cycle =
      .ok (UInt64.ofNat (base.scaledSince cycle / 2 ^ base.counter.shift.toNat),
        { base with
          lastCycle := cycle &&& base.counter.mask
          nanos := base.nanos +
            UInt64.ofNat (base.scaledSince cycle / 2 ^ base.counter.shift.toNat)
          fraction := UInt64.ofNat (base.scaledSince cycle) &&& base.counter.fractionMask }) := by
  rw [readDelta, CycleCounter.nanosAhead_eq h]
  rfl

section Counting

variable {bits mult shift : UInt32} {initial latest cycle : UInt64} {cycles : Nat}
  {base : TimeBase}

/-- The timeline has been read last at the raw value `latest`, and so many
    cycles have been counted since it stood at `initial`. -/
structure Counted (bits mult shift : UInt32) (initial latest : UInt64) (cycles : Nat)
    (base : TimeBase) : Prop where
  counter : base.counter = .ofWidth bits mult shift
  lastCycle : base.lastCycle = latest &&& base.counter.mask
  nanos : base.nanos.toNat = (initial.toNat + cycles * mult.toNat / 2 ^ shift.toNat) % 2 ^ 64
  fraction : base.fraction.toNat = cycles * mult.toNat % 2 ^ shift.toNat

theorem counted_start (bits mult shift : UInt32) (cycle initial : UInt64) :
    Counted bits mult shift initial cycle 0
      (start (.ofWidth bits mult shift) cycle initial) where
  counter := rfl
  lastCycle := rfl
  nanos := by
    rw [Nat.zero_mul, Nat.zero_div, Nat.add_zero, Nat.mod_eq_of_lt initial.toNat_lt]
    rfl
  fraction := by
    rw [Nat.zero_mul, Nat.zero_mod]
    rfl

/-- What is carried as a remainder is what the quotient gains later. -/
theorem add_mul_div_carry (counted more factor : Nat) {unit : Nat} (h : 0 < unit) :
    (counted + more) * factor / unit =
      counted * factor / unit + (more * factor + counted * factor % unit) / unit := by
  have hsplit := Nat.div_add_mod (counted * factor) unit
  have hsum : (counted + more) * factor =
      (more * factor + counted * factor % unit) + unit * (counted * factor / unit) := by
    rw [Nat.add_mul]
    omega
  rw [hsum, Nat.add_mul_div_left _ _ h, Nat.add_comm]

/-- One reading counts on, and its delta is what the time gains. -/
theorem Counted.readDelta (h : Counted bits mult shift initial latest cycles base)
    (hbits : bits.toNat ≤ 64) (hshift : shift.toNat ≤ 64) (cycle : UInt64) :
    ∃ delta next, base.readDelta cycle = .ok (delta, next) ∧
      Counted bits mult shift initial cycle (cycles + forwardCycles bits.toNat latest cycle) next ∧
      (cycles * mult.toNat / 2 ^ shift.toNat + delta.toNat) % 2 ^ 64 =
        (cycles + forwardCycles bits.toNat latest cycle) * mult.toNat / 2 ^ shift.toNat %
          2 ^ 64 := by
  obtain ⟨hcounter, hlast, hnanos, hfraction⟩ := h
  have hunit : 0 < 2 ^ shift.toNat := Nat.two_pow_pos _
  have hshift' : base.counter.shift.toNat < 128 := by
    rw [hcounter]
    show shift.toNat < 128
    omega
  have hforward : ((cycle - base.lastCycle) &&& base.counter.mask).toNat =
      forwardCycles bits.toNat latest cycle := by
    rw [hlast, hcounter]
    exact toNat_sub_and_low latest cycle hbits
  have hscaled : base.scaledSince cycle = forwardCycles bits.toNat latest cycle * mult.toNat +
      cycles * mult.toNat % 2 ^ shift.toNat := by
    rw [scaledSince, hforward, hfraction, hcounter]
    rfl
  have hunit' : base.counter.shift.toNat = shift.toNat := by rw [hcounter]; rfl
  have hcarry := add_mul_div_carry cycles (forwardCycles bits.toNat latest cycle) mult.toNat hunit
  refine ⟨_, _, readDelta_eq hshift' cycle, ?_, ?_⟩
  · constructor
    · exact hcounter
    · rfl
    · simp only [UInt64.toNat_add, UInt64.toNat_ofNat', hscaled, hunit', hnanos]
      rw [hcarry]
      omega
    · simp only [hscaled]
      rw [hcounter]
      have hdvd : 2 ^ shift.toNat ∣ 2 ^ 64 := Nat.pow_dvd_pow 2 hshift
      refine (toNat_and_low _ hshift).trans ?_
      rw [UInt64.toNat_ofNat', Nat.mod_mod_of_dvd _ hdvd, Nat.add_mod_mod, ← Nat.add_mul,
        Nat.add_comm (forwardCycles _ _ _)]
  · simp only [UInt64.toNat_ofNat', hscaled, hunit']
    rw [hcarry]
    omega

/-! ### All readings -/

/-- Advance to one raw value after the other; the result is the list of the
    times that have passed in between. -/
def readAll (base : TimeBase) : List UInt64 → Checked (List UInt64 × TimeBase)
  | [] => .ok ([], base)
  | cycle :: rest => do
    let (delta, next) ← base.readDelta cycle
    let (deltas, last) ← next.readAll rest
    return (delta :: deltas, last)

/-- Any number of readings keeps the count, and the deltas add up to what the
    time has gained. -/
theorem readAll_counted (h : Counted bits mult shift initial latest cycles base)
    (hbits : bits.toNat ≤ 64) (hshift : shift.toNat ≤ 64) (readings : List UInt64) :
    ∃ deltas last, base.readAll readings = .ok (deltas, last) ∧
      Counted bits mult shift initial (readings.getLastD latest)
        (cycles + cyclesAlong bits.toNat latest readings) last ∧
      (cycles * mult.toNat / 2 ^ shift.toNat + (deltas.map (·.toNat)).sum) % 2 ^ 64 =
        (cycles + cyclesAlong bits.toNat latest readings) * mult.toNat / 2 ^ shift.toNat %
          2 ^ 64 := by
  -- the count so far is general, as every reading adds to it
  induction readings generalizing base latest cycles with
  | nil => exact ⟨[], base, rfl, h, by simp [cyclesAlong]⟩
  | cons cycle rest ih =>
    obtain ⟨delta, next, hread, hnext, hdelta⟩ := h.readDelta hbits hshift cycle
    obtain ⟨deltas, last, hreads, hlast, hsum⟩ := ih hnext
    have hcycles : cycles + cyclesAlong bits.toNat latest (cycle :: rest) =
        cycles + forwardCycles bits.toNat latest cycle + cyclesAlong bits.toNat cycle rest :=
      (Nat.add_assoc _ _ _).symm
    refine ⟨delta :: deltas, last, ?_, ?_, ?_⟩
    · simp only [readAll, hread, bind, Except.bind, hreads]
      rfl
    · rw [hcycles, List.getLastD_cons]
      exact hlast
    · rw [hcycles, List.map_cons, List.sum_cons]
      omega

end Counting

/-- After any readings of a counter of up to 64 bits, the time is that of all
    cycles counted forward since the start, scaled once and rounded down once;
    and the deltas add up to the same. -/
theorem readAll_exact {bits mult shift : UInt32} (hbits : 1 ≤ bits.toNat ∧ bits.toNat ≤ 64)
    (hshift : shift.toNat ≤ 64) (cycle initial : UInt64) (readings : List UInt64) :
    ∃ deltas last,
      (start (.ofWidth bits mult shift) cycle initial).readAll readings = .ok (deltas, last) ∧
      last.nanos.toNat = (initial.toNat +
        cyclesAlong bits.toNat cycle readings * mult.toNat / 2 ^ shift.toNat) % 2 ^ 64 ∧
      (deltas.map (·.toNat)).sum % 2 ^ 64 =
        cyclesAlong bits.toNat cycle readings * mult.toNat / 2 ^ shift.toNat % 2 ^ 64 := by
  have hstart := counted_start bits mult shift cycle initial
  obtain ⟨deltas, last, hreads, hlast, hsum⟩ := readAll_counted hstart hbits.2 hshift readings
  rw [Nat.zero_add] at hlast hsum
  rw [Nat.zero_mul, Nat.zero_div, Nat.zero_add] at hsum
  exact ⟨deltas, last, hreads, hlast.nanos, hsum⟩

/-- A counter of four bits that goes round twice, read by words that are wider,
    while the time goes round as well. -/
theorem readAll_exact_aroundTwice :
    (1 ≤ (4 : UInt32).toNat ∧ (4 : UInt32).toNat ≤ 64) ∧ (1 : UInt32).toNat ≤ 64 ∧
    ∃ deltas last,
      (start (.ofWidth 4 3 1) 14 0xfffffffffffffff6).readAll [0x21, 0x10, 0xff] =
        .ok (deltas, last) ∧
      last.nanos.toNat = 39 ∧ (deltas.map (·.toNat)).sum % 2 ^ 64 = 49 := by
  have hbits : 1 ≤ (4 : UInt32).toNat ∧ (4 : UInt32).toNat ≤ 64 := by decide
  have hshift : (1 : UInt32).toNat ≤ 64 := by decide
  have hcycles : cyclesAlong (4 : UInt32).toNat 14 [0x21, 0x10, 0xff] = 33 := by decide
  obtain ⟨deltas, last, hreads, hnanos, hsum⟩ :=
    readAll_exact hbits hshift 14 0xfffffffffffffff6 [0x21, 0x10, 0xff]
  rw [hcycles] at hnanos hsum
  exact ⟨hbits, hshift, deltas, last, hreads, hnanos, hsum⟩

example : ((start (.ofWidth 48 3 1) 0 0).readAll [1, 2, 3, 4]).map (·.1) = .ok [1, 2, 1, 2] := by
  decide

end TimeBase

end ClockDiscipline
