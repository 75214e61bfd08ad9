/-
  ClockDiscipline/Proofs/ReadingBetween.lean
  ==========================================
  **Reading a counter once more on the way to a later value.**

  A reading rounds the time down and carries what is left of the scaled cycles
  below one nanosecond on to the next.  As long as that fits into the 64 bits
  of a fraction, a reading on the way changes nothing that is left behind at
  its end.  With a shift above 64 the fraction is cut off on its upper side,
  and the time at the end is one nanosecond short if the part that was cut off
  would have completed it (`read_between_iff`).
-/
import ClockDiscipline.Proofs.LatchedTimes

namespace ClockDiscipline

/-! ### The way between two raw values -/

/-- A value that is reached first splits the way to a later one. -/
theorem forwardCycles_add {bits : Nat} {earlier between later : UInt64}
    (h : forwardCycles bits earlier between ≤ forwardCycles bits earlier later) :
    forwardCycles bits earlier between + forwardCycles bits between later =
      forwardCycles bits earlier later := by
  have hlt := forwardCycles_lt bits earlier later
  have hrest : (forwardCycles bits between later : Int) =
      ((forwardCycles bits earlier later : Int) - forwardCycles bits earlier between) %
        2 ^ bits := by
    rw [forwardCycles_cast, forwardCycles_cast, forwardCycles_cast, ← Int.sub_emod]
    congr 1
    ring
  rw [Int.emod_eq_of_lt (by omega) (by norm_cast; omega)] at hrest
  omega

/-! ### Remainders -/

/-- A remainder that is cut off to 64 bits completes as many units, together
    with what comes next, as the whole remainder does. -/
def CutHarmless (unit remainder next : Nat) : Prop :=
  (next + remainder % 2 ^ 64) / unit = (next + remainder) / unit

instance (unit remainder next : Nat) : Decidable (CutHarmless unit remainder next) :=
  inferInstanceAs (Decidable (_ = _))

section Remainders

variable {unit remainder : Nat}

theorem cutHarmless_of_lt (h : remainder < 2 ^ 64) (next : Nat) :
    CutHarmless unit remainder next := by
  unfold CutHarmless
  rw [Nat.mod_eq_of_lt h]

/-- Cutting a remainder off costs one unit at most. -/
theorem div_of_cut (h : remainder < unit) {next : Nat} (hcut : ¬CutHarmless unit remainder next) :
    (next + remainder) / unit = (next + remainder % 2 ^ 64) / unit + 1 := by
  have hunit : 0 < unit := by omega
  have hle : remainder % 2 ^ 64 ≤ remainder := Nat.mod_le _ _
  have hmono : (next + remainder % 2 ^ 64) / unit ≤ (next + remainder) / unit :=
    Nat.div_le_div_right (Nat.add_le_add_left hle next)
  have hone : (next + remainder) / unit ≤ (next + remainder % 2 ^ 64) / unit + 1 := by
    rw [← Nat.add_div_right _ hunit]
    exact Nat.div_le_div_right (by omega)
  unfold CutHarmless at hcut
  omega

end Remainders

namespace CycleCounter

/-- A fraction holds the low 64 bits of what a scaled cycle count leaves below
    one nanosecond. -/
theorem toNat_and_fractionMask (c : CycleCounter) (scaled : Nat) :
    (UInt64.ofNat scaled &&& c.fractionMask).toNat = scaled % 2 ^ c.shift.toNat % 2 ^ 64 := by
  unfold fractionMask
  by_cases h : c.shift.toNat ≤ 64
  · have hdvd : 2 ^ c.shift.toNat ∣ 2 ^ 64 := Nat.pow_dvd_pow 2 h
    have hlt : scaled % 2 ^ c.shift.toNat < 2 ^ 64 :=
      (Nat.mod_lt _ (Nat.two_pow_pos _)).trans_le (Nat.pow_le_pow_right (by decide) h)
    rw [toNat_and_low _ h, UInt64.toNat_ofNat', Nat.mod_mod_of_dvd _ hdvd, Nat.mod_eq_of_lt hlt]
  · have hdvd : 2 ^ 64 ∣ 2 ^ c.shift.toNat := Nat.pow_dvd_pow 2 (by omega)
    have hlow := toNat_and_low (UInt64.ofNat scaled) (le_refl 64)
    rw [Nat.min_self] at hlow
    rw [Nat.min_eq_right (by omega), hlow, UInt64.toNat_ofNat', Nat.mod_mod,
      Nat.mod_mod_of_dvd _ hdvd]

end CycleCounter

namespace TimeBase

variable {bits mult shift : UInt32} {initial latest cycle between later : UInt64} {base : TimeBase}

/-! ### One reading with any shift -/

/-- The timeline has been read last at the raw value `latest`.  This is what a
    reading keeps whether or not its fraction is cut off. -/
structure ReadAt (bits mult shift : UInt32) (latest : UInt64) (base : TimeBase) : Prop where
  counter : base.counter = .ofWidth bits mult shift
  lastCycle : base.lastCycle = latest &&& base.counter.mask

theorem readAt_start (bits mult shift : UInt32) (cycle initial : UInt64) :
    ReadAt bits mult shift cycle (start (.ofWidth bits mult shift) cycle initial) where
  counter := rfl
  lastCycle := rfl

theorem ReadAt.shift_eq (h : ReadAt bits mult shift latest base) : base.counter.shift = shift := by
  rw [h.counter]
  rfl

theorem ReadAt.scaledSince (h : ReadAt bits mult shift latest base) (hbits : bits.toNat ≤ 64)
    (cycle : UInt64) :
    base.scaledSince cycle =
      forwardCycles bits.toNat latest cycle * mult.toNat + base.fraction.toNat := by
  have hforward := toNat_sub_and_low latest cycle hbits
  unfold TimeBase.scaledSince
  rw [h.lastCycle, h.counter]
  exact congrArg (· * mult.toNat + base.fraction.toNat) hforward

/-- The timeline after a reading at `cycle`. -/
def afterReading (base : TimeBase) (cycle : UInt64) : TimeBase where
  counter := base.counter
  lastCycle := cycle &&& base.counter.mask
  nanos := base.nanos + UInt64.ofNat (base.scaledSince cycle / 2 ^ base.counter.shift.toNat)
  fraction := UInt64.ofNat (base.scaledSince cycle) &&& base.counter.fractionMask

theorem ReadAt.afterReading (h : ReadAt bits mult shift latest base) (cycle : UInt64) :
    ReadAt bits mult shift cycle (base.afterReading cycle) where
  counter := h.counter
  lastCycle := rfl

theorem ReadAt.readDelta (h : ReadAt bits mult shift latest base) (hshift : shift.toNat < 128)
    (cycle : UInt64) : ∃ delta, base.readDelta cycle = .ok (delta, base.afterReading cycle) := by
  have hshift' : base.counter.shift.toNat < 128 := by rwa [h.counter]
  exact ⟨_, readDelta_eq hshift' cycle⟩

theorem ReadAt.read (h : ReadAt bits mult shift latest base) (hshift : shift.toNat < 128)
    (cycle : UInt64) :
    base.read cycle = .ok ((base.afterReading cycle).nanos, base.afterReading cycle) := by
  obtain ⟨delta, hread⟩ := h.readDelta hshift cycle
  rw [TimeBase.read, hread]
  rfl

theorem ReadAt.readAll (h : ReadAt bits mult shift latest base) (hshift : shift.toNat < 128)
    (readings : List UInt64) : ∃ deltas last, base.readAll readings = .ok (deltas, last) ∧
      ReadAt bits mult shift (readings.getLastD latest) last := by
  induction readings generalizing base latest with
  | nil => exact ⟨[], base, rfl, h⟩
  | cons cycle rest ih =>
    obtain ⟨delta, hread⟩ := h.readDelta hshift cycle
    obtain ⟨deltas, last, hreads, hlast⟩ := ih (h.afterReading cycle)
    refine ⟨delta :: deltas, last, ?_, ?_⟩
    · simp only [TimeBase.readAll, hread, bind, Except.bind, hreads]
      rfl
    · rw [List.getLastD_cons]
      exact hlast

/-! ### Two readings and one -/

/-- What the way to `between` leaves below one nanosecond. -/
def remainderAt (base : TimeBase) (between : UInt64) : Nat :=
  base.scaledSince between % 2 ^ base.counter.shift.toNat

theorem ReadAt.remainderAt_lt (h : ReadAt bits mult shift latest base) (between : UInt64) :
    base.remainderAt between < 2 ^ shift.toNat := by
  rw [← h.shift_eq]
  exact Nat.mod_lt _ (Nat.two_pow_pos _)

theorem ReadAt.remainderAt_fits (h : ReadAt bits mult shift latest base)
    (hshift : shift.toNat ≤ 64) (between : UInt64) : base.remainderAt between < 2 ^ 64 :=
  (h.remainderAt_lt between).trans_le (Nat.pow_le_pow_right (by decide) hshift)

theorem ReadAt.scaledSince_between (h : ReadAt bits mult shift latest base)
    (hbits : bits.toNat ≤ 64) (between later : UInt64) :
    (base.afterReading between).scaledSince later =
      forwardCycles bits.toNat between later * mult.toNat +
        base.remainderAt between % 2 ^ 64 := by
  rw [(h.afterReading between).scaledSince hbits]
  exact congrArg (forwardCycles bits.toNat between later * mult.toNat + ·)
    (base.counter.toNat_and_fractionMask _)

theorem ReadAt.scaledSince_later (h : ReadAt bits mult shift latest base)
    (hbits : bits.toNat ≤ 64)
    (hway : forwardCycles bits.toNat latest between ≤ forwardCycles bits.toNat latest later) :
    base.scaledSince later =
      base.scaledSince between + forwardCycles bits.toNat between later * mult.toNat := by
  rw [h.scaledSince hbits, h.scaledSince hbits, ← forwardCycles_add hway, Nat.add_mul]
  omega

/-- The times differ by what the second half of the way completes. -/
theorem ReadAt.nanos_split (h : ReadAt bits mult shift latest base) (hbits : bits.toNat ≤ 64)
    (hway : forwardCycles bits.toNat latest between ≤ forwardCycles bits.toNat latest later) :
    (base.afterReading later).nanos = (base.afterReading between).nanos +
      UInt64.ofNat ((forwardCycles bits.toNat between later * mult.toNat +
        base.remainderAt between) / 2 ^ base.counter.shift.toNat) := by
  have hunit : 0 < 2 ^ base.counter.shift.toNat := Nat.two_pow_pos _
  have hcarry := add_mul_div_carry (base.scaledSince between)
    (forwardCycles bits.toNat between later * mult.toNat) 1 hunit
  rw [Nat.mul_one, Nat.mul_one, Nat.mul_one, ← h.scaledSince_later hbits hway] at hcarry
  show base.nanos + UInt64.ofNat _ = base.nanos + UInt64.ofNat _ + UInt64.ofNat _
  rw [hcarry, UInt64.ofNat_add, UInt64.add_assoc]
  rfl

/-- Read on the way, the same with what is left of the remainder. -/
theorem ReadAt.nanos_polled (h : ReadAt bits mult shift latest base) (hbits : bits.toNat ≤ 64)
    (between later : UInt64) :
    ((base.afterReading between).afterReading later).nanos = (base.afterReading between).nanos +
      UInt64.ofNat ((forwardCycles bits.toNat between later * mult.toNat +
        base.remainderAt between % 2 ^ 64) / 2 ^ base.counter.shift.toNat) := by
  rw [← h.scaledSince_between hbits]
  rfl

theorem ReadAt.fraction_later (h : ReadAt bits mult shift latest base) (hbits : bits.toNat ≤ 64)
    (hshift : shift.toNat ≤ 64)
    (hway : forwardCycles bits.toNat latest between ≤ forwardCycles bits.toNat latest later) :
    ((base.afterReading between).afterReading later).fraction =
      (base.afterReading later).fraction := by
  have hlt := h.remainderAt_fits hshift between
  apply UInt64.toNat_inj.mp
  show (UInt64.ofNat ((base.afterReading between).scaledSince later) &&&
      base.counter.fractionMask).toNat =
    (UInt64.ofNat (base.scaledSince later) &&& base.counter.fractionMask).toNat
  rw [CycleCounter.toNat_and_fractionMask, CycleCounter.toNat_and_fractionMask,
    h.scaledSince_between hbits, h.scaledSince_later hbits hway, Nat.mod_eq_of_lt hlt, remainderAt,
    Nat.add_mod_mod, Nat.add_comm]

/-- From any state that readings lead to, with any shift that a scaled count
    can be shifted by: a reading on the way to a later value leaves the time
    there unchanged exactly if cutting off what it carries is harmless, and one
    nanosecond behind otherwise.  With a shift up to 64 nothing is cut off, and the
    whole timeline is the same. -/
theorem read_between_iff {bits mult shift : UInt32} (hbits : 1 ≤ bits.toNat ∧ bits.toNat ≤ 64)
    (hshift : shift.toNat < 128) (cycle initial : UInt64) (before : List UInt64) :
    ∃ deltas base,
      (start (.ofWidth bits mult shift) cycle initial).readAll before = .ok (deltas, base) ∧
      ∀ between later, forwardCycles bits.toNat (before.getLastD cycle) between ≤
          forwardCycles bits.toNat (before.getLastD cycle) later →
        let harmless := CutHarmless (2 ^ shift.toNat) (base.remainderAt between)
          (forwardCycles bits.toNat between later * mult.toNat)
        ∃ direct halfway polled, base.read later = .ok (direct.nanos, direct) ∧
          base.read between = .ok (halfway.nanos, halfway) ∧
          halfway.read later = .ok (polled.nanos, polled) ∧
          (shift.toNat ≤ 64 → polled = direct) ∧ (polled.nanos = direct.nanos ↔ harmless) ∧
          (¬harmless → direct.nanos = polled.nanos + 1) := by
  obtain ⟨deltas, base, hreads, hbase⟩ :=
    (readAt_start bits mult shift cycle initial).readAll hshift before
  refine ⟨deltas, base, hreads, ?_⟩
  intro between later hway harmless
  have hhalfway := hbase.afterReading between
  have hdirect := hbase.nanos_split hbits.2 hway
  have hpolled := hbase.nanos_polled hbits.2 between later
  have hremainder := hbase.remainderAt_lt between
  rw [hbase.shift_eq] at hdirect hpolled
  have hsame : harmless →
      ((base.afterReading between).afterReading later).nanos = (base.afterReading later).nanos := by
    intro hcut
    rw [hpolled, hdirect, show _ / _ = _ / _ from hcut]
  have hless : ¬harmless → (base.afterReading later).nanos =
      ((base.afterReading between).afterReading later).nanos + 1 := by
    intro hcut
    rw [hpolled, hdirect, div_of_cut hremainder hcut, UInt64.ofNat_add, UInt64.add_assoc]
    rfl
  refine ⟨base.afterReading later, base.afterReading between, _, hbase.read hshift later,
    hbase.read hshift between, hhalfway.read hshift later, ?_, ⟨?_, hsame⟩, hless⟩
  · intro hnarrow
    have hnanos := hsame (cutHarmless_of_lt (hbase.remainderAt_fits hnarrow between) _)
    have hfraction := hbase.fraction_later hbits.2 hnarrow hway
    exact congrArg₂ (TimeBase.mk base.counter (later &&& base.counter.mask)) hnanos hfraction
  · intro heq
    by_contra hcut
    have hmore := hless hcut
    rw [heq] at hmore
    exact absurd hmore (by grind)

/-- A counter with half a nanosecond to `2 ^ 33` cycles: read every half
    nanosecond, it never gets to a whole one. -/
theorem read_between_iff_halfNano :
    (1 ≤ (48 : UInt32).toNat ∧ (48 : UInt32).toNat ≤ 64) ∧ (65 : UInt32).toNat < 128 ∧
    forwardCycles (48 : UInt32).toNat 0 0x200000000 ≤
      forwardCycles (48 : UInt32).toNat 0 0x400000000 ∧
    ∃ deltas base direct halfway polled,
      (start (.ofWidth 48 0x80000000 65) 0 0).readAll [] = .ok (deltas, base) ∧
      base.read 0x400000000 = .ok (direct.nanos, direct) ∧
      base.read 0x200000000 = .ok (halfway.nanos, halfway) ∧
      halfway.read 0x400000000 = .ok (polled.nanos, polled) ∧
      polled.nanos ≠ direct.nanos ∧ direct.nanos = polled.nanos + 1 := by
  have hbits : 1 ≤ (48 : UInt32).toNat ∧ (48 : UInt32).toNat ≤ 64 := by decide
  have hshift : (65 : UInt32).toNat < 128 := by decide
  have hway : forwardCycles (48 : UInt32).toNat 0 0x200000000 ≤
      forwardCycles (48 : UInt32).toNat 0 0x400000000 := by decide
  obtain ⟨deltas, base, hreads, hbetween⟩ :=
    @read_between_iff 48 0x80000000 65 hbits hshift 0 0 []
  obtain ⟨direct, halfway, polled, hdirect, hhalfway, hpolled, -, hiff, hless⟩ :=
    hbetween 0x200000000 0x400000000 hway
  obtain rfl : start (.ofWidth 48 0x80000000 65) 0 0 = base :=
    congrArg Prod.snd (Except.ok.inj hreads)
  have hcut : ¬CutHarmless (2 ^ (65 : UInt32).toNat)
      ((start (.ofWidth 48 0x80000000 65) 0 0).remainderAt 0x200000000)
      (forwardCycles (48 : UInt32).toNat 0x200000000 0x400000000 *
        (0x80000000 : UInt32).toNat) := by decide
  exact ⟨hbits, hshift, hway, deltas, _, direct, halfway, polled, hreads, hdirect, hhalfway,
    hpolled, fun heq => hcut (hiff.mp heq), hless hcut⟩

/-- The time may depend on whether a counter is read on the way. -/
theorem not_forall_read_between :
    ¬∀ (bits mult shift : UInt32), 1 ≤ bits.toNat ∧ bits.toNat ≤ 64 → shift.toNat < 128 →
      ∀ (cycle initial : UInt64) (before : List UInt64) (deltas : List UInt64) (base : TimeBase),
        (start (.ofWidth bits mult shift) cycle initial).readAll before = .ok (deltas, base) →
        ∀ (between later s t u : UInt64) (direct halfway polled : TimeBase),
          forwardCycles bits.toNat (before.getLastD cycle) between ≤
            forwardCycles bits.toNat (before.getLastD cycle) later →
          base.read later = .ok (t, direct) → base.read between = .ok (s, halfway) →
          halfway.read later = .ok (u, polled) → polled.nanos = direct.nanos := by
  intro hall
  have hsame := hall 48 0x80000000 65 (by decide) (by decide) 0 0 [] [] _ rfl
    0x200000000 0x400000000 0 1 0 ⟨.ofWidth 48 0x80000000 65, 0x400000000, 1, 0⟩
    ⟨.ofWidth 48 0x80000000 65, 0x200000000, 0, 0⟩ ⟨.ofWidth 48 0x80000000 65, 0x400000000, 0, 0⟩
    (by decide) (by decide) (by decide) (by decide)
  exact absurd hsame (by decide)

end TimeBase

end ClockDiscipline
