/-
  ClockDiscipline/Proofs/EdgeRounding.lean
  ========================================
  **Rounding a time to the edges of a pulse that is out of phase.**

  The phase is taken off, the rest is rounded to the full second and the phase
  is put on again.  If none of the three results leaves its range, what comes
  out is the nearest edge, and there is only one (`NearestEdge.unique`).  All
  else follows from that and not from the arithmetic: what is the nearest edge
  of one time tells what it is of another (`approximateEdge_rounds`).
-/
import ClockDiscipline.Proofs.Edges

namespace ClockDiscipline

/-! ### The nearest full second -/

/-- The nearest full second; of two at the same distance the earlier one. -/
def nearestSecond (nanos : Int) : Int := (nanos + 499999999) / nanosPerSecond * nanosPerSecond

theorem dvd_nearestSecond (nanos : Int) : nanosPerSecond ∣ nearestSecond nanos :=
  Int.dvd_mul_left ..

theorem nearestSecond_of_dvd {nanos : Int} (h : nanosPerSecond ∣ nanos) :
    nearestSecond nanos = nanos := by
  unfold nearestSecond nanosPerSecond at *
  omega

/-- The integer is that of a word. -/
def IsWord (n : Int) : Prop := -0x8000000000000000 ≤ n ∧ n < 0x8000000000000000

instance (n : Int) : Decidable (IsWord n) := inferInstanceAs (Decidable (_ ∧ _))

theorem isWord_toInt (w : Int64) : IsWord w.toInt := ⟨w.le_toInt, w.toInt_lt⟩

namespace Instant

theorem exists_exactly {n : Int} (h : IsWord n) : ∃ t, exactly n = .ok t ∧ t.nanos.toInt = n := by
  obtain ⟨w, -, hw⟩ := Checked.exists_word h.1 h.2
  exact ⟨⟨w⟩, exactly_eq_ok_iff.mpr hw, hw⟩

theorem roundToSecond_eq (t : Instant) :
    t.roundToSecond = exactly (nearestSecond t.nanos.toInt) := by
  have hsplit := t.secs_subsec
  have hsubsec := t.subsec_lt
  have hround : (if 500000000 < t.subsec then t.secs + 1 else t.secs) =
      (t.nanos.toInt + 499999999) / nanosPerSecond := by
    unfold nanosPerSecond at *
    split <;> omega
  rw [roundToSecond, hround]
  rfl

end Instant

/-! ### Laws of the nearest edge -/

namespace NearestEdge

variable {t u edge edge' : Instant} {phase phase' : Duration}

/-- Two edges less than a second apart are one. -/
theorem unique (h : NearestEdge t edge phase) (h' : NearestEdge t edge' phase) :
    edge' = edge := by
  have hrises := h.rises
  have hrises' := h'.rises
  have hlate := h.notLate
  have hearly := h.notEarly
  have hlate' := h'.notLate
  have hearly' := h'.notEarly
  unfold nanosPerSecond at hrises hrises'
  apply Instant.ext_toInt
  omega

/-- An edge is nearest to itself. -/
theorem self (h : NearestEdge t edge phase) : NearestEdge edge edge phase where
  rises := h.rises
  notLate := by omega
  notEarly := by omega

/-- Whole seconds pass through. -/
theorem shift {seconds : Int} (h : NearestEdge t edge phase) (h' : NearestEdge u edge' phase)
    (hshift : u.nanos.toInt = t.nanos.toInt + seconds * nanosPerSecond) :
    edge'.nanos.toInt = edge.nanos.toInt + seconds * nanosPerSecond := by
  have hrises := h.rises
  have hrises' := h'.rises
  have hlate := h.notLate
  have hearly := h.notEarly
  have hlate' := h'.notLate
  have hearly' := h'.notEarly
  unfold nanosPerSecond at *
  omega

/-- A later edge is at least a second later, which is more than two times in
    the right order can be apart in the wrong one. -/
theorem mono (h : NearestEdge t edge phase) (h' : NearestEdge u edge' phase)
    (hle : t.nanos.toInt ≤ u.nanos.toInt) : edge.nanos.toInt ≤ edge'.nanos.toInt := by
  have hrises := h.rises
  have hrises' := h'.rises
  have hlate := h.notLate
  have hearly' := h'.notEarly
  unfold nanosPerSecond at hrises hrises'
  omega

theorem rephase (h : NearestEdge t edge phase)
    (hphase : nanosPerSecond ∣ phase'.nanos.toInt - phase.nanos.toInt) :
    NearestEdge t edge phase' := by
  have hrises := h.rises
  refine ⟨?_, h.notLate, h.notEarly⟩
  unfold nanosPerSecond at *
  omega

end NearestEdge

/-! ### Rounding to an edge -/

/-- No intermediate result of rounding leaves its range. -/
structure RoundsInRange (t : Instant) (phase : Duration) : Prop where
  shifted : IsWord (t.nanos.toInt - phase.nanos.toInt)
  second : IsWord (nearestSecond (t.nanos.toInt - phase.nanos.toInt))
  edge : IsWord (nearestSecond (t.nanos.toInt - phase.nanos.toInt) + phase.nanos.toInt)

section Rounding

variable {t u edge : Instant} {phase phase' : Duration}

theorem approximateEdge_eq_ok_iff : approximateEdge t phase = .ok edge ↔
    RoundsInRange t phase ∧ edge.nanos.toInt =
      nearestSecond (t.nanos.toInt - phase.nanos.toInt) + phase.nanos.toInt := by
  unfold approximateEdge
  simp only [Checked.bind_eq_ok_iff, Instant.sub_eq_ok_iff, Instant.roundToSecond_eq,
    Instant.exactly_eq_ok_iff, Instant.add_eq_ok_iff]
  constructor
  · rintro ⟨shifted, hshifted, second, hsecond, hedge⟩
    rw [← hshifted, ← hsecond]
    refine ⟨⟨?_, ?_, ?_⟩, hedge⟩
    · rw [← hshifted]
      exact isWord_toInt _
    · rw [← hshifted, ← hsecond]
      exact isWord_toInt _
    · rw [← hshifted, ← hsecond, ← hedge]
      exact isWord_toInt _
  · rintro ⟨h, hedge⟩
    obtain ⟨shifted, -, hshifted⟩ := Instant.exists_exactly h.shifted
    obtain ⟨second, -, hsecond⟩ := Instant.exists_exactly h.second
    refine ⟨shifted, hshifted, second, ?_, ?_⟩
    · rw [hshifted, hsecond]
    · rw [hsecond, hedge]

theorem RoundsInRange.exists_edge (h : RoundsInRange t phase) :
    ∃ edge, approximateEdge t phase = .ok edge ∧ NearestEdge t edge phase := by
  obtain ⟨edge, -, hedge⟩ := Instant.exists_exactly h.edge
  have hrounds := approximateEdge_eq_ok_iff.mpr ⟨h, hedge⟩
  exact ⟨edge, hrounds, approximateEdge_nearest hrounds⟩

/-- The nearest edge is the only time that rounding can end at. -/
theorem RoundsInRange.eq_ok (h : RoundsInRange t phase) (hedge : NearestEdge t edge phase) :
    approximateEdge t phase = .ok edge := by
  obtain ⟨edge', hrounds, hnearest⟩ := h.exists_edge
  rw [hrounds, hnearest.unique hedge]

/-- An edge is rounded within the range in which it was found. -/
theorem RoundsInRange.self (h : approximateEdge t phase = .ok edge) : RoundsInRange edge phase := by
  obtain ⟨hrange, hedge⟩ := approximateEdge_eq_ok_iff.mp h
  have hsecond : edge.nanos.toInt - phase.nanos.toInt =
      nearestSecond (t.nanos.toInt - phase.nanos.toInt) := by omega
  have hsame : nearestSecond (edge.nanos.toInt - phase.nanos.toInt) =
      nearestSecond (t.nanos.toInt - phase.nanos.toInt) := by
    rw [hsecond]
    exact nearestSecond_of_dvd (dvd_nearestSecond _)
  constructor
  · rw [hsecond]
    exact hrange.second
  · rw [hsame]
    exact hrange.second
  · rw [hsame]
    exact hrange.edge

end Rounding

/-- As long as no result leaves its range, a time of any sign is rounded to the
    one edge that it is at most half a second after, or less than half a
    second before.  So an edge stays where it is, whole seconds pass through,
    the order is kept, and of the phase only the part below a second counts. -/
theorem approximateEdge_rounds {t : Instant} {phase : Duration} (h : RoundsInRange t phase) :
    ∃ edge, approximateEdge t phase = .ok edge ∧
      (∀ other, NearestEdge t other phase ↔ other = edge) ∧
      approximateEdge edge phase = .ok edge ∧
      (∀ (u : Instant) (seconds : Int), RoundsInRange u phase →
        u.nanos.toInt = t.nanos.toInt + seconds * nanosPerSecond →
        ∃ edge', approximateEdge u phase = .ok edge' ∧
          edge'.nanos.toInt = edge.nanos.toInt + seconds * nanosPerSecond) ∧
      (∀ u : Instant, RoundsInRange u phase → t.nanos.toInt ≤ u.nanos.toInt →
        ∃ edge', approximateEdge u phase = .ok edge' ∧
          edge.nanos.toInt ≤ edge'.nanos.toInt) ∧
      ∀ phase' : Duration, RoundsInRange t phase' →
        nanosPerSecond ∣ phase'.nanos.toInt - phase.nanos.toInt →
        approximateEdge t phase' = .ok edge := by
  obtain ⟨edge, hrounds, hnearest⟩ := h.exists_edge
  refine ⟨edge, hrounds, ?_, ?_, ?_, ?_, ?_⟩
  · intro other
    constructor
    · exact hnearest.unique
    · rintro rfl
      exact hnearest
  · exact (RoundsInRange.self hrounds).eq_ok hnearest.self
  · intro u seconds hu hshift
    obtain ⟨edge', hrounds', hnearest'⟩ := hu.exists_edge
    exact ⟨edge', hrounds', hnearest.shift hnearest' hshift⟩
  · intro u hu hle
    obtain ⟨edge', hrounds', hnearest'⟩ := hu.exists_edge
    exact ⟨edge', hrounds', hnearest.mono hnearest' hle⟩
  · intro phase' hphase' hdvd
    exact hphase'.eq_ok (hnearest.rephase hdvd)

/-- Half a second after the edge of a pulse that rises before the full second,
    and before the epoch. -/
theorem approximateEdge_rounds_beforeEpoch :
    RoundsInRange ⟨-2600000000⟩ ⟨-100000000⟩ ∧ RoundsInRange ⟨-1600000000⟩ ⟨-100000000⟩ ∧
    RoundsInRange ⟨-2599999999⟩ ⟨-100000000⟩ ∧ RoundsInRange ⟨-2600000000⟩ ⟨6900000000⟩ ∧
    approximateEdge ⟨-2600000000⟩ ⟨-100000000⟩ = .ok ⟨-3100000000⟩ ∧
    (∀ other, NearestEdge ⟨-2600000000⟩ other ⟨-100000000⟩ ↔ other = ⟨-3100000000⟩) ∧
    approximateEdge ⟨-3100000000⟩ ⟨-100000000⟩ = .ok ⟨-3100000000⟩ ∧
    approximateEdge ⟨-1600000000⟩ ⟨-100000000⟩ = .ok ⟨-2100000000⟩ ∧
    (∃ edge, approximateEdge ⟨-2599999999⟩ ⟨-100000000⟩ = .ok edge ∧
      -3100000000 ≤ edge.nanos.toInt) ∧
    approximateEdge ⟨-2600000000⟩ ⟨6900000000⟩ = .ok ⟨-3100000000⟩ := by
  have h : RoundsInRange ⟨-2600000000⟩ ⟨-100000000⟩ := ⟨by decide, by decide, by decide⟩
  have hlater : RoundsInRange ⟨-1600000000⟩ ⟨-100000000⟩ := ⟨by decide, by decide, by decide⟩
  have hnext : RoundsInRange ⟨-2599999999⟩ ⟨-100000000⟩ := ⟨by decide, by decide, by decide⟩
  have hphase : RoundsInRange ⟨-2600000000⟩ ⟨6900000000⟩ := ⟨by decide, by decide, by decide⟩
  have hedge : approximateEdge ⟨-2600000000⟩ ⟨-100000000⟩ = .ok ⟨-3100000000⟩ :=
    approximateEdge_eq_ok_iff.mpr ⟨h, by decide⟩
  obtain ⟨edge, hrounds, hunique, hself, hshift, hmono, hrephase⟩ := approximateEdge_rounds h
  cases hrounds.symm.trans hedge
  obtain ⟨edge', hrounds', hlater'⟩ := hshift ⟨-1600000000⟩ 1 hlater (by decide)
  obtain rfl : edge' = ⟨-2100000000⟩ := Instant.ext_toInt hlater'
  exact ⟨h, hlater, hnext, hphase, hedge, hunique, hself, hrounds', hmono _ hnext (by decide),
    hrephase _ hphase (by decide)⟩

end ClockDiscipline
