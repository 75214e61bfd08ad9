/-
  ClockDiscipline/Proofs/BusFault.lean
  ====================================
  **What a bus fault leaves of the servo of a clock behind a bus.**

  A tracking cycle reads the counter three times, feeds the measured offset to
  the servo and writes the rate that it answers.  A fault while the counter is
  read comes before the servo and leaves it alone.  A fault of the write comes
  after it: the sample has been taken and stays taken, although the clock
  never got the rate (`servo_after_busFault`).  So a faulty cycle keeps the
  servo exactly if it failed at a reading, or if the sample happened to change
  nothing (`busFault_keeps_servo_iff`).
-/
import ClockDiscipline.Bench.Bus
import ClockDiscipline.Proofs.Action
import ClockDiscipline.Rate.Tracking

namespace ClockDiscipline

open ClockDiscipline.Action

variable {W β γ : Type} {c : BusClock W β γ} {t t' : RateTracker} {m m' : Machine W}

namespace RateTracker

/-! ### The parts of a cycle -/

/-- The servo after it was fed a measurement. -/
def servoAfter (t : RateTracker) (measured : Measurement) : PiServo :=
  (t.servo.sample measured.offset.nanos 1).2

/-- A correction keeps the sample, whatever becomes of the rate. -/
theorem correct_servo {measured : Measurement}
    {result : Except (TrackingError β γ) TrackingOutcome}
    (h : Returns (t.correct c measured) m (result, t') m') :
    t'.servo = t.servoAfter measured := by
  unfold correct at h
  rcases hs : t.servo.sample measured.offset.nanos 1 with ⟨adjustment, servo⟩
  have hafter : t.servoAfter measured = servo := by simp [servoAfter, hs]
  rw [hs] at h
  rw [hafter]
  cases hencode : RateRegister.encode (1 + adjustment) with
  | error e =>
    simp only [hencode, returns_pure, Prod.mk.injEq] at h
    rw [h.1.2]
  | ok rate =>
    simp only [hencode, returns_bind] at h
    obtain ⟨written, m₁, -, h⟩ := h
    cases written with
    | error e =>
      simp only [returns_pure, Prod.mk.injEq] at h
      rw [h.1.2]
    | ok u =>
      simp only [returns_pure, Prod.mk.injEq] at h
      rw [h.1.2]

/-- A tracking phase fails at a reading, skips the offset or corrects the
    rate. -/
theorem track_cases {result : Except (TrackingError β γ) TrackingOutcome}
    (h : Returns (t.track c) m (result, t') m') :
    (∃ e, Returns (measure c t.config) m (.error e) m' ∧ result = .error e ∧ t' = t) ∨
    ∃ measured m₁, Returns (measure c t.config) m (.ok measured) m₁ ∧
      ((∃ resetRequested, result = .ok (.skipped measured resetRequested)) ∨
        ∃ m₂, Returns (correct c { t with lastOffset := some measured.offset } measured) m₂
          (result, t') m') := by
  simp only [track, returns_bind] at h
  obtain ⟨reading, m₁, hm, h⟩ := h
  cases reading with
  | error e =>
    simp only [returns_pure, Prod.mk.injEq] at h
    obtain ⟨⟨rfl, rfl⟩, rfl⟩ := h
    exact .inl ⟨e, hm, rfl, rfl⟩
  | ok measured =>
    refine .inr ⟨measured, m₁, hm, ?_⟩
    simp only [returns_bind, returns_log, exists_eq_left, exists_const] at h
    split at h
    · simp only [returns_bind, returns_log, exists_eq_left, exists_const, returns_pure,
        Prod.mk.injEq] at h
      exact .inl ⟨_, h.1.1⟩
    · exact .inr ⟨_, h⟩

/-- The answer to a bus fault does not touch the servo. -/
theorem afterBusFault_servo (t : RateTracker) : t.afterBusFault.servo = t.servo := by
  unfold afterBusFault
  split
  · split <;> rfl
  · rfl

/-- Without a pending reset a faulty cycle is a tracking phase that ended in
    the fault, and the answer to it. -/
theorem sync_busFault {e : β} (hreset : t.resetRequested = false)
    (h : Returns (t.sync c) m (.error (.bus e), t') m') :
    ∃ t₁, Returns (t.track c) m (.error (.bus e), t₁) m' ∧ t' = t₁.afterBusFault := by
  simp only [sync, run, hreset, Bool.false_eq_true, if_false, returns_bind] at h
  obtain ⟨⟨result, t₁⟩, m₁, ht, h⟩ := h
  refine ⟨t₁, ?_⟩
  cases result with
  | error e₁ =>
    cases e₁ with
    | bus e₂ =>
      simp only [returns_pure, Prod.mk.injEq, Except.error.injEq, TrackingError.bus.injEq] at h
      obtain ⟨⟨rfl, rfl⟩, rfl⟩ := h
      exact ⟨ht, rfl⟩
    | clock e₂ => simp at h
    | range e₂ => simp at h
  | ok outcome => simp at h

/-! ### The servo after a fault -/

/-- A bus fault while the counter is read leaves the servo as it was, and any
    other one leaves it with the sample. -/
theorem servo_after_busFault {e : β} (hreset : t.resetRequested = false)
    (h : Returns (t.sync c) m (.error (.bus e), t') m') :
    (Returns (measure c t.config) m (.error (.bus e)) m' ∧ t'.servo = t.servo) ∨
    ∃ measured m₁, Returns (measure c t.config) m (.ok measured) m₁ ∧
      t'.servo = t.servoAfter measured := by
  obtain ⟨t₁, ht, rfl⟩ := sync_busFault hreset h
  rw [afterBusFault_servo]
  rcases track_cases ht with ⟨e₁, hm, he, rfl⟩ | ⟨measured, m₁, hm, hskip | ⟨m₂, hc⟩⟩
  · cases he
    exact .inl ⟨hm, rfl⟩
  · obtain ⟨resetRequested, hskip⟩ := hskip
    cases hskip
  · have hsampled := correct_servo hc
    exact .inr ⟨measured, m₁, hm, hsampled⟩

/-- A cycle without a pending reset that ends in a bus fault keeps the servo,
    with its accumulator and its lock, exactly if a reading of the counter
    failed or the servo is not changed by the offset that was measured. -/
theorem busFault_keeps_servo_iff {e : β} (hreset : t.resetRequested = false)
    (h : Returns (t.sync c) m (.error (.bus e), t') m') :
    t'.servo = t.servo ↔
      (∃ m₁, Returns (measure c t.config) m (.error (.bus e)) m₁) ∨
      ∃ measured m₁, Returns (measure c t.config) m (.ok measured) m₁ ∧
        t.servoAfter measured = t.servo := by
  rcases servo_after_busFault hreset h with ⟨hm, hkept⟩ | ⟨measured, m₁, hm, hsampled⟩
  · exact ⟨fun _ => .inl ⟨m', hm⟩, fun _ => hkept⟩
  · rw [hsampled]
    constructor
    · intro hsame
      exact .inr ⟨measured, m₁, hm, hsame⟩
    · rintro (⟨m₂, hfailed⟩ | ⟨other, m₂, hother, hsame⟩)
      · cases (hm.unique hfailed).1
      · cases (hm.unique hother).1
        exact hsame

/-! ### A write that gets lost -/

open Bench

/-- A clock on the scripted bus. -/
def scriptedClock : BusClock BusWorld BusFailure ReferenceFailure :=
  ⟨scriptedBus, scriptedReference⟩

/-- A tracker that has been reset and has not seen a sample yet. -/
def aligned : RateTracker := { start {} with resetRequested := false }

/-- A bus on which the clock is found 970 ns ahead and the rate can not be
    written. -/
def lostWrite : Machine BusWorld where
  world := {
    now := [some ⟨1000⟩, some ⟨1060⟩, some ⟨2000⟩, some ⟨2060⟩, some ⟨3000⟩, some ⟨3060⟩]
    reads := [some 250, some 375, some 500]
    rateBudget := some 0 }
  journal := #[]

/-- Whether a cycle has ended in a bus fault with a locked servo. -/
def locksInFault :
    Except Fault (Except (TrackingError BusFailure ReferenceFailure) TrackingOutcome ×
      RateTracker) → Bool
  | .ok (.error (.bus .fault), t) => t.servo.lock.state == .locked
  | _ => false

/-- The cycle ends in a bus fault, and the servo has locked meanwhile. -/
theorem sync_lostWrite :
    ∃ t' m', Returns (aligned.sync scriptedClock) lostWrite (.error (.bus .fault), t') m' ∧
      t'.servo.lock.state = .locked := by
  have h : locksInFault ((aligned.sync scriptedClock).outcome lostWrite).1 = true := by
    decide +kernel
  unfold locksInFault at h
  split at h
  · next t' hrun => exact ⟨t', _, returns_of_outcome hrun, by simpa using h⟩
  · cases h

/-- It is not so that a bus fault always leaves the servo as it was. -/
theorem not_forall_busFault_keeps_servo :
    ¬ ∀ (c : BusClock BusWorld BusFailure ReferenceFailure) (t t' : RateTracker)
      (m m' : Machine BusWorld) (e : BusFailure), t.resetRequested = false →
      Returns (t.sync c) m (.error (.bus e), t') m' → t'.servo = t.servo := by
  intro hkeeps
  obtain ⟨t', m', hrun, hlocked⟩ := sync_lostWrite
  rw [hkeeps _ _ _ _ _ _ rfl hrun] at hlocked
  cases hlocked

theorem busFault_keeps_servo_iff_lostWrite :
    aligned.resetRequested = false ∧
    ∃ t' m', Returns (aligned.sync scriptedClock) lostWrite (.error (.bus .fault), t') m' ∧
      (t'.servo = aligned.servo ↔
        (∃ m₁, Returns (measure scriptedClock aligned.config) lostWrite (.error (.bus .fault)) m₁) ∨
        ∃ measured m₁, Returns (measure scriptedClock aligned.config) lostWrite (.ok measured) m₁ ∧
          aligned.servoAfter measured = aligned.servo) := by
  obtain ⟨t', m', hrun, -⟩ := sync_lostWrite
  exact ⟨rfl, t', m', hrun, busFault_keeps_servo_iff rfl hrun⟩

end RateTracker

end ClockDiscipline
