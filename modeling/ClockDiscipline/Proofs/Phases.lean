/-
  ClockDiscipline/Proofs/Phases.lean
  ==================================
  **How the two phases of a cycle of a clock behind a bus can end.**

  `ResetEnds` and `TrackEnds` have one constructor for each way out of the
  reset phase and of the tracking phase, with the steps that were taken until
  then and the tracker that is left.  What is said of a cycle is proved from
  these, and not from the code of the phases.
-/
import ClockDiscipline.Proofs.Action
import ClockDiscipline.Rate.Tracking

namespace ClockDiscipline

open ClockDiscipline.Action

variable {W β γ : Type} {c : BusClock W β γ} {t : RateTracker} {m m' : Machine W}

namespace RateTracker

/-- Whether an offset is too large to be corrected. -/
def Exceeded (config : TrackingConfig) (offset : Duration) : Prop :=
  config.maxOffset.toInt ≤ offset.nanos.toInt.natAbs

/-- Whether an offset is too large to be corrected, and a second or more. -/
def Lost (config : TrackingConfig) (offset : Duration) : Prop :=
  Exceeded config offset ∧ nanosPerSecond ≤ offset.nanos.toInt.natAbs

instance (config : TrackingConfig) (offset : Duration) : Decidable (Exceeded config offset) :=
  inferInstanceAs (Decidable (_ ≤ _))

instance (config : TrackingConfig) (offset : Duration) : Decidable (Lost config offset) :=
  inferInstanceAs (Decidable (_ ∧ _))

/-- The least word counts as one less than its distance from zero, which no
    bound that is a word can tell. -/
theorem le_magnitude_iff (a bound : Int64) :
    bound.toInt ≤ (Checked.magnitude a).toInt ↔ bound.toInt ≤ a.toInt.natAbs := by
  have hgreatest : bound.toInt < 0x8000000000000000 := bound.toInt_lt
  have hlow : -0x8000000000000000 ≤ a.toInt := a.le_toInt
  have hhigh : a.toInt < 0x8000000000000000 := a.toInt_lt
  unfold Checked.magnitude
  split
  · next hleast =>
    rw [Int64.toInt_ofInt_of_le (by decide) (by decide), hleast]
    omega
  · next hnot => rw [Int64.toInt_ofInt_of_le (by omega) (by omega)]

theorem exceeded_iff {config : TrackingConfig} {offset : Duration} :
    config.maxOffset.toInt ≤ offset.abs.nanos.toInt ↔ Exceeded config offset :=
  le_magnitude_iff offset.nanos config.maxOffset

theorem second_le_abs_iff (offset : Duration) :
    nanosPerSecond ≤ offset.abs.nanos.toInt ↔ nanosPerSecond ≤ offset.nanos.toInt.natAbs :=
  le_magnitude_iff offset.nanos 1000000000

/-! ### The reset phase -/

inductive ResetEnds (c : BusClock W β γ) (t : RateTracker) (m : Machine W) :
    Except (TrackingError β γ) Unit → RateTracker → Machine W → Prop
  | notSet {e : TrackingError β γ} {m' : Machine W}
      (set : Returns (setBehind c t.config) m (.error e) m') : ResetEnds c t m (.error e) t m'
  | notMeasured {e : TrackingError β γ} {m₀ m' : Machine W}
      (set : Returns (setBehind c t.config) m (.ok ()) m₀)
      (reading : Returns (measure c t.config) m₀ (.error e) m') : ResetEnds c t m (.error e) t m'
  | notBehind {measured : Measurement} {text : String} {m₀ m₁ : Machine W}
      (set : Returns (setBehind c t.config) m (.ok ()) m₀)
      (reading : Returns (measure c t.config) m₀ (.ok measured) m₁)
      (ahead : 0 ≤ measured.offset.nanos.toInt) :
      ResetEnds c t m (.error (.range (.offset measured.offset.nanos.toInt))) t
        (noted m₁ .debug text)
  | notAdvanced {measured : Measurement} {ticks : UInt64} {text : String} {e : β}
      {m₀ m₁ m' : Machine W}
      (set : Returns (setBehind c t.config) m (.ok ()) m₀)
      (reading : Returns (measure c t.config) m₀ (.ok measured) m₁)
      (behind : measured.offset.nanos.toInt < 0)
      (lacking : ticksLacking t.config measured.offset = .ok ticks)
      (added : Returns (c.bus.addTime ticks) (noted m₁ .debug text) (.error e) m') :
      ResetEnds c t m (.error (.bus e)) t m'
  | aligned {measured : Measurement} {ticks : UInt64} {text : String} {m₀ m₁ m' : Machine W}
      (set : Returns (setBehind c t.config) m (.ok ()) m₀)
      (reading : Returns (measure c t.config) m₀ (.ok measured) m₁)
      (behind : measured.offset.nanos.toInt < 0)
      (lacking : ticksLacking t.config measured.offset = .ok ticks)
      (added : Returns (c.bus.addTime ticks) (noted m₁ .debug text) (.ok ()) m') :
      ResetEnds c t m (.ok ()) { t with resetRequested := false, servo := t.servo.reset } m'

theorem reset_ends {result : Except (TrackingError β γ) Unit} {t' : RateTracker}
    (h : Returns (t.reset c) m (result, t') m') : ResetEnds c t m result t' m' := by
  simp only [reset, returns_bind] at h
  obtain ⟨set, m₀, hset, h⟩ := h
  cases set with
  | error e =>
    simp only [returns_pure, Prod.mk.injEq] at h
    obtain ⟨⟨rfl, rfl⟩, rfl⟩ := h
    exact .notSet hset
  | ok =>
    simp only [returns_bind] at h
    obtain ⟨reading, m₁, hread, h⟩ := h
    cases reading with
    | error e =>
      simp only [returns_pure, Prod.mk.injEq] at h
      obtain ⟨⟨rfl, rfl⟩, rfl⟩ := h
      exact .notMeasured hset hread
    | ok measured =>
      simp only [returns_bind, returns_log, exists_eq_left, exists_const] at h
      obtain ⟨advanced, m₂, hadvance, h⟩ := h
      unfold advance at hadvance
      split at hadvance
      · next hbehind =>
        have hbehind : measured.offset.nanos.toInt < 0 := of_decide_eq_true hbehind
        simp only [returns_bind, returns_checked, returns_pure] at hadvance
        obtain ⟨ticks, _, ⟨hlacking, rfl⟩, answer, _, hadd, rfl, rfl⟩ := hadvance
        cases answer with
        | error e =>
          obtain ⟨hends, rfl⟩ := returns_pure.mp h
          obtain ⟨rfl, rfl⟩ := Prod.mk.inj hends
          exact .notAdvanced hset hread hbehind hlacking hadd
        | ok =>
          obtain ⟨hends, rfl⟩ := returns_pure.mp h
          obtain ⟨rfl, rfl⟩ := Prod.mk.inj hends
          exact .aligned hset hread hbehind hlacking hadd
      · next hnot =>
        have hahead : 0 ≤ measured.offset.nanos.toInt :=
          Int.not_lt.mp fun hlt => hnot (decide_eq_true hlt)
        obtain ⟨rfl, rfl⟩ := returns_pure.mp hadvance
        simp only [returns_pure, Prod.mk.injEq] at h
        obtain ⟨⟨rfl, rfl⟩, rfl⟩ := h
        exact .notBehind hset hread hahead

/-! ### The tracking phase -/

inductive TrackEnds (c : BusClock W β γ) (t : RateTracker) (m : Machine W) :
    Except (TrackingError β γ) TrackingOutcome → RateTracker → Machine W → Prop
  | notMeasured {e : TrackingError β γ} {m' : Machine W}
      (reading : Returns (measure c t.config) m (.error e) m') : TrackEnds c t m (.error e) t m'
  | skipped {measured : Measurement} {text₁ text₂ : String} {m₁ : Machine W}
      (reading : Returns (measure c t.config) m (.ok measured) m₁)
      (large : Exceeded t.config measured.offset) :
      TrackEnds c t m
        (.ok (.skipped measured (t.resetRequested || decide (Lost t.config measured.offset))))
        { t with
          lastOffset := some measured.offset
          resetRequested := t.resetRequested || decide (Lost t.config measured.offset) }
        (noted (noted m₁ .debug text₁) .error text₂)
  | notEncoded {measured : Measurement} {e : RangeError} {servo : PiServo} {text : String}
      {m₁ : Machine W}
      (reading : Returns (measure c t.config) m (.ok measured) m₁)
      (small : ¬Exceeded t.config measured.offset) :
      TrackEnds c t m (.error (.range e))
        { t with lastOffset := some measured.offset, servo := servo } (noted m₁ .debug text)
  | notWritten {measured : Measurement} {e : β} {rate : RateRegister} {servo : PiServo}
      {text : String} {m₁ m' : Machine W}
      (reading : Returns (measure c t.config) m (.ok measured) m₁)
      (small : ¬Exceeded t.config measured.offset)
      (written : Returns (c.bus.writeRate rate) (noted m₁ .debug text) (.error e) m') :
      TrackEnds c t m (.error (.bus e))
        { t with lastOffset := some measured.offset, servo := servo } m'
  | adjusted {measured : Measurement} {rate : RateRegister} {servo : PiServo} {text : String}
      {m₁ m' : Machine W}
      (reading : Returns (measure c t.config) m (.ok measured) m₁)
      (small : ¬Exceeded t.config measured.offset)
      (written : Returns (c.bus.writeRate rate) (noted m₁ .debug text) (.ok ()) m') :
      TrackEnds c t m (.ok (.adjusted measured rate))
        { t with lastOffset := some measured.offset, servo := servo } m'

/-- A correction changes the servo and writes one rate, if there is a rate for
    it. -/
theorem correct_cases {measured : Measurement} {t' : RateTracker}
    {result : Except (TrackingError β γ) TrackingOutcome}
    (h : Returns (t.correct c measured) m (result, t') m') :
    ∃ servo, t' = { t with servo := servo } ∧
      ((∃ e, result = .error (.range e) ∧ m' = m) ∨
        (∃ rate e, Returns (c.bus.writeRate rate) m (.error e) m' ∧ result = .error (.bus e)) ∨
        ∃ rate, Returns (c.bus.writeRate rate) m (.ok ()) m' ∧
          result = .ok (.adjusted measured rate)) := by
  unfold correct at h
  rcases hs : t.servo.sample measured.offset.nanos 1 with ⟨adjustment, servo⟩
  rw [hs] at h
  cases hencode : RateRegister.encode (1 + adjustment) with
  | error e =>
    simp only [hencode, returns_pure, Prod.mk.injEq] at h
    obtain ⟨⟨rfl, rfl⟩, rfl⟩ := h
    exact ⟨servo, rfl, .inl ⟨e, rfl, rfl⟩⟩
  | ok rate =>
    simp only [hencode, returns_bind] at h
    obtain ⟨written, m₁, hwrite, h⟩ := h
    cases written with
    | error e =>
      simp only [returns_pure, Prod.mk.injEq] at h
      obtain ⟨⟨rfl, rfl⟩, rfl⟩ := h
      exact ⟨servo, rfl, .inr (.inl ⟨rate, e, hwrite, rfl⟩)⟩
    | ok =>
      simp only [returns_pure, Prod.mk.injEq] at h
      obtain ⟨⟨rfl, rfl⟩, rfl⟩ := h
      exact ⟨servo, rfl, .inr (.inr ⟨rate, hwrite, rfl⟩)⟩

theorem track_ends {result : Except (TrackingError β γ) TrackingOutcome} {t' : RateTracker}
    (h : Returns (t.track c) m (result, t') m') : TrackEnds c t m result t' m' := by
  simp only [track, returns_bind] at h
  obtain ⟨reading, m₁, hread, h⟩ := h
  cases reading with
  | error e =>
    simp only [returns_pure, Prod.mk.injEq] at h
    obtain ⟨⟨rfl, rfl⟩, rfl⟩ := h
    exact .notMeasured hread
  | ok measured =>
    simp only [returns_bind, returns_log, exists_eq_left, exists_const] at h
    split at h
    · next hlarge =>
      have hlarge : Exceeded t.config measured.offset := exceeded_iff.mp hlarge
      have hlost : Lost t.config measured.offset ↔
          nanosPerSecond ≤ measured.offset.abs.nanos.toInt := by
        rw [second_le_abs_iff]
        exact and_iff_right hlarge
      simp only [returns_bind, returns_log, exists_eq_left, exists_const, returns_pure,
        Prod.mk.injEq] at h
      obtain ⟨⟨rfl, rfl⟩, rfl⟩ := h
      simp only [← hlost]
      exact .skipped hread hlarge
    · next hsmall =>
      have hsmall : ¬Exceeded t.config measured.offset := mt exceeded_iff.mpr hsmall
      obtain ⟨servo, rfl, ⟨e, rfl, rfl⟩ | ⟨rate, e, hwrite, rfl⟩ | ⟨rate, hwrite, rfl⟩⟩ :=
        correct_cases h
      · exact .notEncoded hread hsmall
      · exact .notWritten hread hsmall hwrite
      · exact .adjusted hread hsmall hwrite

/-! ### The cycle -/

/-- A cycle ends with its reset phase, or with the tracking phase that comes
    after it. -/
inductive CycleEnds (c : BusClock W β γ) (t : RateTracker) (m : Machine W) :
    Except (TrackingError β γ) TrackingOutcome → RateTracker → Machine W → Prop
  | reset {e : TrackingError β γ} {m' : Machine W} (pending : t.resetRequested = true)
      (reset : ResetEnds c t m (.error e) t m') : CycleEnds c t m (.error e) t m'
  | aligned {result : Except (TrackingError β γ) TrackingOutcome} {t₁ t' : RateTracker}
      {m₁ m' : Machine W} (pending : t.resetRequested = true)
      (reset : ResetEnds c t m (.ok ()) t₁ m₁) (track : TrackEnds c t₁ m₁ result t' m') :
      CycleEnds c t m result t' m'
  | calm {result : Except (TrackingError β γ) TrackingOutcome} {t' : RateTracker}
      {m' : Machine W} (pending : t.resetRequested = false)
      (track : TrackEnds c t m result t' m') : CycleEnds c t m result t' m'

theorem ResetEnds.error_keeps {e : TrackingError β γ} {t' : RateTracker}
    (h : ResetEnds c t m (.error e) t' m') : t' = t := by
  cases h <;> rfl

theorem run_ends {result : Except (TrackingError β γ) TrackingOutcome} {t' : RateTracker}
    (h : Returns (t.run c) m (result, t') m') : CycleEnds c t m result t' m' := by
  unfold run at h
  split at h
  · next hpending =>
    simp only [returns_bind] at h
    obtain ⟨⟨reset, t₁⟩, m₁, hreset, h⟩ := h
    have hreset := reset_ends hreset
    cases reset with
    | error e =>
      obtain rfl := hreset.error_keeps
      simp only [returns_pure, Prod.mk.injEq] at h
      obtain ⟨⟨rfl, rfl⟩, rfl⟩ := h
      exact .reset hpending hreset
    | ok => exact .aligned hpending hreset (track_ends h)
  · next hcalm => exact .calm (Bool.eq_false_iff.mpr hcalm) (track_ends h)

/-- Only a bus fault is answered after the phases. -/
theorem sync_ends {result : Except (TrackingError β γ) TrackingOutcome} {t' : RateTracker}
    (h : Returns (t.sync c) m (result, t') m') :
    ∃ t₁, CycleEnds c t m result t₁ m' ∧
      (((∃ e, result = .error (.bus e)) ∧ t' = t₁.afterBusFault) ∨
        (¬∃ e, result = .error (.bus e)) ∧ t' = t₁) := by
  simp only [sync, returns_bind] at h
  obtain ⟨⟨ended, t₁⟩, m₁, hrun, h⟩ := h
  rcases ended with (e | e | e) | outcome
  all_goals
    simp only [returns_pure, Prod.mk.injEq] at h
    obtain ⟨⟨rfl, rfl⟩, rfl⟩ := h
  · exact ⟨t₁, run_ends hrun, .inl ⟨⟨e, rfl⟩, rfl⟩⟩
  all_goals exact ⟨_, run_ends hrun, .inr ⟨by simp, rfl⟩⟩

end RateTracker

end ClockDiscipline
