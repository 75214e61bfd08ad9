/-
  ClockDiscipline/Proofs/RisingEdge.lean
  ======================================
  **Whether the beginning of a pulse is let in.**

  A pulse need not rise on the full second.  The edge that a clock is corrected
  against is found by taking the phase off the reading first, but the ignore
  window looks at the reading as it is.  A reading on an edge shows the phase as
  its sub-second part (`Instant.subsec_of_edge`), so that it depends on phase and
  width alone whether the edges of a pulse are let in: either all of them are
  ignored, or none is (`EdgeSource.risingEdge_ignored_iff`).
-/
import ClockDiscipline.Proofs.FallingEdge

namespace ClockDiscipline

open ClockDiscipline.Action

/-- A reading that is its own nearest edge lies the phase after a full second. -/
theorem Instant.subsec_of_edge {t : Instant} {phase : Duration}
    (h : approximateEdge t phase = .ok t) :
    (t.subsec : Int) = phase.nanos.toInt % nanosPerSecond := by
  have hrises := (approximateEdge_nearest h).rises
  have hsplit := t.secs_subsec
  have hsubsec := t.subsec_lt
  unfold nanosPerSecond at hrises hsplit ⊢
  omega

namespace EdgeSource

/-- An event that is handled on an edge of the pulse is ignored exactly if the
    pulse rises further than half its width from the full second.  Otherwise it
    becomes a sample of the full second nearest to that edge, unless that leaves
    the range of times. -/
theorem risingEdge_ignored_iff {config : SourceConfig} (clock : ClockId)
    (hboth : config.polarity = .both) (hpos : 0 < config.pulseWidth.toInt)
    (hshort : config.pulseWidth.toInt < nanosPerSecond) :
    ∃ s, ofConfig config clock = .ok s ∧
      ∀ {W : Type} (m : Machine W) (event : EdgeEvent) (reference : Instant) (phase : Duration),
        approximateEdge reference phase = .ok reference →
        let late := phase.nanos.toInt % nanosPerSecond
        let far := config.pulseWidth.toInt / 2 < late ∧
          late < nanosPerSecond - config.pulseWidth.toInt / 2
        ((∃ m', Returns (s.pair event reference) m .ambiguous m') ↔ far) ∧
        ∀ offset localTime,
          (∃ m', Returns (s.pair event reference) m (.sample offset localTime) m') ↔
          ¬far ∧ localTime.nanos.toInt = event.time.nanos.toInt + config.correction.toInt ∧
          ∃ second : Instant, reference.roundToSecond = .ok second ∧
            offset.nanos.toInt = localTime.nanos.toInt - second.nanos.toInt := by
  obtain ⟨s, hs, hpolarity, hcorrection, hcontains⟩ := ofConfig_spec clock hpos hshort
  refine ⟨s, hs, fun m event reference phase hedge => ?_⟩
  intro late far
  have hinside : (s.polarity.isBoth = true ∧ s.window.contains reference.subsec = true) ↔ far := by
    rw [hpolarity, hboth, hcontains, Instant.subsec_of_edge hedge]
    exact and_iff_right rfl
  constructor
  · rw [pair_returns_iff, pairEvent_ambiguous_iff, hinside]
  intro offset localTime
  rw [pair_returns_iff, pairEvent_sample_iff, hinside, Instant.add_eq_ok_iff, hcorrection]
  refine and_congr_right fun _ => and_congr_right fun _ => exists_congr fun second => ?_
  rw [Instant.since_eq_ok_iff]

/-- A pulse of half a second that rises a tenth of a second late is let in. -/
theorem risingEdge_ignored_iff_tenthLate :
    (0 : Int) < (500000000 : Int64).toInt ∧ (500000000 : Int64).toInt < nanosPerSecond ∧
    approximateEdge ⟨1000100000000⟩ ⟨100000000⟩ = .ok ⟨1000100000000⟩ ∧
    ∃ s, ofConfig { device := "eth0", polarity := .both } ⟨0⟩ = .ok s ∧
      (¬∃ m', Returns (s.pair ⟨0, ⟨1000100000020⟩⟩ ⟨1000100000000⟩) (⟨(), #[]⟩ : Machine Unit)
        .ambiguous m') ∧
      ∃ m', Returns (s.pair ⟨0, ⟨1000100000020⟩⟩ ⟨1000100000000⟩) (⟨(), #[]⟩ : Machine Unit)
        (.sample ⟨100000020⟩ ⟨1000100000020⟩) m' := by
  have hedge : approximateEdge ⟨1000100000000⟩ ⟨100000000⟩ = .ok ⟨1000100000000⟩ := rfl
  obtain ⟨s, hs, hpair⟩ := @risingEdge_ignored_iff { device := "eth0", polarity := .both } ⟨0⟩
    rfl (by decide) (by decide)
  obtain ⟨hignored, hsample⟩ :=
    hpair ⟨(), #[]⟩ ⟨0, ⟨1000100000020⟩⟩ ⟨1000100000000⟩ ⟨100000000⟩ hedge
  refine ⟨by decide, by decide, hedge, s, hs, ?_, ?_⟩
  · rw [hignored]
    decide
  · exact (hsample ⟨100000020⟩ ⟨1000100000020⟩).mpr
      ⟨by decide, by decide, ⟨1000000000000⟩, rfl, by decide⟩

/-- A pulse of half a second that rises half a second late is never let in. -/
theorem not_forall_risingEdge_accepted :
    ¬∀ (config : SourceConfig) (clock : ClockId) (s : EdgeSource), config.polarity = .both →
      0 < config.pulseWidth.toInt → config.pulseWidth.toInt < nanosPerSecond →
      ofConfig config clock = .ok s → ∀ (event reference : Instant) (phase : Duration),
        0 ≤ phase.nanos.toInt → phase.nanos.toInt < nanosPerSecond →
        approximateEdge reference phase = .ok reference →
        pairEvent event s.correction reference s.polarity s.window ≠ .ok .ambiguous := by
  intro h
  refine h { device := "eth0", polarity := .both } ⟨0⟩
    ⟨"eth0", ⟨0⟩, 0, 0, .both, ⟨0⟩, ⟨250000000, 750000000⟩⟩ rfl (by decide) (by decide) rfl
    ⟨1000500000020⟩ ⟨1000500000000⟩ ⟨500000000⟩ (by decide) (by decide) rfl ?_
  exact pairEvent_ambiguous_iff.mpr (by decide)

end EdgeSource

end ClockDiscipline
