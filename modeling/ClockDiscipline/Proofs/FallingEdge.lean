/-
  ClockDiscipline/Proofs/FallingEdge.lean
  =======================================
  **Whether the end of a pulse is kept out.**

  A pulse rises on the full second and falls one pulse width later.  The
  ignore window spares half the width on either side of the second, so that
  its upper bound comes closer to the second as the width grows, while the
  falling edge moves towards that bound from below.  The two meet where a width
  and a half make a second: the falling edge of a narrower pulse is ignored,
  the one of a wider pulse passes for an early edge of the second that
  follows (`EdgeSource.fallingEdge_ignored_iff`).
-/
import ClockDiscipline.Proofs.Edges
import ClockDiscipline.Proofs.Events

namespace ClockDiscipline

open ClockDiscipline.Action

variable {W : Type}

/-! ### The window of a pulse width -/

/-- What a width below a second spares is half of it on either side. -/
theorem IgnoreWindow.ofPulseWidth_spec (width : Duration) (hpos : 0 < width.nanos.toInt)
    (hshort : width.nanos.toInt < nanosPerSecond) :
    ∃ window, IgnoreWindow.ofPulseWidth width = .ok window ∧ ∀ subsec : Nat,
      window.contains subsec = true ↔ width.nanos.toInt / 2 < subsec ∧
        subsec < nanosPerSecond - width.nanos.toInt / 2 := by
  unfold nanosPerSecond at hshort ⊢
  have htwo : (2 : Int64).toInt = 2 := rfl
  have hsecond : (1000000000 : Int64).toInt = 1000000000 := rfl
  have hquot : width.nanos.toInt.tdiv 2 = width.nanos.toInt / 2 :=
    Int.tdiv_eq_ediv_of_nonneg (by omega)
  obtain ⟨half, hhalf, hhalfInt⟩ :=
    Checked.exists_word (x := width.nanos.toInt / 2) (by omega) (by omega)
  obtain ⟨upper, hupper, hupperInt⟩ :=
    Checked.exists_word (x := 1000000000 - width.nanos.toInt / 2) (by omega) (by omega)
  refine ⟨⟨half, upper⟩, ?_, fun subsec => ?_⟩
  · apply Checked.bind_eq_ok_iff.mpr
    refine ⟨half, ?_, ?_⟩
    · rw [Checked.quot, htwo, hquot]
      exact hhalf
    · apply Checked.bind_eq_ok_iff.mpr
      refine ⟨upper, ?_, rfl⟩
      rw [Checked.sub, hsecond, hhalfInt]
      exact hupper
  · simp only [IgnoreWindow.contains, Bool.and_eq_true, decide_eq_true_eq, hhalfInt, hupperInt]

/-! ### Pairing in and out of the window -/

theorem pairEvent_ambiguous_iff {event reference : Instant} {correction : Duration}
    {polarity : Polarity} {window : IgnoreWindow} :
    pairEvent event correction reference polarity window = .ok .ambiguous ↔
      polarity.isBoth = true ∧ window.contains reference.subsec = true := by
  rw [← Bool.and_eq_true]
  unfold pairEvent
  split
  · next h => exact ⟨fun _ => h, fun _ => rfl⟩
  · next h =>
    refine ⟨fun hpair => ?_, fun hin => absurd hin h⟩
    obtain ⟨_, -, hpair⟩ := Checked.bind_eq_ok_iff.mp hpair
    obtain ⟨_, -, hpair⟩ := Checked.bind_eq_ok_iff.mp hpair
    obtain ⟨_, -, hpair⟩ := Checked.bind_eq_ok_iff.mp hpair
    cases hpair

/-- Out of the window a sample is taken against the nearest second. -/
theorem pairEvent_sample_iff {event reference localTime : Instant} {correction offset : Duration}
    {polarity : Polarity} {window : IgnoreWindow} :
    pairEvent event correction reference polarity window = .ok (.sample offset localTime) ↔
      ¬(polarity.isBoth = true ∧ window.contains reference.subsec = true) ∧
      event.add correction = .ok localTime ∧
      ∃ edge, reference.roundToSecond = .ok edge ∧ localTime.since edge = .ok offset := by
  constructor
  · intro h
    refine ⟨fun hin => ?_, pairEvent_localTime h, pairEvent_edge h⟩
    rw [pairEvent_ambiguous_iff.mpr hin] at h
    cases h
  · rintro ⟨hout, hlocal, edge, hedge, hoffset⟩
    rw [← Bool.and_eq_true] at hout
    unfold pairEvent
    rw [if_neg hout, hlocal]
    exact Checked.bind_eq_ok_iff.mpr ⟨localTime, rfl,
      Checked.bind_eq_ok_iff.mpr ⟨edge, hedge, Checked.bind_eq_ok_iff.mpr ⟨offset, hoffset, rfl⟩⟩⟩

/-- In its second half a second is rounded to the one that follows. -/
theorem Instant.roundToSecond_late {t edge : Instant} (h : 500000000 < t.subsec) :
    t.roundToSecond = .ok edge ↔ edge.nanos.toInt = (t.secs + 1) * nanosPerSecond := by
  unfold Instant.roundToSecond
  rw [if_pos h]
  exact Instant.exactly_eq_ok_iff

namespace EdgeSource

/-- A source returns what pairing makes of an event. -/
theorem pair_returns_iff {s : EdgeSource} {event : EdgeEvent} {reference : Instant}
    {m : Machine W} {pairing : Pairing} :
    (∃ m', Returns (s.pair event reference) m pairing m') ↔
      pairEvent event.time s.correction reference s.polarity s.window = .ok pairing := by
  constructor
  · rintro ⟨m', h⟩
    exact (Orchestrator.pair_returns h).1
  · intro hpair
    refine ⟨_, returns_of_outcome ?_⟩
    rw [pair, outcome_bind, outcome_checked, hpair]
    by_cases hamb : pairing = .ambiguous
    · simp only [hamb, if_true, outcome_bind, outcome_log, outcome_pure]
    · simp only [hamb, if_false, outcome_pure]

/-- A source is set up from every width below a second. -/
theorem ofConfig_spec {config : SourceConfig} (clock : ClockId)
    (hpos : 0 < config.pulseWidth.toInt) (hshort : config.pulseWidth.toInt < nanosPerSecond) :
    ∃ s, ofConfig config clock = .ok s ∧ s.polarity = config.polarity ∧
      s.correction = ⟨config.correction⟩ ∧ ∀ subsec : Nat,
        s.window.contains subsec = true ↔ config.pulseWidth.toInt / 2 < subsec ∧
          subsec < nanosPerSecond - config.pulseWidth.toInt / 2 := by
  obtain ⟨window, hwindow, hcontains⟩ :=
    IgnoreWindow.ofPulseWidth_spec ⟨config.pulseWidth⟩ hpos hshort
  exact ⟨_, Checked.bind_eq_ok_iff.mpr ⟨window, hwindow, rfl⟩, rfl, rfl, hcontains⟩

/-- An event that is handled when the pulse falls is ignored exactly if a
    width and a half of the pulse are less than a second.  Of a wider pulse it
    becomes a sample of the second that follows, unless that leaves the
    range of times. -/
theorem fallingEdge_ignored_iff {config : SourceConfig} (clock : ClockId)
    (hboth : config.polarity = .both) (hpos : 0 < config.pulseWidth.toInt)
    (hshort : config.pulseWidth.toInt < nanosPerSecond) :
    ∃ s, ofConfig config clock = .ok s ∧
      ∀ {W : Type} (m : Machine W) (event : EdgeEvent) (reference : Instant),
        reference.subsec = config.pulseWidth.toInt →
        ((∃ m', Returns (s.pair event reference) m .ambiguous m') ↔
          3 * config.pulseWidth.toInt < 2 * nanosPerSecond) ∧
        ∀ offset localTime,
          (∃ m', Returns (s.pair event reference) m (.sample offset localTime) m') ↔
          2 * nanosPerSecond ≤ 3 * config.pulseWidth.toInt ∧
          localTime.nanos.toInt = event.time.nanos.toInt + config.correction.toInt ∧
          ∃ second : Instant, second.nanos.toInt = (reference.secs + 1) * nanosPerSecond ∧
            offset.nanos.toInt = localTime.nanos.toInt - second.nanos.toInt := by
  obtain ⟨s, hs, hpolarity, hcorrection, hcontains⟩ := ofConfig_spec clock hpos hshort
  refine ⟨s, hs, fun m event reference hfalls => ?_⟩
  -- the lower bound is passed by every pulse, so that only the upper one counts
  have hinside : (s.polarity.isBoth = true ∧ s.window.contains reference.subsec = true) ↔
      3 * config.pulseWidth.toInt < 2 * nanosPerSecond := by
    rw [hpolarity, hboth, hcontains, hfalls]
    unfold nanosPerSecond
    have htrue : Polarity.both.isBoth = true := rfl
    constructor
    · rintro ⟨-, -, hupper⟩
      omega
    · intro hnarrow
      exact ⟨htrue, by omega, by omega⟩
  constructor
  · rw [pair_returns_iff, pairEvent_ambiguous_iff, hinside]
  intro offset localTime
  rw [pair_returns_iff, pairEvent_sample_iff, hinside, Int.not_lt, Instant.add_eq_ok_iff,
    hcorrection]
  refine and_congr_right fun hwide => and_congr_right fun _ => exists_congr fun second => ?_
  have hlate : 500000000 < reference.subsec := by
    unfold nanosPerSecond at hwide
    omega
  rw [Instant.roundToSecond_late hlate, Instant.since_eq_ok_iff]

/-- A pulse of half a second, as in the default configuration. -/
theorem fallingEdge_ignored_halfSecond :
    (0 : Int) < (500000000 : Int64).toInt ∧ (500000000 : Int64).toInt < nanosPerSecond ∧
    ∃ s, ofConfig { device := "/dev/ptp0", polarity := .both } ⟨0⟩ = .ok s ∧
      ∃ m', Returns (s.pair ⟨0, ⟨41500000000⟩⟩ ⟨41500000000⟩) (⟨(), #[]⟩ : Machine Unit)
        .ambiguous m' := by
  refine ⟨by decide, by decide, ?_⟩
  obtain ⟨s, hs, hpair⟩ := @fallingEdge_ignored_iff { device := "/dev/ptp0", polarity := .both } ⟨0⟩
    rfl (by decide) (by decide)
  exact ⟨s, hs, (hpair ⟨(), #[]⟩ ⟨0, ⟨41500000000⟩⟩ ⟨41500000000⟩ (by decide)).1.mpr (by decide)⟩

/-- A pulse of seven tenths of a second falls three tenths before the next
    one, which is less than half its width. -/
theorem not_forall_fallingEdge_ignored :
    ¬∀ (config : SourceConfig) (clock : ClockId) (s : EdgeSource), config.polarity = .both →
      0 < config.pulseWidth.toInt → config.pulseWidth.toInt < nanosPerSecond →
      ofConfig config clock = .ok s → ∀ (event reference : Instant),
        reference.subsec = config.pulseWidth.toInt →
        pairEvent event s.correction reference s.polarity s.window = .ok .ambiguous := by
  intro h
  have hignored := h { device := "/dev/ptp0", polarity := .both, pulseWidth := 700000000 } ⟨0⟩
    ⟨"/dev/ptp0", ⟨0⟩, 0, 0, .both, ⟨0⟩, ⟨350000000, 650000000⟩⟩ rfl (by decide) (by decide) rfl
    ⟨41700000000⟩ ⟨41700000000⟩ (by decide)
  have hout := (pairEvent_ambiguous_iff.mp hignored).2
  exact absurd hout (by decide)

end EdgeSource

end ClockDiscipline
