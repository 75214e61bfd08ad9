/-
  ClockDiscipline/Proofs/Edges.lean
  =================================
  **The edge of the reference that a time is attributed to.**

  Pairing rounds a reading of the reference to the full second, and correcting
  rounds one to the pulse that rises `phase` after it.  Both are instances of
  `NearestEdge`, stated on integers; the two agree exactly if the phase is a
  whole number of seconds and the later reading is still nearest to the edge
  of the earlier one (`NearestEdge.eq_iff`).
-/
import ClockDiscipline.Edge.Event

namespace ClockDiscipline

/-! ### Checked operations on times -/

namespace Checked

theorem eq_overflow {x : Int} {e : Fault} (h : word x = .error e) : e = .overflow :=
  (word_eq_error_iff.mp h).1

theorem map_eq_ok_iff {α β : Type} {f : α → β} {x : Checked α} {y : β} :
    f <$> x = .ok y ↔ ∃ a, x = .ok a ∧ f a = y := by
  cases x <;> simp [Functor.map, Except.map]

theorem map_eq_error_iff {α β : Type} {f : α → β} {x : Checked α} {e : Fault} :
    f <$> x = .error e ↔ x = .error e := by
  cases x <;> simp [Functor.map, Except.map]

theorem bind_eq_ok_iff {α β : Type} {x : Checked α} {f : α → Checked β} {y : β} :
    x >>= f = .ok y ↔ ∃ a, x = .ok a ∧ f a = .ok y := by
  cases x <;> simp [bind, Except.bind]

theorem bind_eq_error_iff {α β : Type} {x : Checked α} {f : α → Checked β} {e : Fault} :
    x >>= f = .error e ↔ x = .error e ∨ ∃ a, x = .ok a ∧ f a = .error e := by
  cases x <;> simp [bind, Except.bind]

end Checked

theorem Duration.ext_toInt {a b : Duration} (h : a.nanos.toInt = b.nanos.toInt) : a = b :=
  congrArg Duration.mk (Int64.toInt_inj.mp h)

namespace Instant

theorem ext_toInt {t u : Instant} (h : t.nanos.toInt = u.nanos.toInt) : t = u :=
  congrArg Instant.mk (Int64.toInt_inj.mp h)

theorem exactly_eq_ok_iff {n : Int} {t : Instant} : exactly n = .ok t ↔ t.nanos.toInt = n := by
  simp only [exactly, Checked.map_eq_ok_iff, Checked.word_eq_ok_iff]
  exact ⟨fun ⟨w, hw, ht⟩ => ht ▸ hw, fun h => ⟨t.nanos, h, rfl⟩⟩

theorem add_eq_ok_iff {t u : Instant} {d : Duration} :
    t.add d = .ok u ↔ u.nanos.toInt = t.nanos.toInt + d.nanos.toInt :=
  exactly_eq_ok_iff

theorem sub_eq_ok_iff {t u : Instant} {d : Duration} :
    t.sub d = .ok u ↔ u.nanos.toInt = t.nanos.toInt - d.nanos.toInt :=
  exactly_eq_ok_iff

theorem since_eq_ok_iff {t s : Instant} {d : Duration} :
    t.since s = .ok d ↔ d.nanos.toInt = t.nanos.toInt - s.nanos.toInt := by
  simp only [since, Checked.sub, Checked.map_eq_ok_iff, Checked.word_eq_ok_iff]
  exact ⟨fun ⟨w, hw, hd⟩ => hd ▸ hw, fun h => ⟨d.nanos, h, rfl⟩⟩

theorem add_overflows {t : Instant} {d : Duration} {e : Fault} (h : t.add d = .error e) :
    e = .overflow :=
  Checked.eq_overflow (Checked.map_eq_error_iff.mp h)

theorem since_overflows {t s : Instant} {e : Fault} (h : t.since s = .error e) :
    e = .overflow :=
  Checked.eq_overflow (Checked.map_eq_error_iff.mp h)

theorem roundToSecond_overflows {t : Instant} {e : Fault} (h : t.roundToSecond = .error e) :
    e = .overflow :=
  Checked.eq_overflow (Checked.map_eq_error_iff.mp h)

end Instant

/-- Pairing an event fails only by arithmetic that leaves its range. -/
theorem pairEvent_overflows {event reference : Instant} {correction : Duration}
    {polarity : Polarity} {window : IgnoreWindow} {e : Fault}
    (h : pairEvent event correction reference polarity window = .error e) : e = .overflow := by
  unfold pairEvent at h
  split at h
  · cases h
  · rcases Checked.bind_eq_error_iff.mp h with h | ⟨_, -, h⟩
    · exact Instant.add_overflows h
    rcases Checked.bind_eq_error_iff.mp h with h | ⟨_, -, h⟩
    · exact Instant.roundToSecond_overflows h
    rcases Checked.bind_eq_error_iff.mp h with h | ⟨_, -, h⟩
    · exact Instant.since_overflows h
    · cases h

/-- The offset of a sample is to the full second nearest to the reference. -/
theorem pairEvent_edge {event reference localTime : Instant} {correction offset : Duration}
    {polarity : Polarity} {window : IgnoreWindow}
    (h : pairEvent event correction reference polarity window = .ok (.sample offset localTime)) :
    ∃ edge, reference.roundToSecond = .ok edge ∧ localTime.since edge = .ok offset := by
  unfold pairEvent at h
  split at h
  · cases h
  · obtain ⟨t, -, h⟩ := Checked.bind_eq_ok_iff.mp h
    obtain ⟨edge, hedge, h⟩ := Checked.bind_eq_ok_iff.mp h
    obtain ⟨d, hd, h⟩ := Checked.bind_eq_ok_iff.mp h
    cases h
    exact ⟨edge, hedge, hd⟩

/-- The local time of a sample is that of its event and the correction of its
    source. -/
theorem pairEvent_localTime {event reference localTime : Instant} {correction offset : Duration}
    {polarity : Polarity} {window : IgnoreWindow}
    (h : pairEvent event correction reference polarity window = .ok (.sample offset localTime)) :
    event.add correction = .ok localTime := by
  unfold pairEvent at h
  split at h
  · cases h
  · obtain ⟨t, ht, h⟩ := Checked.bind_eq_ok_iff.mp h
    obtain ⟨edge, -, h⟩ := Checked.bind_eq_ok_iff.mp h
    obtain ⟨d, -, h⟩ := Checked.bind_eq_ok_iff.mp h
    cases h
    exact ht

/-! ### The nearest edge -/

/-- Among the edges of a pulse that rises `phase` after every full second,
    `edge` is the one nearest to `t`, and the earlier of two at the same
    distance. -/
structure NearestEdge (t edge : Instant) (phase : Duration) : Prop where
  rises : nanosPerSecond ∣ edge.nanos.toInt - phase.nanos.toInt
  notLate : edge.nanos.toInt - t.nanos.toInt < 500000000
  notEarly : t.nanos.toInt - edge.nanos.toInt ≤ 500000000

theorem roundToSecond_nearest {t edge : Instant} (h : t.roundToSecond = .ok edge) :
    NearestEdge t edge .zero := by
  have hround := Instant.exactly_eq_ok_iff.mp h
  have hsplit := t.secs_subsec
  have hsubsec := t.subsec_lt
  have hzero : Duration.zero.nanos.toInt = 0 := rfl
  unfold nanosPerSecond at hround hsplit
  split at hround
  · exact ⟨by unfold nanosPerSecond; omega, by omega, by omega⟩
  · exact ⟨by unfold nanosPerSecond; omega, by omega, by omega⟩

theorem approximateEdge_nearest {t edge : Instant} {phase : Duration}
    (h : approximateEdge t phase = .ok edge) : NearestEdge t edge phase := by
  obtain ⟨shifted, hshifted, h⟩ := Checked.bind_eq_ok_iff.mp h
  obtain ⟨second, hsecond, h⟩ := Checked.bind_eq_ok_iff.mp h
  have hround := roundToSecond_nearest hsecond
  have hback := Instant.add_eq_ok_iff.mp h
  have hthere := Instant.sub_eq_ok_iff.mp hshifted
  have hzero : Duration.zero.nanos.toInt = 0 := rfl
  have hrises := hround.rises
  have hnotLate := hround.notLate
  have hnotEarly := hround.notEarly
  refine ⟨?_, ?_, ?_⟩
  · rw [hzero] at hrises
    rwa [hback, Int.add_sub_cancel, ← Int.sub_zero second.nanos.toInt]
  · omega
  · omega

/-- An edge on the full second is the edge of another reading as well exactly
    if the pulse rises on full seconds and the reading is nearest to it. -/
theorem NearestEdge.eq_iff {t edge t' edge' : Instant} {phase : Duration}
    (h : NearestEdge t edge .zero) (h' : NearestEdge t' edge' phase) :
    edge' = edge ↔ nanosPerSecond ∣ phase.nanos.toInt ∧
      edge.nanos.toInt - t'.nanos.toInt < 500000000 ∧
      t'.nanos.toInt - edge.nanos.toInt ≤ 500000000 := by
  have hzero : Duration.zero.nanos.toInt = 0 := rfl
  have hrises := h.rises
  have hrises' := h'.rises
  have hlate' := h'.notLate
  have hearly' := h'.notEarly
  unfold nanosPerSecond at hrises hrises' ⊢
  constructor
  · rintro rfl
    exact ⟨by omega, hlate', hearly'⟩
  -- two multiples of a second less than a second apart
  · rintro ⟨hphase, hlate, hearly⟩
    exact Instant.ext_toInt (by omega)

end ClockDiscipline
