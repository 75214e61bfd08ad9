/-
  ClockDiscipline/Proofs/Measuring.lean
  =====================================
  **Three readings of a clock behind a bus, and the one that counts.**

  A measurement takes readings of the counter, each between two readings of
  the reference, and evaluates them.  `Readings` is the taking and `evaluate`
  the evaluation, so that `measure_cases` splits a measurement into what the
  bus answered and arithmetic on the answers.  The arithmetic keeps the
  reading with the shortest round trip (`Best.Among`).
-/
import ClockDiscipline.Proofs.Action
import ClockDiscipline.Proofs.Edges
import ClockDiscipline.Rate.Tracking

namespace ClockDiscipline

open ClockDiscipline.Action

variable {W β γ : Type} {c : BusClock W β γ} {config : TrackingConfig} {tick : Int64}
  {m m₁ m₂ m' : Machine W}

/-! ### Taking readings -/

/-- The counter between two readings of the reference. -/
structure Reading where
  before : Instant
  ticks : UInt64
  after : Instant
deriving DecidableEq, Repr

/-- The clock answers one reading after the other. -/
inductive Readings (c : BusClock W β γ) : Machine W → List Reading → Machine W → Prop
  | done {m : Machine W} : Readings c m [] m
  | more {m m₁ m₂ : Machine W} {r : Reading} {readings : List Reading}
      (first : Returns c.readBetween m (.ok (r.before, r.ticks, r.after)) m₁)
      (rest : Readings c m₁ readings m₂) : Readings c m (r :: readings) m₂

theorem readBetween_ok {before after : Instant} {ticks : UInt64}
    (h : Returns c.readBetween m (.ok (before, ticks, after)) m') :
    ∃ m₁ m₂, Returns c.reference m (.ok before) m₁ ∧
      Returns c.bus.readCounter m₁ (.ok ticks) m₂ ∧ Returns c.reference m₂ (.ok after) m' := by
  simp only [BusClock.readBetween, returns_bind] at h
  obtain ⟨first, m₁, hfirst, h⟩ := h
  cases first with
  | error e => simp at h
  | ok =>
    simp only [returns_bind] at h
    obtain ⟨counter, m₂, hcounter, h⟩ := h
    cases counter with
    | error e => simp at h
    | ok =>
      simp only [returns_bind] at h
      obtain ⟨last, m₃, hlast, h⟩ := h
      cases last with
      | error e => simp at h
      | ok =>
        simp only [returns_pure, Except.ok.injEq, Prod.mk.injEq] at h
        obtain ⟨⟨rfl, rfl, rfl⟩, rfl⟩ := h
        exact ⟨m₁, m₂, hfirst, hcounter, hlast⟩

def Best.take (tick : Int64) (best : Best) (r : Reading) : Checked Best :=
  best.consider tick r.before r.ticks r.after

/-- What readings amount to. -/
def evaluate (tick : Int64) (readings : List Reading) : Checked Measurement := do
  let best ← readings.foldlM (Best.take tick) .none
  best.measurement

theorem Readings.unique {readings₁ readings₂ : List Reading} (h₁ : Readings c m readings₁ m₁)
    (h₂ : Readings c m readings₂ m₂) (hlength : readings₁.length = readings₂.length) :
    readings₁ = readings₂ ∧ m₁ = m₂ := by
  induction h₁ generalizing readings₂ with
  | done =>
    obtain rfl := List.eq_nil_of_length_eq_zero hlength.symm
    cases h₂
    exact ⟨rfl, rfl⟩
  | @more m m₃ m₁ r readings₁ first rest ih =>
    cases h₂ with
    | done => cases hlength
    | @more _ m₄ _ s readings₂ first' rest' =>
      obtain ⟨hsame, rfl⟩ := first.unique first'
      obtain rfl : r = s := by
        cases r
        cases s
        simpa using hsame
      obtain ⟨rfl, rfl⟩ := ih rest' (Nat.succ.inj hlength)
      exact ⟨rfl, rfl⟩

/-- Taking readings ends with the first that fails. -/
theorem measureFrom_cases {n : Nat} {best : Best} {result : Except (TrackingError β γ) Best}
    (h : Returns (c.measureFrom tick n best) m result m') :
    (∃ readings best', Readings c m readings m' ∧ readings.length = n ∧
      readings.foldlM (Best.take tick) best = .ok best' ∧ result = .ok best') ∨
    ∃ readings m₁ e, Readings c m readings m₁ ∧ readings.length < n ∧
      Returns c.readBetween m₁ (.error e) m' ∧ result = .error e := by
  induction n generalizing best m with
  | zero =>
    obtain ⟨rfl, rfl⟩ := returns_pure.mp h
    exact .inl ⟨[], best, .done, rfl, rfl, rfl⟩
  | succ n ih =>
    simp only [BusClock.measureFrom, returns_bind] at h
    obtain ⟨reading, m₁, hfirst, h⟩ := h
    cases reading with
    | error e =>
      obtain ⟨rfl, rfl⟩ := returns_pure.mp h
      exact .inr ⟨[], m, e, .done, Nat.zero_lt_succ n, hfirst, rfl⟩
    | ok reading =>
      obtain ⟨before, ticks, after⟩ := reading
      simp only [returns_bind, returns_checked] at h
      obtain ⟨next, m₁, ⟨htake, rfl⟩, h⟩ := h
      have hmore {readings : List Reading} {m₂ : Machine W} (hrest : Readings c m₁ readings m₂) :
          Readings c m (⟨before, ticks, after⟩ :: readings) m₂ := .more hfirst hrest
      rcases ih h with ⟨readings, best', hrest, hn, hfold, rfl⟩ |
        ⟨readings, m₂, e, hrest, hn, hfail, rfl⟩
      · refine .inl ⟨_, best', hmore hrest, congrArg Nat.succ hn, ?_, rfl⟩
        rw [List.foldlM_cons, Checked.bind_eq_ok_iff]
        exact ⟨next, htake, hfold⟩
      · exact .inr ⟨_, m₂, e, hmore hrest, Nat.succ_lt_succ hn, hfail, rfl⟩

theorem measure_cases {result : Except (TrackingError β γ) Measurement}
    (h : Returns (measure c config) m result m') :
    (∃ readings measured, Readings c m readings m' ∧ readings.length = 3 ∧
      evaluate config.tick readings = .ok measured ∧ result = .ok measured) ∨
    ∃ readings m₁ e, Readings c m readings m₁ ∧ readings.length < 3 ∧
      Returns c.readBetween m₁ (.error e) m' ∧ result = .error e := by
  simp only [measure, returns_bind] at h
  obtain ⟨taken, m₁, htaken, h⟩ := h
  rcases measureFrom_cases htaken with ⟨readings, best, hread, hthree, hfold, rfl⟩ |
    ⟨readings, m₂, e, hread, hfew, hfail, rfl⟩
  · simp only [returns_bind, returns_checked, returns_pure] at h
    obtain ⟨measured, _, ⟨hmeasured, rfl⟩, rfl, rfl⟩ := h
    refine .inl ⟨readings, measured, hread, hthree, ?_, rfl⟩
    exact Checked.bind_eq_ok_iff.mpr ⟨best, hfold, hmeasured⟩
  · obtain ⟨rfl, rfl⟩ := returns_pure.mp h
    exact .inr ⟨readings, m₂, e, hread, hfew, hfail, rfl⟩

/-! ### The reading that counts -/

theorem toInt_tick (config : TrackingConfig) : config.tick.toInt = config.tickNanos.toNat := by
  have hbound := config.tickNanos.toNat_lt
  exact Int64.toInt_ofInt_of_le (by omega) (by omega)

namespace Reading

/-- The time between the two readings of the reference. -/
def roundTrip (r : Reading) : Int := r.after.nanos.toInt - r.before.nanos.toInt

/-- How far the clock is ahead if its counter was read half-way. -/
def ahead (tick : Int64) (r : Reading) : Int :=
  r.ticks.toInt64.toInt * tick.toInt - r.before.nanos.toInt - r.roundTrip.tdiv 2

end Reading

namespace Best

/-- A shorter round trip replaces the best reading, and any other keeps it. -/
theorem take_cases {best best' : Best} {r : Reading} (h : best.take tick r = .ok best') :
    (r.roundTrip < best.roundTrip.toInt ∧ best'.roundTrip.toInt = r.roundTrip ∧
      best'.offset.toInt = r.ahead tick) ∨
    best.roundTrip.toInt ≤ r.roundTrip ∧ best' = best := by
  obtain ⟨span, hspan, h⟩ := Checked.bind_eq_ok_iff.mp h
  have hspan : span.nanos.toInt = r.roundTrip := Instant.since_eq_ok_iff.mp hspan
  rw [← hspan]
  split at h
  · next hshorter =>
    simp only [Checked.bind_eq_ok_iff, Checked.mul, Checked.sub, Checked.quot,
      Checked.word_eq_ok_iff] at h
    obtain ⟨nanos, hnanos, early, hearly, half, hhalf, offset, hoffset, h⟩ := h
    cases h
    refine .inl ⟨hshorter, rfl, ?_⟩
    have htwo : (2 : Int64).toInt = 2 := rfl
    rw [hoffset, hearly, hhalf, hnanos, hspan, htwo]
    rfl
  · next hnot =>
    cases h
    exact .inr ⟨Int.not_lt.mp hnot, rfl⟩

/-- No reading has a shorter round trip than the best, which is one of them
    unless it is still missing. -/
structure Among (tick : Int64) (readings : List Reading) (best : Best) : Prop where
  least : ∀ r ∈ readings, best.roundTrip.toInt ≤ r.roundTrip
  shown : best = .none ∨
    ∃ r ∈ readings, best.roundTrip.toInt = r.roundTrip ∧ best.offset.toInt = r.ahead tick

theorem among_none : Among tick [] .none where
  least _ hr := by cases hr
  shown := .inl rfl

theorem Among.take {best best' : Best} {readings : List Reading} {r : Reading}
    (h : Among tick readings best) (htake : best.take tick r = .ok best') :
    Among tick (readings ++ [r]) best' := by
  rcases take_cases htake with ⟨hshorter, htrip, hoffset⟩ | ⟨hlonger, rfl⟩
  · refine ⟨fun s hs => ?_, .inr ⟨r, by simp, htrip, hoffset⟩⟩
    rw [htrip]
    rcases List.mem_append.mp hs with hs | hs
    · exact Int.le_trans (Int.le_of_lt hshorter) (h.least s hs)
    · exact Int.le_of_eq (congrArg Reading.roundTrip (List.mem_singleton.mp hs).symm)
  · refine ⟨fun s hs => ?_, h.shown.imp_right ?_⟩
    · rcases List.mem_append.mp hs with hs | hs
      · exact h.least s hs
      · rwa [List.mem_singleton.mp hs]
    · rintro ⟨s, hs, hshows⟩
      exact ⟨s, List.mem_append_left _ hs, hshows⟩

theorem Among.fold {best best' : Best} {seen readings : List Reading}
    (h : Among tick seen best) (hfold : readings.foldlM (Best.take tick) best = .ok best') :
    Among tick (seen ++ readings) best' := by
  induction readings generalizing best seen with
  | nil =>
    cases hfold
    simpa using h
  | cons r readings ih =>
    rw [List.foldlM_cons, Checked.bind_eq_ok_iff] at hfold
    obtain ⟨next, htake, hfold⟩ := hfold
    simpa using ih (h.take htake) hfold

end Best

/-- A measurement reports the reading with the shortest round trip, if one is
    shorter than the longest span. -/
theorem evaluate_spec {readings : List Reading} {measured : Measurement}
    (h : evaluate tick readings = .ok measured)
    (hshort : ∃ r ∈ readings, r.roundTrip < 0x7FFFFFFFFFFFFFFF) :
    ∃ r ∈ readings, (∀ s ∈ readings, r.roundTrip ≤ s.roundTrip) ∧
      measured.offset.nanos.toInt = r.ahead tick ∧
      measured.delay.nanos.toInt = r.roundTrip.tdiv 2 := by
  obtain ⟨best, hfold, hmeasured⟩ := Checked.bind_eq_ok_iff.mp h
  have hbest : Best.Among tick readings best := Best.among_none.fold hfold
  obtain ⟨half, hhalf, hmeasured⟩ := Checked.bind_eq_ok_iff.mp hmeasured
  cases hmeasured
  rcases hbest.shown with rfl | ⟨r, hr, htrip, hoffset⟩
  · obtain ⟨s, hs, hlt⟩ := hshort
    exact absurd (hbest.least s hs) (Int.not_le.mpr hlt)
  · refine ⟨r, hr, fun s hs => htrip ▸ hbest.least s hs, hoffset, ?_⟩
    rw [Checked.word_eq_ok_iff.mp hhalf, htrip]
    rfl

end ClockDiscipline
