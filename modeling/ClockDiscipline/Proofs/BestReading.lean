/-
  ClockDiscipline/Proofs/BestReading.lean
  =======================================
  **How far off the offset of a measurement can be.**

  The counter may have been latched at any instant between the two readings of
  the reference around it.  A measurement goes by the first of the shortest
  round trips and assumes its middle, so that it is off by half a round trip
  at most, and by one nanosecond more where an odd round trip has no middle
  (`measure_within_delay`).  What carries this through the three readings is
  that the best so far is the first of the shortest so far (`Best.Leads`).
-/
import ClockDiscipline.Bench.Bus
import ClockDiscipline.Proofs.Alignment
import ClockDiscipline.Proofs.GarbledCounter

namespace ClockDiscipline

open ClockDiscipline.Action

variable {W β γ : Type} {c : BusClock W β γ} {config : TrackingConfig} {tick : Int64}
  {m m' : Machine W}

/-! ### The first of the shortest -/

namespace Reading

/-- The time that the counter shows.  Its ticks count as a signed word. -/
def shown (tick : Int64) (r : Reading) : Int := r.ticks.toInt64.toInt * tick.toInt

theorem shown_eq {config : TrackingConfig} {r : Reading} (h : r.ticks.toNat < 2 ^ 63) :
    r.shown config.tick = r.ticks.toNat * config.tickNanos.toNat := by
  rw [shown, toInt_toInt64 h, toInt_tick]

/-- Every reading before has a longer round trip, and none after it has a
    shorter one. -/
def FirstShortest (readings : List Reading) (r : Reading) : Prop :=
  ∃ before after, readings = before ++ r :: after ∧
    (∀ s ∈ before, r.roundTrip < s.roundTrip) ∧ ∀ s ∈ after, r.roundTrip ≤ s.roundTrip

variable {readings : List Reading} {r s : Reading}

theorem FirstShortest.mem (h : FirstShortest readings r) : r ∈ readings := by
  obtain ⟨before, after, rfl, -⟩ := h
  exact List.mem_append_right before List.mem_cons_self

theorem FirstShortest.le (h : FirstShortest readings r) (hs : s ∈ readings) :
    r.roundTrip ≤ s.roundTrip := by
  obtain ⟨before, after, rfl, hlonger, hnotShorter⟩ := h
  rcases List.mem_append.mp hs with hs | hs
  · exact Int.le_of_lt (hlonger s hs)
  rcases List.mem_cons.mp hs with rfl | hs
  · exact Int.le_refl _
  · exact hnotShorter s hs

theorem firstShortest_concat (h : ∀ s ∈ readings, r.roundTrip < s.roundTrip) :
    FirstShortest (readings ++ [r]) r :=
  ⟨readings, [], rfl, h, List.forall_mem_nil _⟩

theorem FirstShortest.concat (h : FirstShortest readings r) (hs : r.roundTrip ≤ s.roundTrip) :
    FirstShortest (readings ++ [s]) r := by
  obtain ⟨before, after, rfl, hlonger, hnotShorter⟩ := h
  refine ⟨before, after ++ [s], by simp, hlonger, ?_⟩
  intro x hx
  rcases List.mem_append.mp hx with hx | hx
  · exact hnotShorter x hx
  · rwa [List.mem_singleton.mp hx]

/-- The assumed instant is off by half a round trip at most, which may lack
    half a nanosecond. -/
theorem abs_ahead_sub_le {τ : ℝ} (hnonneg : 0 ≤ r.roundTrip)
    (hbefore : (r.before.nanos.toInt : ℝ) ≤ τ) (hafter : τ ≤ r.after.nanos.toInt) :
    |(r.ahead tick : ℝ) - (r.shown tick - τ)| ≤ (r.roundTrip / 2 : ℤ) + 1 := by
  have hahead : r.ahead tick = r.shown tick - r.before.nanos.toInt - r.roundTrip / 2 := by
    rw [ahead, shown, Int.tdiv_eq_ediv_of_nonneg hnonneg]
  have hhalf : r.after.nanos.toInt - r.before.nanos.toInt ≤ 2 * (r.roundTrip / 2) + 1 := by
    show r.roundTrip ≤ _
    omega
  have hhalf : (r.after.nanos.toInt - r.before.nanos.toInt : ℝ) ≤
      2 * (r.roundTrip / 2 : ℤ) + 1 := by
    exact_mod_cast hhalf
  have hpos : (0 : ℝ) ≤ (r.roundTrip / 2 : ℤ) := by
    exact_mod_cast Int.ediv_nonneg hnonneg (by decide)
  rw [hahead, abs_le]
  push_cast
  constructor <;> linarith

end Reading

/-! ### What the best reading is -/

namespace Best

/-- Nothing was read, or the best reading is the first of the shortest. -/
inductive Leads (tick : Int64) : List Reading → Best → Prop
  | none : Leads tick [] .none
  | some {readings : List Reading} {best : Best} (r : Reading)
      (first : Reading.FirstShortest readings r) (roundTrip : best.roundTrip.toInt = r.roundTrip)
      (offset : best.offset.toInt = r.ahead tick) : Leads tick readings best

theorem Leads.take {best best' : Best} {readings : List Reading} {r : Reading}
    (h : Leads tick readings best) (hshort : r.roundTrip < 0x7FFFFFFFFFFFFFFF)
    (htake : best.take tick r = .ok best') : Leads tick (readings ++ [r]) best' := by
  rcases take_cases htake with ⟨hshorter, htrip, hoffset⟩ | ⟨hlonger, rfl⟩
  · refine .some r (Reading.firstShortest_concat ?_) htrip hoffset
    intro s hs
    cases h with
    | none => cases hs
    | some r' first roundTrip =>
      have hle := first.le hs
      omega
  · cases h with
    -- every round trip in question is shorter than that of no reading
    | none => exact absurd hshort (Int.not_lt.mpr hlonger)
    | some r' first roundTrip offset =>
      exact .some r' (first.concat (roundTrip ▸ hlonger)) roundTrip offset

theorem Leads.fold {best best' : Best} {seen readings : List Reading}
    (h : Leads tick seen best) (hshort : ∀ r ∈ readings, r.roundTrip < 0x7FFFFFFFFFFFFFFF)
    (hfold : readings.foldlM (Best.take tick) best = .ok best') :
    Leads tick (seen ++ readings) best' := by
  induction readings generalizing best seen with
  | nil =>
    cases hfold
    rwa [List.append_nil]
  | cons r readings ih =>
    rw [List.foldlM_cons, Checked.bind_eq_ok_iff] at hfold
    obtain ⟨next, htake, hrest⟩ := hfold
    have hnext := h.take (hshort r List.mem_cons_self) htake
    have hlast := ih hnext (fun s hs => hshort s (List.mem_cons_of_mem r hs)) hrest
    rwa [List.append_assoc] at hlast

/-- Nothing but an overflow keeps a reading from being taken into account. -/
theorem take_overflows {best : Best} {r : Reading} {e : Fault}
    (h : best.take tick r = .error e) : e = .overflow := by
  rcases Checked.bind_eq_error_iff.mp h with hspan | ⟨span, -, h⟩
  · exact Instant.since_overflows hspan
  split at h
  · rcases Checked.bind_eq_error_iff.mp h with hnanos | ⟨nanos, -, h⟩
    · exact Checked.eq_overflow hnanos
    rcases Checked.bind_eq_error_iff.mp h with hearly | ⟨early, -, h⟩
    · exact Checked.eq_overflow hearly
    rcases Checked.bind_eq_error_iff.mp h with hhalf | ⟨half, -, h⟩
    · exact Checked.eq_overflow hhalf
    rcases Checked.bind_eq_error_iff.mp h with hoffset | ⟨offset, -, h⟩
    · exact Checked.eq_overflow hoffset
    · cases h
  · cases h

theorem fold_overflows {best : Best} {readings : List Reading} {e : Fault}
    (h : readings.foldlM (Best.take tick) best = .error e) : e = .overflow := by
  induction readings generalizing best with
  | nil => cases h
  | cons r readings ih =>
    rw [List.foldlM_cons, Checked.bind_eq_error_iff] at h
    rcases h with htake | ⟨next, -, hrest⟩
    · exact take_overflows htake
    · exact ih hrest

end Best

/-! ### The measurement -/

theorem Readings.measureFrom {readings : List Reading} {best best' : Best}
    (h : Readings c m readings m')
    (hfold : readings.foldlM (Best.take tick) best = .ok best') :
    Returns (c.measureFrom tick readings.length best) m (.ok best') m' := by
  induction h generalizing best with
  | done =>
    cases hfold
    exact returns_pure.mpr ⟨rfl, rfl⟩
  | @more _ m₁ _ r readings first rest ih =>
    rw [List.foldlM_cons, Checked.bind_eq_ok_iff] at hfold
    obtain ⟨next, htake, hrest⟩ := hfold
    refine returns_bind.mpr ⟨_, m₁, first, ?_⟩
    exact returns_bind.mpr ⟨next, m₁, returns_checked.mpr ⟨htake, rfl⟩, ih hrest⟩

theorem Readings.measure {readings : List Reading} {best : Best} {measured : Measurement}
    (h : Readings c m readings m') (hthree : readings.length = 3)
    (hfold : readings.foldlM (Best.take config.tick) .none = .ok best)
    (hmeasured : best.measurement = .ok measured) :
    Returns (measure c config) m (.ok measured) m' := by
  have htaken := h.measureFrom hfold
  rw [hthree] at htaken
  refine returns_bind.mpr ⟨.ok best, m', htaken, ?_⟩
  refine returns_bind.mpr ⟨measured, m', returns_checked.mpr ⟨hmeasured, rfl⟩, ?_⟩
  exact returns_pure.mpr ⟨rfl, rfl⟩

/-- Three readings that are answered can be evaluated unless that overflows. -/
theorem Readings.exists_best {readings : List Reading} (h : Readings c m readings m')
    (hthree : readings.length = 3) (hfits : ¬Overflows (ClockDiscipline.measure c config) m) :
    ∃ best, readings.foldlM (Best.take config.tick) .none = .ok best := by
  cases hfold : readings.foldlM (Best.take config.tick) .none with
  | ok best => exact ⟨best, rfl⟩
  | error e =>
    obtain rfl := Best.fold_overflows hfold
    exact absurd ((measureFrom_overflows h (Nat.le_of_eq hthree) hfold).bind _) hfits

/-- Whatever the reference and the bus answer: a measurement that does not
    overflow reports half of the shortest round trip as its delay, and the
    offset that it takes from the first reading with that round trip is within
    the delay and one nanosecond of the true one, whenever between the two
    readings of the reference the counter was latched.  From `2 ^ 63` ticks on
    the counter itself leaves the signed word that it is computed with. -/
theorem measure_within_delay {readings : List Reading} (hread : Readings c m readings m')
    (hthree : readings.length = 3)
    (hspan : ∀ r ∈ readings, 0 ≤ r.roundTrip ∧ r.roundTrip < 2 ^ 62)
    (hfits : ¬Overflows (measure c config) m) :
    ∃ measured r, Returns (measure c config) m (.ok measured) m' ∧
      Reading.FirstShortest readings r ∧ measured.delay.nanos.toInt = r.roundTrip / 2 ∧
      (r.ticks.toNat < 2 ^ 63 →
        r.shown config.tick = r.ticks.toNat * config.tickNanos.toNat) ∧
      ∀ τ : ℝ, r.before.nanos.toInt ≤ τ → τ ≤ r.after.nanos.toInt →
        |measured.offset.nanos.toInt - (r.shown config.tick - τ)| ≤
          measured.delay.nanos.toInt + 1 := by
  obtain ⟨best, hfold⟩ := hread.exists_best hthree hfits
  obtain ⟨measured, hmeasured⟩ := best.exists_measurement
  have hreturns := hread.measure hthree hfold hmeasured
  have hshort : ∀ r ∈ readings, r.roundTrip < 0x7FFFFFFFFFFFFFFF := by
    intro r hr
    have hlt := (hspan r hr).2
    omega
  have hleads := Best.Leads.none.fold hshort hfold
  rw [List.nil_append] at hleads
  obtain ⟨half, hhalf, hsame⟩ := Checked.bind_eq_ok_iff.mp hmeasured
  cases hsame
  cases hleads with
  | none => cases hthree
  | some r first roundTrip offset =>
    have hnonneg := (hspan r first.mem).1
    have hdelay : half.toInt = r.roundTrip / 2 := by
      rw [Checked.word_eq_ok_iff.mp hhalf, roundTrip]
      exact Int.tdiv_eq_ediv_of_nonneg hnonneg
    refine ⟨_, r, hreturns, first, hdelay, Reading.shown_eq, ?_⟩
    intro τ hbefore hafter
    show |((best.offset.toInt : ℤ) : ℝ) - _| ≤ ((half.toInt : ℤ) : ℝ) + 1
    rw [offset, hdelay]
    exact Reading.abs_ahead_sub_le hnonneg hbefore hafter

/-! ### Readings from a script -/

open Bench

/-- A clock and a reference that answer from one script. -/
def scripted : BusClock BusWorld BusFailure ReferenceFailure := ⟨scriptedBus, scriptedReference⟩

/-- What is left of a script, and the calls that were made. -/
def script (readings : List Reading) (calls : Array BusCall) : Machine BusWorld where
  world := {
    now := readings.flatMap fun r => [some r.before, some r.after]
    reads := readings.map fun r => some r.ticks
    calls := calls }
  journal := #[]

theorem readings_script (readings : List Reading) (calls : Array BusCall) :
    ∃ calls', Readings scripted (script readings calls) readings (script [] calls') := by
  induction readings generalizing calls with
  | nil => exact ⟨calls, .done⟩
  | cons r rest ih =>
    obtain ⟨calls', hrest⟩ := ih (calls.push .readCounter)
    exact ⟨calls', .more rfl hrest⟩

/-- Two readings take 161 ns. -/
def tied : List Reading :=
  [⟨⟨1000⟩, 700, ⟨2100⟩⟩, ⟨⟨3000⟩, 900, ⟨3161⟩⟩, ⟨⟨4000⟩, 1100, ⟨4161⟩⟩]

/-- The delay is 80 ns, and at the end of its round trip of 161 ns the counter
    would have been latched 81 ns after the middle that is assumed. -/
theorem measure_within_delay_tied :
    ∃ m', Readings scripted (script tied #[]) tied m' ∧ tied.length = 3 ∧
      (∀ r ∈ tied, 0 ≤ r.roundTrip ∧ r.roundTrip < 2 ^ 62) ∧
      ¬Overflows (measure scripted {}) (script tied #[]) ∧
      Returns (measure scripted {}) (script tied #[]) (.ok ⟨⟨4120⟩, ⟨80⟩⟩) m' ∧
      ∃ r, Reading.FirstShortest tied r ∧ 80 = r.roundTrip / 2 ∧
        (r.ticks.toNat < 2 ^ 63 → r.shown 8 = r.ticks.toNat * 8) ∧
        ∀ τ : ℝ, r.before.nanos.toInt ≤ τ → τ ≤ r.after.nanos.toInt →
          |((4120 : ℤ) : ℝ) - (r.shown 8 - τ)| ≤ ((80 : ℤ) : ℝ) + 1 := by
  obtain ⟨calls, hread⟩ := readings_script tied #[]
  have hthree : tied.length = 3 := rfl
  have hspan : ∀ r ∈ tied, 0 ≤ r.roundTrip ∧ r.roundTrip < 2 ^ 62 := by decide
  have hfold : tied.foldlM (Best.take 8) .none = .ok ⟨161, 4120⟩ := by decide
  have hreturns : Returns (measure scripted {}) (script tied #[]) (.ok ⟨⟨4120⟩, ⟨80⟩⟩)
      (script [] calls) := hread.measure hthree hfold (by decide)
  have hfits : ¬Overflows (measure scripted {}) (script tied #[]) := by
    intro hover
    exact hover.not_returns hreturns
  obtain ⟨measured, r, hmeasured, hnear⟩ := measure_within_delay hread hthree hspan hfits
  cases (hmeasured.unique hreturns).1
  exact ⟨_, hread, hthree, hspan, hfits, hreturns, r, hnear⟩

end ClockDiscipline
