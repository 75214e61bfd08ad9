/-
  ClockDiscipline/Proofs/GarbledCounter.lean
  ==========================================
  **Counter values that no offset can be computed from.**

  A reading of the counter is a word of 64 bits that comes over a bus.  It is
  taken as signed, scaled by the length of a tick and compared with the
  reference before anything looks at whether it makes sense.  A garbled value
  can leave the range of times on the way: the reading is not `Representable`.
  The readings of a measurement are considered one after the other, and only
  one with a shorter round trip than all before it is computed with, so that
  a cycle overflows exactly if such a reading is not representable, or if a reset
  phase finds the clock behind by the one distance that can not be negated
  (`sync_overflows_iff`).
-/
import ClockDiscipline.Proofs.Measuring
import ClockDiscipline.Proofs.Phases

namespace ClockDiscipline

open ClockDiscipline.Action

variable {W α δ β γ : Type} {m m' : Machine W}

/-! ### Steps that overflow -/

namespace Action

def Overflows (a : Action W α) (m : Machine W) : Prop := (a.outcome m).1 = .error .overflow

theorem Overflows.not_returns {a : Action W α} {x : α} (h : Overflows a m) : ¬Returns a m x m' := by
  intro hreturns
  rw [Overflows, hreturns] at h
  cases h

theorem overflows_checked {x : Checked α} (h : x = .error .overflow) :
    Overflows (checked x : Action W α) m := by
  rw [Overflows, outcome_checked, h]

theorem Overflows.bind {a : Action W α} (h : Overflows a m) (f : α → Action W δ) :
    Overflows (a >>= f) m := by
  rw [Overflows, outcome_bind]
  rcases hrun : a.outcome m with ⟨result, m₁⟩
  rw [Overflows, hrun] at h
  rw [show result = .error .overflow from h]

theorem Returns.overflows_bind {a : Action W α} {f : α → Action W δ} {x : α}
    (h : Returns a m x m') (hf : Overflows (f x) m') : Overflows (a >>= f) m := by
  rw [Overflows, h.outcome_bind f]
  exact hf

theorem Overflows.after_log {severity : Severity} {text : String} {f : Unit → Action W δ}
    (h : Overflows (f ()) (noted m severity text)) :
    Overflows (Action.log severity text >>= f) m := by
  rwa [Overflows, outcome_bind, outcome_log]

theorem exists_returns_pure (x : α) (m : Machine W) : ∃ y m', Returns (pure x) m y m' :=
  ⟨x, m, returns_pure.mpr ⟨rfl, rfl⟩⟩

theorem exists_returns_log (severity : Severity) (text : String) (m : Machine W) :
    ∃ u m', Returns (Action.log severity text) m u m' :=
  ⟨(), _, returns_log.mpr rfl⟩

theorem exists_returns_checked {x : Checked α} (h : ∃ y, x = .ok y) (m : Machine W) :
    ∃ y m', Returns (checked x) m y m' := by
  obtain ⟨y, hy⟩ := h
  exact ⟨y, m, returns_checked.mpr ⟨hy, rfl⟩⟩

theorem exists_returns_bind {a : Action W α} {f : α → Action W δ}
    (ha : ∃ x m₁, Returns a m x m₁)
    (hf : ∀ x m₁, Returns a m x m₁ → ∃ y m', Returns (f x) m₁ y m') :
    ∃ y m', Returns (a >>= f) m y m' := by
  obtain ⟨x, m₁, hreturns⟩ := ha
  obtain ⟨y, m', hrest⟩ := hf x m₁ hreturns
  exact ⟨y, m', returns_bind.mpr ⟨x, m₁, hreturns, hrest⟩⟩

end Action

/-- A quotient is a word unless the divisor is negative. -/
theorem Checked.exists_quot (a : Int64) {b : Int64} (h : 0 ≤ b.toInt) :
    ∃ q, Checked.quot a b = .ok q := by
  have hlow := a.le_toInt
  have hhigh := a.toInt_lt
  have hword : -0x8000000000000000 ≤ a.toInt.tdiv b.toInt ∧
      a.toInt.tdiv b.toInt < 0x8000000000000000 := by
    rcases Int.le_total 0 a.toInt with hpos | hneg
    · rw [Int.tdiv_eq_ediv_of_nonneg hpos]
      have hle := Int.ediv_le_self b.toInt hpos
      have hnonneg := Int.ediv_nonneg hpos h
      omega
    · have hpos : 0 ≤ -a.toInt := by omega
      have hle := Int.ediv_le_self b.toInt hpos
      have hnonneg := Int.ediv_nonneg hpos h
      rw [← Int.tdiv_eq_ediv_of_nonneg hpos, Int.neg_tdiv] at hle hnonneg
      omega
  obtain ⟨q, hq, -⟩ := Checked.exists_word hword.1 hword.2
  exact ⟨q, hq⟩

/-! ### Readings that make sense -/

variable {c : BusClock W β γ} {config : TrackingConfig} {t t' : RateTracker} {tick : Int64}

/-- A time of the reference between its epoch and 2043. -/
def Instant.Dated (t : Instant) : Prop := 0 ≤ t.nanos.toInt ∧ t.nanos.toInt ≤ 0x2000000000000000

namespace Reading

/-- The times of the reference are in order. -/
structure Dated (r : Reading) : Prop where
  before : r.before.Dated
  after : r.after.Dated
  order : r.before.nanos.toInt ≤ r.after.nanos.toInt

/-- The time that the counter shows, and how far that is ahead, are words. -/
structure Representable (tick : Int64) (r : Reading) : Prop where
  shown : r.ticks.toInt64.toInt * tick.toInt < 0x8000000000000000
  ahead : -0x8000000000000000 ≤ r.ahead tick

theorem Dated.roundTrip_nonneg {r : Reading} (h : r.Dated) : 0 ≤ r.roundTrip :=
  Int.sub_nonneg_of_le h.order

theorem Dated.roundTrip_le {r : Reading} (h : r.Dated) : r.roundTrip ≤ 0x2000000000000000 := by
  have hlow := h.before.1
  have hhigh := h.after.2
  unfold roundTrip
  omega

/-- The round trip is halved downwards. -/
theorem Dated.ahead_eq {r : Reading} (h : r.Dated) (tick : Int64) : r.ahead tick =
    r.ticks.toInt64.toInt * tick.toInt - r.before.nanos.toInt - r.roundTrip / 2 := by
  rw [ahead, Int.tdiv_eq_ediv_of_nonneg h.roundTrip_nonneg]

/-- A reading whose counter shows a word that is at least `-2 ^ 62` can be computed
    with. -/
theorem Dated.representable {r : Reading} (h : r.Dated)
    (hlow : -0x4000000000000000 ≤ r.ticks.toInt64.toInt * tick.toInt)
    (hhigh : r.ticks.toInt64.toInt * tick.toInt < 0x8000000000000000) :
    r.Representable tick ∧ -0x8000000000000000 < r.ahead tick := by
  have hbefore := h.before.2
  have hsmall := h.roundTrip_le
  have hahead : -0x8000000000000000 < r.ahead tick := by
    rw [h.ahead_eq]
    omega
  exact ⟨⟨hhigh, Int.le_of_lt hahead⟩, hahead⟩

end Reading

namespace Best

/-- What of a reading is computed with overflows exactly if the reading is not
    representable. -/
theorem take_eq_error_iff {best : Best} {r : Reading} {e : Fault} (h : r.Dated) :
    best.take tick r = .error e ↔
      e = .overflow ∧ r.roundTrip < best.roundTrip.toInt ∧ ¬r.Representable tick := by
  have hlow := h.before.1
  have hnonneg := h.roundTrip_nonneg
  have hsmall := h.roundTrip_le
  have hahead := h.ahead_eq tick
  have htwo : (2 : Int64).toInt = 2 := rfl
  obtain ⟨span, hspan, hspanInt⟩ := Checked.exists_word (x := r.roundTrip) (by omega) (by omega)
  have hsince : r.after.since r.before = .ok ⟨span⟩ := Instant.since_eq_ok_iff.mpr hspanInt
  have hquot : Checked.quot span 2 = .ok (Int64.ofInt (r.roundTrip / 2)) := by
    rw [Checked.quot, htwo, hspanInt, Int.tdiv_eq_ediv_of_nonneg hnonneg,
      Checked.word_eq_ok_iff]
    exact Int64.toInt_ofInt_of_le (by omega) (by omega)
  have hhalfInt : (Int64.ofInt (r.roundTrip / 2)).toInt = r.roundTrip / 2 :=
    Int64.toInt_ofInt_of_le (by omega) (by omega)
  unfold take consider
  rw [hsince, ← hspanInt]
  show (if span.toInt < best.roundTrip.toInt then _ else _) = _ ↔ _
  split
  · next hshorter =>
    simp only [hquot, Checked.bind_eq_error_iff, Checked.mul, Checked.sub,
      Checked.word_eq_error_iff, Checked.word_eq_ok_iff]
    constructor
    · rintro (⟨rfl, hout⟩ | ⟨nanos, hnanos, ⟨rfl, hout⟩ |
        ⟨early, hearly, hnone | ⟨half, hhalf, ⟨rfl, hout⟩ | ⟨_, _, hnone⟩⟩⟩⟩)
      · refine ⟨rfl, hshorter, ?_⟩
        rintro ⟨hshown, hword⟩
        exact hout (by omega)
      · refine ⟨rfl, hshorter, ?_⟩
        rintro ⟨hshown, hword⟩
        exact hout (by omega)
      · cases hnone
      · cases hhalf
        refine ⟨rfl, hshorter, ?_⟩
        rintro ⟨hshown, hword⟩
        exact hout (by omega)
      · cases hnone
    · rintro ⟨rfl, -, hgarbled⟩
      -- the first of the three results that is not a word
      by_cases hshown : -0x8000000000000000 ≤ r.ticks.toInt64.toInt * tick.toInt ∧
          r.ticks.toInt64.toInt * tick.toInt < 0x8000000000000000
      · obtain ⟨nanos, -, hnanos⟩ := Checked.exists_word hshown.1 hshown.2
        refine .inr ⟨nanos, hnanos, ?_⟩
        by_cases hearly : -0x8000000000000000 ≤ nanos.toInt - r.before.nanos.toInt
        · obtain ⟨early, -, hearlyInt⟩ :=
            Checked.exists_word (x := nanos.toInt - r.before.nanos.toInt) hearly (by omega)
          refine .inr ⟨early, hearlyInt, .inr ⟨_, rfl, .inl ⟨rfl, fun hin => ?_⟩⟩⟩
          exact hgarbled ⟨hshown.2, by omega⟩
        · exact .inl ⟨rfl, fun hin => hearly hin.1⟩
      · exact .inl ⟨rfl, hshown⟩
  · next hnot =>
    constructor
    · intro h
      cases h
    · rintro ⟨-, hshorter, -⟩
      exact absurd hshorter hnot

/-- The best reading is beaten by those that are shorter than all before. -/
theorem Among.shorter_iff {best : Best} {seen : List Reading} {r : Reading}
    (h : Among tick seen best) (hr : r.Dated) :
    r.roundTrip < best.roundTrip.toInt ↔ ∀ s ∈ seen, r.roundTrip < s.roundTrip := by
  constructor
  · intro hshorter s hs
    exact Int.lt_of_lt_of_le hshorter (h.least s hs)
  · intro hall
    rcases h.shown with rfl | ⟨s, hs, hbest, -⟩
    · have hsmall := hr.roundTrip_le
      have hnone : Best.none.roundTrip.toInt = 0x7FFFFFFFFFFFFFFF := rfl
      omega
    · rw [hbest]
      exact hall s hs

theorem exists_measurement (best : Best) : ∃ measured, best.measurement = .ok measured := by
  obtain ⟨half, hhalf⟩ := Checked.exists_quot best.roundTrip (b := 2) (by decide)
  exact ⟨⟨⟨best.offset⟩, ⟨half⟩⟩, Checked.bind_eq_ok_iff.mpr ⟨half, hhalf, rfl⟩⟩

end Best

/-- Among the readings is one with a shorter round trip than all before it that
    is not representable. -/
def Spoiled (tick : Int64) (readings : List Reading) : Prop :=
  ∃ before r after, readings = before ++ r :: after ∧
    (∀ s ∈ before, r.roundTrip < s.roundTrip) ∧ ¬r.Representable tick

theorem Best.Among.fold_eq_error_iff {best : Best} {seen readings : List Reading} {e : Fault}
    (h : Best.Among tick seen best) (hdated : ∀ r ∈ readings, r.Dated) :
    readings.foldlM (Best.take tick) best = .error e ↔
      e = .overflow ∧ ∃ before r after, readings = before ++ r :: after ∧
        (∀ s ∈ seen ++ before, r.roundTrip < s.roundTrip) ∧ ¬r.Representable tick := by
  induction readings generalizing seen best with
  | nil => simp [pure, Except.pure]
  | cons x readings ih =>
    have hx := hdated x List.mem_cons_self
    have hrest : ∀ r ∈ readings, r.Dated := fun r hr => hdated r (List.mem_cons_of_mem x hr)
    rw [List.foldlM_cons, Checked.bind_eq_error_iff, Best.take_eq_error_iff hx, h.shorter_iff hx]
    constructor
    · rintro (⟨rfl, hshorter, hgarbled⟩ | ⟨next, htake, hfold⟩)
      · exact ⟨rfl, [], x, readings, rfl, by simpa using hshorter, hgarbled⟩
      · obtain ⟨rfl, before, r, after, rfl, hshorter, hgarbled⟩ :=
          (ih (h.take htake) hrest).mp hfold
        exact ⟨rfl, x :: before, r, after, rfl, by simpa using hshorter, hgarbled⟩
    · rintro ⟨rfl, before, r, after, hsplit, hshorter, hgarbled⟩
      cases htake : best.take tick x with
      | error e =>
        obtain ⟨-, hfirst⟩ := (Best.take_eq_error_iff hx).mp htake
        rw [h.shorter_iff hx] at hfirst
        exact .inl ⟨rfl, hfirst⟩
      | ok next =>
        refine .inr ⟨next, rfl, (ih (h.take htake) hrest).mpr ⟨rfl, ?_⟩⟩
        cases before with
        | nil =>
          obtain ⟨rfl, rfl⟩ := List.cons.inj hsplit
          have hover : best.take tick x = .error .overflow := by
            rw [Best.take_eq_error_iff hx, h.shorter_iff hx]
            exact ⟨rfl, by simpa using hshorter, hgarbled⟩
          rw [hover] at htake
          cases htake
        | cons y before =>
          obtain ⟨rfl, rfl⟩ := List.cons.inj hsplit
          exact ⟨before, r, after, rfl, by simpa using hshorter, hgarbled⟩

theorem fold_eq_error_iff {readings : List Reading} {e : Fault}
    (hdated : ∀ r ∈ readings, r.Dated) :
    readings.foldlM (Best.take tick) .none = .error e ↔ e = .overflow ∧ Spoiled tick readings :=
  Best.among_none.fold_eq_error_iff hdated

/-! ### Measurements -/

/-- Every request of the bus and of the reference is answered, with a value or
    with an error. -/
structure BusClock.Responsive (c : BusClock W β γ) : Prop where
  reference : ∀ m, ∃ x m', Returns c.reference m x m'
  readCounter : ∀ m, ∃ x m', Returns c.bus.readCounter m x m'
  writeRate : ∀ rate m, ∃ x m', Returns (c.bus.writeRate rate) m x m'
  setTime : ∀ ticks m, ∃ x m', Returns (c.bus.setTime ticks) m x m'
  addTime : ∀ ticks m, ∃ x m', Returns (c.bus.addTime ticks) m x m'

/-- The times of the reference are in order in up to three readings from here
    on. -/
def ReadsInOrder (c : BusClock W β γ) (m : Machine W) : Prop :=
  ∀ (readings : List Reading) (m₁ : Machine W), Readings c m readings m₁ → readings.length ≤ 3 →
    ∀ r ∈ readings, r.Dated

/-- Up to three readings from here on can not be computed with. -/
def ReadsSpoiled (c : BusClock W β γ) (tick : Int64) (m : Machine W) : Prop :=
  ∃ readings m₁, Readings c m readings m₁ ∧ readings.length ≤ 3 ∧ Spoiled tick readings

theorem readBetween_returns (hc : c.Responsive) (m : Machine W) :
    ∃ x m', Returns c.readBetween m x m' := by
  refine exists_returns_bind (hc.reference m) fun before m₁ _ => ?_
  cases before with
  | error e => exact exists_returns_pure _ m₁
  | ok before =>
    refine exists_returns_bind (hc.readCounter m₁) fun ticks m₂ _ => ?_
    cases ticks with
    | error e => exact exists_returns_pure _ m₂
    | ok ticks =>
      refine exists_returns_bind (hc.reference m₂) fun after m₃ _ => ?_
      cases after with
      | error e => exact exists_returns_pure _ m₃
      | ok after => exact exists_returns_pure _ m₃

theorem measureFrom_overflows {readings : List Reading} {n : Nat} {best : Best}
    (h : Readings c m readings m') (hfew : readings.length ≤ n)
    (hfold : readings.foldlM (Best.take tick) best = .error .overflow) :
    Overflows (c.measureFrom tick n best) m := by
  induction h generalizing n best with
  | done => cases hfold
  | @more _ m₁ _ r readings first rest ih =>
    cases n with
    | zero => cases hfew
    | succ n =>
      refine first.overflows_bind ?_
      show Overflows (checked (best.take tick r) >>= c.measureFrom tick n) m₁
      rw [List.foldlM_cons, Checked.bind_eq_error_iff] at hfold
      rcases hfold with hover | ⟨next, htake, hfold⟩
      · exact (overflows_checked hover).bind _
      · exact (returns_checked.mpr ⟨htake, rfl⟩).overflows_bind
          (ih (Nat.le_of_succ_le_succ hfew) hfold)

theorem measureFrom_returns (hc : c.Responsive) {n : Nat} {best : Best}
    (hfold : ∀ readings m₁, Readings c m readings m₁ → readings.length ≤ n →
      ∃ best', readings.foldlM (Best.take tick) best = .ok best') :
    ∃ x m', Returns (c.measureFrom tick n best) m x m' := by
  induction n generalizing m best with
  | zero => exact exists_returns_pure _ m
  | succ n ih =>
    refine exists_returns_bind (readBetween_returns hc m) fun reading m₁ hread => ?_
    cases reading with
    | error e => exact exists_returns_pure _ m₁
    | ok reading =>
      have hmore {readings : List Reading} {m₂ : Machine W} (h : Readings c m₁ readings m₂) :
          Readings c m (⟨reading.1, reading.2.1, reading.2.2⟩ :: readings) m₂ := .more hread h
      obtain ⟨best', hfirst⟩ := hfold _ m₁ (hmore .done) (by simp)
      obtain ⟨next, htake, -⟩ := Checked.bind_eq_ok_iff.mp hfirst
      refine exists_returns_bind (exists_returns_checked ⟨next, htake⟩ m₁) fun taken m₂ htaken => ?_
      obtain ⟨hsame, rfl⟩ := returns_checked.mp htaken
      refine ih fun readings m₃ h hfew => ?_
      obtain ⟨best', hfold⟩ := hfold _ m₃ (hmore h) (Nat.succ_le_succ hfew)
      obtain ⟨next', htake', hrest⟩ := Checked.bind_eq_ok_iff.mp hfold
      cases hsame.symm.trans htake'
      exact ⟨best', hrest⟩

theorem measure_overflows (hdated : ReadsInOrder c m) (h : ReadsSpoiled c config.tick m) :
    Overflows (measure c config) m := by
  obtain ⟨readings, m₁, hread, hfew, hspoiled⟩ := h
  have hfold := (fold_eq_error_iff (hdated readings m₁ hread hfew)).mpr ⟨rfl, hspoiled⟩
  exact (measureFrom_overflows hread hfew hfold).bind _

theorem measure_returns (hc : c.Responsive) (hdated : ReadsInOrder c m)
    (h : ¬ReadsSpoiled c config.tick m) : ∃ x m', Returns (measure c config) m x m' := by
  have hfold : ∀ readings m₁, Readings c m readings m₁ → readings.length ≤ 3 →
      ∃ best, readings.foldlM (Best.take config.tick) .none = .ok best := by
    intro readings m₁ hread hfew
    cases hrun : readings.foldlM (Best.take config.tick) .none with
    | ok best => exact ⟨best, rfl⟩
    | error e =>
      have hspoiled := ((fold_eq_error_iff (hdated readings m₁ hread hfew)).mp hrun).2
      exact absurd ⟨readings, m₁, hread, hfew, hspoiled⟩ h
  refine exists_returns_bind (measureFrom_returns hc hfold) fun taken m₁ _ => ?_
  cases taken with
  | error e => exact exists_returns_pure _ m₁
  | ok best =>
    exact exists_returns_bind (exists_returns_checked best.exists_measurement m₁)
      fun _ m₂ _ => exists_returns_pure _ m₂

/-! ### The phases of a cycle -/

namespace RateTracker

/-- The ticks that a clock lacks can be counted unless it is behind by the
    least word. -/
theorem ticksLacking_eq_error_iff {offset : Duration} {e : Fault} :
    ticksLacking config offset = .error e ↔
      e = .overflow ∧ offset.nanos.toInt = -0x8000000000000000 := by
  have hlow := offset.nanos.le_toInt
  have hhigh := offset.nanos.toInt_lt
  have htick : 0 ≤ config.tick.toInt := by
    rw [toInt_tick]
    exact Int.natCast_nonneg _
  have hneg : offset.neg = .error e ↔ e = .overflow ∧ offset.nanos.toInt = -0x8000000000000000 := by
    rw [Duration.neg, Checked.map_eq_error_iff, Checked.neg, Checked.word_eq_error_iff]
    exact and_congr_right fun _ => by omega
  unfold ticksLacking
  rw [Checked.bind_eq_error_iff, hneg]
  refine or_iff_left ?_
  rintro ⟨lacking, -, hrest⟩
  obtain ⟨ticks, hticks⟩ := Checked.exists_quot lacking.nanos htick
  rw [hticks] at hrest
  cases hrest

theorem advance_overflows {offset : Duration} (h : offset.nanos.toInt = -0x8000000000000000) :
    Overflows (advance c config offset) m := by
  have hnegative : offset.isNegative = true := by
    rw [Duration.isNegative, h]
    rfl
  unfold advance
  rw [if_pos hnegative]
  exact (overflows_checked (ticksLacking_eq_error_iff.mpr ⟨rfl, h⟩)).bind _

theorem advance_returns (hc : c.Responsive) (config : TrackingConfig) {offset : Duration}
    (h : offset.nanos.toInt ≠ -0x8000000000000000) (m : Machine W) :
    ∃ x m', Returns (advance c config offset) m x m' := by
  have hticks : ∃ ticks, ticksLacking config offset = .ok ticks := by
    cases hrun : ticksLacking config offset with
    | ok ticks => exact ⟨ticks, rfl⟩
    | error e => exact absurd (ticksLacking_eq_error_iff.mp hrun).2 h
  unfold advance
  split
  · refine exists_returns_bind (exists_returns_checked hticks m) fun ticks m₁ _ => ?_
    exact exists_returns_bind (hc.addTime ticks m₁) fun _ m₂ _ => exists_returns_pure _ m₂
  · exact exists_returns_pure _ m

theorem setBehind_returns (hc : c.Responsive) (config : TrackingConfig)
    (hdated : ∀ {m₀ m₁ now}, Returns (c.bus.writeRate .nominal) m (.ok ()) m₀ →
      Returns c.reference m₀ (.ok now) m₁ → now.Dated) :
    ∃ x m', Returns (setBehind c config) m x m' := by
  refine exists_returns_bind (hc.writeRate .nominal m) fun written m₁ hwritten => ?_
  cases written with
  | error e => exact exists_returns_pure _ m₁
  | ok =>
    refine exists_returns_bind (hc.reference m₁) fun now m₂ hnow => ?_
    cases now with
    | error e => exact exists_returns_pure _ m₂
    | ok now =>
      have hlow := (hdated hwritten hnow).1
      have hhigh := now.nanos.toInt_lt
      have hsecond : Duration.oneSecond.nanos.toInt = 1000000000 := rfl
      obtain ⟨behind, -, hword⟩ :=
        Checked.exists_word (x := now.nanos.toInt - 1000000000) (by omega) (by omega)
      have hsub : now.sub .oneSecond = .ok ⟨behind⟩ := Instant.sub_eq_ok_iff.mpr (hsecond ▸ hword)
      have hticks : ∃ ticks, ticksBehind config now = .ok ticks :=
        ⟨_, Checked.bind_eq_ok_iff.mpr ⟨_, hsub, rfl⟩⟩
      refine exists_returns_bind (exists_returns_checked hticks m₂) fun ticks m₃ _ => ?_
      exact exists_returns_bind (hc.setTime ticks m₃) fun _ m₄ _ => exists_returns_pure _ m₄

/-- The cycle takes a measurement from here on. -/
inductive Measures (c : BusClock W β γ) (t : RateTracker) (m : Machine W) : Machine W → Prop
  | behind {m₀ : Machine W} (pending : t.resetRequested = true)
      (set : Returns (setBehind c t.config) m (.ok ()) m₀) : Measures c t m m₀
  | aligned {t' : RateTracker} {m₀ : Machine W} (pending : t.resetRequested = true)
      (reset : Returns (t.reset c) m (.ok (), t') m₀) : Measures c t m m₀
  | calm (pending : t.resetRequested = false) : Measures c t m m

/-- The times that a cycle reads off the reference are in order. -/
structure InOrder (c : BusClock W β γ) (t : RateTracker) (m : Machine W) : Prop where
  set : ∀ {m₀ m₁ now}, t.resetRequested = true → Returns (c.bus.writeRate .nominal) m (.ok ()) m₀ →
    Returns c.reference m₀ (.ok now) m₁ → now.Dated
  measured : ∀ {m₀}, Measures c t m m₀ → ReadsInOrder c m₀

/-- A cycle comes to something that it can not compute with: a reading of the
    counter, or an offset found in the reset phase. -/
inductive Garbled (c : BusClock W β γ) (t : RateTracker) (m : Machine W) : Prop
  | counter {m₀ : Machine W} (measures : Measures c t m m₀)
      (spoiled : ReadsSpoiled c t.config.tick m₀)
  | offset {m₀ m₁ : Machine W} {measured : Measurement} (pending : t.resetRequested = true)
      (set : Returns (setBehind c t.config) m (.ok ()) m₀)
      (reading : Returns (measure c t.config) m₀ (.ok measured) m₁)
      (least : measured.offset.nanos.toInt = -0x8000000000000000)

/-! ### The reset phase and the tracking phase -/

theorem reset_overflows_of_spoiled {m₀ : Machine W} (hdated : ReadsInOrder c m₀)
    (hset : Returns (setBehind c t.config) m (.ok ()) m₀) (h : ReadsSpoiled c t.config.tick m₀) :
    Overflows (t.reset c) m :=
  hset.overflows_bind ((measure_overflows hdated h).bind _)

theorem reset_overflows_of_least {m₀ m₁ : Machine W} {measured : Measurement}
    (hset : Returns (setBehind c t.config) m (.ok ()) m₀)
    (hread : Returns (measure c t.config) m₀ (.ok measured) m₁)
    (hleast : measured.offset.nanos.toInt = -0x8000000000000000) : Overflows (t.reset c) m := by
  refine hset.overflows_bind (hread.overflows_bind ?_)
  exact ((advance_overflows hleast).bind _).after_log

theorem reset_returns (hc : c.Responsive) (hpending : t.resetRequested = true)
    (horder : InOrder c t m) (hgood : ¬Garbled c t m) :
    ∃ x m', Returns (t.reset c) m x m' := by
  have hset := setBehind_returns hc t.config (horder.set hpending)
  refine exists_returns_bind hset fun set m₀ hset => ?_
  cases set with
  | error e => exact exists_returns_pure _ m₀
  | ok =>
    have hbehind : Measures c t m m₀ := .behind hpending hset
    have hread := measure_returns hc (horder.measured hbehind) fun h => hgood (.counter hbehind h)
    refine exists_returns_bind hread fun reading m₁ hread => ?_
    cases reading with
    | error e => exact exists_returns_pure _ m₁
    | ok measured =>
      refine exists_returns_bind (exists_returns_log _ _ _) fun _ m₂ _ => ?_
      have hadvance := advance_returns hc t.config
        (fun h => hgood (.offset hpending hset hread h)) m₂
      refine exists_returns_bind hadvance fun advanced m₃ _ => ?_
      cases advanced with
      | error e => exact exists_returns_pure _ m₃
      | ok => exact exists_returns_pure _ m₃

theorem correct_returns (hc : c.Responsive) (measured : Measurement) (m : Machine W) :
    ∃ x m', Returns (t.correct c measured) m x m' := by
  unfold correct
  split
  split
  · exact exists_returns_pure _ m
  · refine exists_returns_bind (hc.writeRate _ m) fun written m₁ _ => ?_
    cases written with
    | error e => exact exists_returns_pure _ m₁
    | ok => exact exists_returns_pure _ m₁

theorem track_returns (hc : c.Responsive) (hread : ∃ x m₁, Returns (measure c t.config) m x m₁) :
    ∃ x m', Returns (t.track c) m x m' := by
  refine exists_returns_bind hread fun reading m₁ _ => ?_
  cases reading with
  | error e => exact exists_returns_pure _ m₁
  | ok measured =>
    refine exists_returns_bind (exists_returns_log _ _ _) fun _ m₂ _ => ?_
    dsimp only
    split
    · refine exists_returns_bind (exists_returns_log _ _ _) fun _ m₃ _ => ?_
      exact exists_returns_pure _ m₃
    · exact correct_returns hc measured m₂

theorem reset_config {m₀ : Machine W} (h : Returns (t.reset c) m (.ok (), t') m₀) :
    t'.config = t.config := by
  cases reset_ends h
  rfl

/-! ### The cycle -/

theorem run_overflows (horder : InOrder c t m) (h : Garbled c t m) : Overflows (t.run c) m := by
  unfold run
  cases h with
  | counter measures spoiled =>
    have hdated := horder.measured measures
    cases measures with
    | behind pending set =>
      rw [if_pos pending]
      exact (reset_overflows_of_spoiled hdated set spoiled).bind _
    | aligned pending reset =>
      rw [if_pos pending]
      rw [← reset_config reset] at spoiled
      exact reset.overflows_bind ((measure_overflows hdated spoiled).bind _)
    | calm pending =>
      rw [if_neg (by simp [pending])]
      exact (measure_overflows hdated spoiled).bind _
  | offset pending set reading least =>
    rw [if_pos pending]
    exact (reset_overflows_of_least set reading least).bind _

theorem run_returns (hc : c.Responsive) (horder : InOrder c t m) (hgood : ¬Garbled c t m) :
    ∃ x m', Returns (t.run c) m x m' := by
  have htrack {m₀ : Machine W} (hmeasures : Measures c t m m₀) :
      ∃ x m₁, Returns (measure c t.config) m₀ x m₁ :=
    measure_returns hc (horder.measured hmeasures) fun h => hgood (.counter hmeasures h)
  unfold run
  split
  · next hpending =>
    refine exists_returns_bind (reset_returns hc hpending horder hgood) fun ended m₀ hreset => ?_
    obtain ⟨result, t'⟩ := ended
    cases result with
    | error e => exact exists_returns_pure _ m₀
    | ok =>
      apply track_returns hc
      rw [reset_config hreset]
      exact htrack (.aligned hpending hreset)
  · next hcalm => exact track_returns hc (htrack (.calm (Bool.eq_false_iff.mpr hcalm)))

theorem sync_overflows (horder : InOrder c t m) (h : Garbled c t m) : Overflows (t.sync c) m :=
  (run_overflows horder h).bind _

theorem sync_returns (hc : c.Responsive) (horder : InOrder c t m) (hgood : ¬Garbled c t m) :
    ∃ result t' m', Returns (t.sync c) m (result, t') m' := by
  have hsync : ∃ x m', Returns (t.sync c) m x m' := by
    refine exists_returns_bind (run_returns hc horder hgood) fun ended m₁ _ => ?_
    obtain ⟨result, t₁⟩ := ended
    dsimp only
    split <;> exact exists_returns_pure _ m₁
  obtain ⟨⟨result, t'⟩, m', h⟩ := hsync
  exact ⟨result, t', m', h⟩

/-- With times of the reference in order, a cycle overflows exactly if it comes
    to something that it can not compute with, and otherwise ends with an
    outcome or an error, whatever the counter shows. -/
theorem sync_overflows_iff (hc : c.Responsive) (horder : InOrder c t m) :
    (Overflows (t.sync c) m ↔ Garbled c t m) ∧
      (¬Garbled c t m → ∃ result t' m', Returns (t.sync c) m (result, t') m') := by
  refine ⟨⟨fun hover => ?_, sync_overflows horder⟩, sync_returns hc horder⟩
  apply Classical.byContradiction
  intro hgood
  obtain ⟨_, _, _, h⟩ := sync_returns hc horder hgood
  exact hover.not_returns h

/-- Nothing stops a cycle whose counter always shows a word that is at least
    `-2 ^ 62`. -/
theorem not_garbled (horder : InOrder c t m)
    (hshown : ∀ {m₀}, Measures c t m m₀ → ∀ readings m₁, Readings c m₀ readings m₁ →
      readings.length ≤ 3 → ∀ r ∈ readings,
        -0x4000000000000000 ≤ r.ticks.toInt64.toInt * t.config.tick.toInt ∧
          r.ticks.toInt64.toInt * t.config.tick.toInt < 0x8000000000000000) : ¬Garbled c t m := by
  intro h
  have hwords {m₀ m₁ : Machine W} {readings : List Reading} (hmeasures : Measures c t m m₀)
      (hread : Readings c m₀ readings m₁) (hfew : readings.length ≤ 3) {r : Reading}
      (hr : r ∈ readings) :
      r.Representable t.config.tick ∧ -0x8000000000000000 < r.ahead t.config.tick :=
    (horder.measured hmeasures _ _ hread hfew r hr).representable
      (hshown hmeasures _ _ hread hfew r hr).1 (hshown hmeasures _ _ hread hfew r hr).2
  cases h with
  | counter measures spoiled =>
    obtain ⟨readings, m₁, hread, hfew, before, r, after, rfl, -, hgarbled⟩ := spoiled
    exact hgarbled (hwords measures hread hfew (by simp)).1
  | offset pending set reading least =>
    have hmeasures : Measures c t m _ := .behind pending set
    rcases measure_cases reading with ⟨readings, measured, hread, hthree, heval, hsame⟩ |
      ⟨_, _, _, -, -, -, hfail⟩
    · cases hsame
      have hfew : readings.length ≤ 3 := Nat.le_of_eq hthree
      obtain ⟨r₀, hr₀⟩ := List.exists_mem_of_length_pos (by omega : 0 < readings.length)
      have hshort := (horder.measured hmeasures _ _ hread hfew r₀ hr₀).roundTrip_le
      obtain ⟨r, hr, -, hoffset, -⟩ := evaluate_spec heval ⟨r₀, hr₀, by omega⟩
      have hahead := (hwords hmeasures hread hfew hr).2
      omega
    · cases hfail

/-! ### A counter that shows anything -/

/-- A reference that stands at a thousand seconds, and a counter that stands at
    `ticks`. -/
def standing (ticks : UInt64) : BusClock Unit Unit Unit where
  bus := {
    writeRate := fun _ => pure (.ok ())
    readCounter := pure (.ok ticks)
    setTime := fun _ => pure (.ok ())
    addTime := fun _ => pure (.ok ()) }
  reference := pure (.ok ⟨1000000000000⟩)

theorem standing_responsive (ticks : UInt64) : (standing ticks).Responsive where
  reference := exists_returns_pure _
  readCounter := exists_returns_pure _
  writeRate _ := exists_returns_pure _
  setTime _ := exists_returns_pure _
  addTime _ := exists_returns_pure _

theorem standing_dated {ticks : UInt64} {now : Instant} {m m' : Machine Unit}
    (h : Returns (standing ticks).reference m (.ok now) m') : now = ⟨1000000000000⟩ := by
  have hnow := (returns_pure.mp h).1
  cases hnow
  rfl

theorem standing_reads {ticks : UInt64} {readings : List Reading} {m m' : Machine Unit}
    (h : Readings (standing ticks) m readings m') : ∀ r ∈ readings, r.Dated := by
  have hnow : (⟨1000000000000⟩ : Instant).Dated := ⟨by decide, by decide⟩
  induction h with
  | done => exact fun r hr => nomatch hr
  | @more m m₁ m₂ r readings first rest ih =>
    obtain ⟨_, _, hbefore, -, hafter⟩ := readBetween_ok first
    have hr : r.Dated := by
      have hsame : r.before = r.after := (standing_dated hbefore).trans (standing_dated hafter).symm
      refine ⟨?_, ?_, ?_⟩
      · rw [standing_dated hbefore]
        exact hnow
      · rw [standing_dated hafter]
        exact hnow
      · exact Int.le_of_eq (congrArg (·.nanos.toInt) hsame)
    intro s hs
    rcases List.mem_cons.mp hs with rfl | hs
    · exact hr
    · exact ih s hs

theorem standing_inOrder (ticks : UInt64) (t : RateTracker) (m : Machine Unit) :
    InOrder (standing ticks) t m where
  set _ _ hnow := by
    rw [standing_dated hnow]
    exact ⟨by decide, by decide⟩
  measured _ := fun _ _ hread _ => standing_reads hread

theorem sync_overflows_iff_standing :
    (standing 125000000000).Responsive ∧ InOrder (standing 125000000000) (start {}) ⟨(), #[]⟩ ∧
    (Overflows ((start {}).sync (standing 125000000000)) ⟨(), #[]⟩ ↔
      Garbled (standing 125000000000) (start {}) ⟨(), #[]⟩) ∧
    (¬Garbled (standing 125000000000) (start {}) ⟨(), #[]⟩ →
      ∃ result t' m',
        Returns ((start {}).sync (standing 125000000000)) ⟨(), #[]⟩ (result, t') m') :=
  ⟨standing_responsive _, standing_inOrder _ _ _,
    sync_overflows_iff (standing_responsive _) (standing_inOrder _ _ _)⟩

/-- Eight nanoseconds a tick, a counter at `2 ^ 60` shows one nanosecond more than
    a word can hold. -/
theorem not_forall_sync_returns :
    ¬∀ (c : BusClock Unit Unit Unit) (t : RateTracker) (m : Machine Unit), c.Responsive →
      0 < t.config.tickNanos → InOrder c t m →
      ∃ result t' m', Returns (t.sync c) m (result, t') m' := by
  intro h
  have hread : Readings (standing 1152921504606846976) ⟨(), #[]⟩
      [⟨⟨1000000000000⟩, 1152921504606846976, ⟨1000000000000⟩⟩] ⟨(), #[]⟩ := .more rfl .done
  have hspoiled : ReadsSpoiled (standing 1152921504606846976) (start {}).config.tick ⟨(), #[]⟩ := by
    refine ⟨_, _, hread, by decide, [], _, [], rfl, List.forall_mem_nil _, ?_⟩
    intro hwords
    exact absurd hwords.shown (by decide)
  have horder := standing_inOrder 1152921504606846976 (start {}) ⟨(), #[]⟩
  have hover := sync_overflows horder (.counter (.behind rfl rfl) hspoiled)
  obtain ⟨_, _, _, hreturns⟩ := h _ (start {}) _ (standing_responsive _) (by decide) horder
  exact hover.not_returns hreturns

end RateTracker

end ClockDiscipline
