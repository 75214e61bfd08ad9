/-
  ClockDiscipline/Proofs/Alignment.lean
  =====================================
  **How well a reset phase aligns a clock behind a bus.**

  The clock counts whole ticks, the true time of a counter reading is only
  known to lie between two readings of the reference, and it is advanced by
  whole ticks.  If it keeps its distance to the reference meanwhile, what is
  left of that distance is at most a tick and half the shortest round trip
  (`reset_aligns`).
-/
import ClockDiscipline.Proofs.Measuring
import ClockDiscipline.Proofs.Phases
import Mathlib.Algebra.Order.Archimedean.Real.Basic
import Mathlib.Tactic.Linarith

namespace ClockDiscipline

open ClockDiscipline.Action
open ClockDiscipline.RateTracker (ResetEnds setBehind ticksLacking)

variable {W β γ : Type} {c : BusClock W β γ} {config : TrackingConfig} {t t' : RateTracker}
  {m m' : Machine W}

/-! ### What is assumed of the clock -/

/-- The counter was read at an instant `τ` of the reference between the two
    readings of it, and shows the whole ticks of a clock that is `ahead`.  All
    values are small. -/
structure Reading.ShowsAt (tickNanos : ℕ) (ahead : ℝ) (r : Reading) (τ : ℝ) : Prop where
  before : (r.before.nanos.toInt : ℝ) ≤ τ
  after : τ ≤ r.after.nanos.toInt
  shown : (r.ticks.toNat : ℤ) = ⌊(τ + ahead) / tickNanos⌋
  nonneg : 0 ≤ r.before.nanos.toInt ∧ 0 ≤ τ + ahead
  small : r.after.nanos.toInt < 2 ^ 62 ∧ τ + ahead < 2 ^ 62

/-- From the set in a reset phase on, the clock keeps its distance to the
    reference, and it honours what is added to it. -/
structure KeepsDistance (c : BusClock W β γ) (config : TrackingConfig) (m : Machine W)
    (ahead : W → ℝ) : Prop where
  shows : ∀ {m₀ m₁ : Machine W} {readings : List Reading},
    Returns (setBehind c config) m (.ok ()) m₀ → Readings c m₀ readings m₁ →
    readings.length = 3 →
    ∀ r ∈ readings, ∃ τ, r.ShowsAt config.tickNanos.toNat (ahead m₀.world) τ
  constant : ∀ {m₀ m₁ : Machine W} {readings : List Reading},
    Returns (setBehind c config) m (.ok ()) m₀ → Readings c m₀ readings m₁ →
    readings.length = 3 → ahead m₁.world = ahead m₀.world
  adds : ∀ {m₁ m₂ : Machine W} {ticks : UInt64}, Returns (c.bus.addTime ticks) m₁ (.ok ()) m₂ →
    ahead m₂.world = ahead m₁.world + ticks.toNat * config.tickNanos.toNat

/-! ### Ticks -/

theorem toInt_toInt64 {ticks : UInt64} (h : ticks.toNat < 2 ^ 63) :
    ticks.toInt64.toInt = ticks.toNat := by
  have hbits : ticks.toInt64.toInt = (ticks.toNat : ℤ).bmod (2 ^ 64) := by
    rw [Int64.toInt, UInt64.toBitVec_toInt64, BitVec.toInt_eq_toNat_bmod]
    rfl
  rw [hbits]
  exact Int.bmod_eq_of_le (by omega) (by omega)

theorem toNat_toUInt64 {w : Int64} (h : 0 ≤ w.toInt) : (w.toUInt64.toNat : ℤ) = w.toInt := by
  rw [Int64.toNat_toUInt64_of_le (Int64.le_iff_toInt_le.mpr h), Int64.toNatClampNeg]
  exact Int.toNat_of_nonneg h

/-- The ticks that are added are those that fit into what is lacking. -/
theorem toNat_ticksLacking {offset : Duration} {ticks : UInt64} (hbehind : offset.nanos.toInt < 0)
    (h : ticksLacking config offset = .ok ticks) :
    (ticks.toNat : ℤ) = -offset.nanos.toInt / config.tickNanos.toNat := by
  obtain ⟨lacking, hlacking, hrest⟩ := Checked.bind_eq_ok_iff.mp h
  obtain ⟨negated, hnegated, rfl⟩ := Checked.map_eq_ok_iff.mp hlacking
  obtain ⟨whole, hwhole, hticks⟩ := Checked.bind_eq_ok_iff.mp hrest
  cases hticks
  have hnegated : negated.toInt = -offset.nanos.toInt := Checked.word_eq_ok_iff.mp hnegated
  have hpos : 0 ≤ -offset.nanos.toInt := by omega
  have hwhole : whole.toInt = -offset.nanos.toInt / config.tickNanos.toNat := by
    rw [Checked.word_eq_ok_iff.mp hwhole, toInt_tick, ← hnegated]
    exact Int.tdiv_eq_ediv_of_nonneg (hnegated ▸ hpos)
  rw [toNat_toUInt64, hwhole]
  rw [hwhole]
  exact Int.ediv_nonneg hpos (Int.natCast_nonneg _)

namespace Reading.ShowsAt

variable {tickNanos : ℕ} {ahead τ : ℝ} {r : Reading}

theorem ticks_le (h : r.ShowsAt tickNanos ahead τ) (htick : 0 < tickNanos) :
    (r.ticks.toNat : ℝ) * tickNanos ≤ τ + ahead := by
  have hpos : (0 : ℝ) < tickNanos := Nat.cast_pos.mpr htick
  have hfloor : ((r.ticks.toNat : ℤ) : ℝ) ≤ (τ + ahead) / tickNanos := h.shown ▸ Int.floor_le _
  exact (le_div_iff₀ hpos).mp hfloor

theorem lt_ticks (h : r.ShowsAt tickNanos ahead τ) (htick : 0 < tickNanos) :
    τ + ahead < (r.ticks.toNat + 1 : ℝ) * tickNanos := by
  have hpos : (0 : ℝ) < tickNanos := Nat.cast_pos.mpr htick
  have hfloor : (τ + ahead) / tickNanos < ((r.ticks.toNat : ℤ) : ℝ) + 1 :=
    h.shown ▸ Int.lt_floor_add_one _
  exact (div_lt_iff₀ hpos).mp hfloor

theorem roundTrip_nonneg (h : r.ShowsAt tickNanos ahead τ) : 0 ≤ r.roundTrip := by
  have hle : (r.before.nanos.toInt : ℝ) ≤ r.after.nanos.toInt := h.before.trans h.after
  have hle : r.before.nanos.toInt ≤ r.after.nanos.toInt := by exact_mod_cast hle
  unfold roundTrip
  omega

theorem roundTrip_lt (h : r.ShowsAt tickNanos ahead τ) : r.roundTrip < 0x7FFFFFFFFFFFFFFF := by
  have hsmall := h.small.1
  have hnonneg := h.nonneg.1
  unfold roundTrip
  omega

theorem ticks_lt (h : r.ShowsAt tickNanos ahead τ) (htick : 0 < tickNanos) :
    r.ticks.toNat < 2 ^ 63 := by
  have hone : (1 : ℝ) ≤ tickNanos := by exact_mod_cast htick
  have hticks : (r.ticks.toNat : ℝ) ≤ r.ticks.toNat * tickNanos :=
    le_mul_of_one_le_right (Nat.cast_nonneg _) hone
  have hlt : (r.ticks.toNat : ℝ) < 2 ^ 63 := by
    have hsmall := h.small.2
    have hle := h.ticks_le htick
    linarith
  exact_mod_cast hlt

/-- Nothing wraps around. -/
theorem ahead_eq {config : TrackingConfig} (h : r.ShowsAt config.tickNanos.toNat ahead τ)
    (htick : 0 < config.tickNanos.toNat) :
    r.ahead config.tick =
      r.ticks.toNat * config.tickNanos.toNat - r.before.nanos.toInt - r.roundTrip / 2 := by
  rw [Reading.ahead, toInt_tick, toInt_toInt64 (h.ticks_lt htick),
    Int.tdiv_eq_ediv_of_nonneg h.roundTrip_nonneg]

/-- What is left of the distance once the clock was advanced by the ticks that
    fit into the measured offset. -/
theorem left_le {config : TrackingConfig} {lacking : ℕ}
    (h : r.ShowsAt config.tickNanos.toNat ahead τ) (htick : 0 < config.tickNanos.toNat)
    (hlacking : (lacking : ℤ) = -r.ahead config.tick / config.tickNanos.toNat) :
    |ahead + lacking * config.tickNanos.toNat| ≤
      config.tickNanos.toNat + (r.roundTrip / 2 : ℤ) := by
  have hahead := h.ahead_eq htick
  have hlow := h.ticks_le htick
  have hhigh := h.lt_ticks htick
  have hbefore := h.before
  have hafter := h.after
  generalize config.tickNanos.toNat = tick at *
  -- the ticks that were added, and the half round trip, as integers
  have hfits : lacking * tick ≤ -r.ahead config.tick := by
    rw [hlacking]
    exact Int.ediv_mul_le _ (by omega)
  have hrest : -r.ahead config.tick + 1 ≤ (lacking + 1) * tick := by
    rw [hlacking]
    exact Int.lt_ediv_add_one_mul_self _ (by omega)
  have hhalf : r.after.nanos.toInt - r.before.nanos.toInt ≤ 2 * (r.roundTrip / 2) + 1 := by
    show r.roundTrip ≤ _
    omega
  rw [hahead] at hfits hrest
  have hfits : (lacking * tick : ℝ) ≤
      -(r.ticks.toNat * tick - r.before.nanos.toInt - (r.roundTrip / 2 : ℤ)) := by
    exact_mod_cast hfits
  have hrest : -(r.ticks.toNat * tick - r.before.nanos.toInt - (r.roundTrip / 2 : ℤ)) + 1 ≤
      ((lacking + 1) * tick : ℝ) := by
    exact_mod_cast hrest
  have hhalf : (r.after.nanos.toInt - r.before.nanos.toInt : ℝ) ≤
      2 * (r.roundTrip / 2 : ℤ) + 1 := by
    exact_mod_cast hhalf
  rw [abs_le]
  constructor <;> linarith

end Reading.ShowsAt

/-! ### The reset phase -/

/-- The reading that a measurement goes by has the shortest round trip. -/
theorem KeepsDistance.exists_best {ahead : W → ℝ} {m₀ m₁ : Machine W} {readings : List Reading}
    {measured : Measurement} (h : KeepsDistance c config m ahead)
    (hset : Returns (setBehind c config) m (.ok ()) m₀) (hread : Readings c m₀ readings m₁)
    (hthree : readings.length = 3) (heval : evaluate config.tick readings = .ok measured) :
    ∃ (r : Reading) (τ : ℝ), r.ShowsAt config.tickNanos.toNat (ahead m₀.world) τ ∧
      (∀ s ∈ readings, r.roundTrip ≤ s.roundTrip) ∧
      measured.offset.nanos.toInt = r.ahead config.tick := by
  have hshows := h.shows hset hread hthree
  have hshort : ∃ r ∈ readings, r.roundTrip < 0x7FFFFFFFFFFFFFFF := by
    obtain ⟨r, hr⟩ := List.exists_mem_of_length_pos (by omega : 0 < readings.length)
    obtain ⟨τ, hτ⟩ := hshows r hr
    exact ⟨r, hr, hτ.roundTrip_lt⟩
  obtain ⟨r, hr, hleast, hoffset, -⟩ := evaluate_spec heval hshort
  obtain ⟨τ, hτ⟩ := hshows r hr
  exact ⟨r, τ, hτ, hleast, hoffset⟩

/-- A reset phase that succeeds leaves a clock that keeps its distance within a
    tick and half a round trip of the reference, for the shortest of the three
    round trips. -/
theorem reset_aligns {ahead : W → ℝ} (htick : 0 < t.config.tickNanos)
    (hclock : KeepsDistance c t.config m ahead)
    (hreset : Returns (t.reset c) m (.ok (), t') m') :
    ∃ m₀ m₁ readings, Returns (setBehind c t.config) m (.ok ()) m₀ ∧ Readings c m₀ readings m₁ ∧
      readings.length = 3 ∧
      ∀ r ∈ readings,
        |ahead m'.world| ≤ t.config.tickNanos.toNat + (r.roundTrip / 2 : ℤ) := by
  have htick : 0 < t.config.tickNanos.toNat := UInt32.lt_iff_toNat_lt.mp htick
  cases RateTracker.reset_ends hreset with
  | @aligned measured ticks text m₀ m₁ _ set reading behind lacking added =>
    rcases measure_cases reading with ⟨readings, measured', hread, hthree, heval, hsame⟩ |
      ⟨_, _, _, -, -, -, hfail⟩
    · cases hsame
      refine ⟨m₀, m₁, readings, set, hread, hthree, ?_⟩
      obtain ⟨r, τ, hτ, hleast, hoffset⟩ := hclock.exists_best set hread hthree heval
      have hticks := toNat_ticksLacking behind lacking
      rw [hoffset] at hticks
      have hleft := hτ.left_le htick hticks
      have hworld : ahead m'.world =
          ahead m₀.world + ticks.toNat * t.config.tickNanos.toNat := by
        have hconstant := hclock.constant set hread hthree
        rw [hclock.adds added]
        exact congrArg (· + _) hconstant
      intro s hs
      have hhalf : r.roundTrip / 2 ≤ s.roundTrip / 2 := by
        have := hleast s hs
        omega
      have hhalf : ((r.roundTrip / 2 : ℤ) : ℝ) ≤ (s.roundTrip / 2 : ℤ) := by exact_mod_cast hhalf
      rw [hworld]
      linarith
    · cases hfail

/-! ### A clock that keeps its distance -/

/-- A reference that moves on by 40 ns whenever something is read, and a clock
    that is ahead of it. -/
structure SteadyWorld where
  now : Int
  ahead : Int

namespace SteadyWorld

/-- Read something that has to be small. -/
def reading {α : Type} (value : SteadyWorld → Int) (shown : Int → α) :
    Action SteadyWorld (Except Unit α) :=
  Action.perform fun w =>
    if 0 ≤ value w ∧ value w < 0x4000000000000000 then
      (.ok (shown (value w)), { w with now := w.now + 40 })
    else (.error (), w)

def reference : Action SteadyWorld (Except Unit Instant) :=
  reading (·.now) fun n => ⟨Int64.ofInt n⟩

def counter : Action SteadyWorld (Except Unit UInt64) :=
  reading (fun w => w.now + w.ahead) fun n => UInt64.ofNat (n / 8).toNat

/-- Make the clock show something else. -/
def write (next : SteadyWorld → Int) : Action SteadyWorld (Except Unit Unit) :=
  Action.perform fun w => (.ok (), { w with ahead := next w })

/-- The clock has ticks of 8 ns. -/
def clock : BusClock SteadyWorld Unit Unit where
  bus := {
    writeRate := fun _ => pure (.ok ())
    readCounter := counter
    setTime := fun ticks => write fun w => ticks.toNat * 8 - w.now
    addTime := fun ticks => write fun w => w.ahead + ticks.toNat * 8 }
  reference := reference

variable {m m' : Machine SteadyWorld}

theorem reading_ok {α : Type} {value : SteadyWorld → Int} {shown : Int → α} {x : α}
    (h : Returns (reading value shown) m (.ok x) m') :
    0 ≤ value m.world ∧ value m.world < 0x4000000000000000 ∧ x = shown (value m.world) ∧
      m'.world = { m.world with now := m.world.now + 40 } := by
  obtain ⟨hx, rfl⟩ := returns_perform.mp h
  split at hx
  · next hrange =>
    cases hx
    refine ⟨hrange.1, hrange.2, rfl, ?_⟩
    rw [if_pos hrange]
  · cases hx

theorem addTime_ok {ticks : UInt64} (h : Returns (clock.bus.addTime ticks) m (.ok ()) m') :
    m'.world.ahead = m.world.ahead + ticks.toNat * 8 := by
  have h : Returns (write fun w => w.ahead + ticks.toNat * 8) m (.ok ()) m' := h
  obtain ⟨-, rfl⟩ := returns_perform.mp h
  rfl

theorem reference_ok {now : Instant} (h : Returns reference m (.ok now) m') :
    now.nanos.toInt = m.world.now ∧ 0 ≤ m.world.now ∧ m.world.now < 0x4000000000000000 ∧
      m'.world = { m.world with now := m.world.now + 40 } := by
  obtain ⟨hlow, hhigh, rfl, hworld⟩ := reading_ok h
  exact ⟨Int64.toInt_ofInt_of_le (by omega) (by omega), hlow, hhigh, hworld⟩

theorem counter_ok {ticks : UInt64} (h : Returns counter m (.ok ticks) m') :
    (ticks.toNat : ℤ) = (m.world.now + m.world.ahead) / 8 ∧ 0 ≤ m.world.now + m.world.ahead ∧
      m.world.now + m.world.ahead < 0x4000000000000000 ∧
      m'.world = { m.world with now := m.world.now + 40 } := by
  obtain ⟨hlow, hhigh, rfl, hworld⟩ := reading_ok h
  refine ⟨?_, hlow, hhigh, hworld⟩
  rw [UInt64.toNat_ofNat']
  omega

/-- The counter is read 40 ns after the reference. -/
theorem readBetween_shows {r : Reading}
    (h : Returns clock.readBetween m (.ok (r.before, r.ticks, r.after)) m') :
    m'.world.ahead = m.world.ahead ∧
      r.ShowsAt 8 m.world.ahead ((m.world.now + 40 : ℤ) : ℝ) := by
  obtain ⟨m₁, m₂, hbefore, hticks, hafter⟩ := readBetween_ok h
  obtain ⟨hbefore, hlow, -, hworld₁⟩ := reference_ok hbefore
  obtain ⟨hticks, hcounter, hsmall, hworld₂⟩ := counter_ok hticks
  obtain ⟨hafter, -, hhigh, hworld₃⟩ := reference_ok hafter
  simp only [hworld₁] at hticks hcounter hsmall hworld₂
  simp only [hworld₂] at hafter hhigh hworld₃
  have hkept : m'.world.ahead = m.world.ahead := by rw [hworld₃]
  refine ⟨hkept, ?_, ?_, ?_, ⟨?_, ?_⟩, ?_, ?_⟩
  · exact_mod_cast (by omega : r.before.nanos.toInt ≤ m.world.now + 40)
  · exact_mod_cast (by omega : m.world.now + 40 ≤ r.after.nanos.toInt)
  · rw [hticks, Int.floor_div_natCast, ← Int.cast_add, Int.floor_intCast]
    rfl
  · omega
  · exact_mod_cast hcounter
  · omega
  · exact_mod_cast hsmall

theorem readings_show {readings : List Reading} (h : Readings clock m readings m') :
    m'.world.ahead = m.world.ahead ∧ ∀ r ∈ readings, ∃ τ, r.ShowsAt 8 m.world.ahead τ := by
  induction h with
  | done =>
    refine ⟨rfl, ?_⟩
    intro r hr
    cases hr
  | more first rest ih =>
    obtain ⟨hkept, hshows⟩ := readBetween_shows first
    obtain ⟨hconstant, hrest⟩ := ih
    refine ⟨hconstant.trans hkept, ?_⟩
    intro r hr
    rw [hkept] at hrest
    rcases List.mem_cons.mp hr with rfl | hr
    · exact ⟨_, hshows⟩
    · exact hrest r hr

theorem keepsDistance {config : TrackingConfig} (htick : config.tickNanos.toNat = 8)
    (m : Machine SteadyWorld) : KeepsDistance clock config m fun w => (w.ahead : ℝ) where
  shows _ hread _ := htick ▸ (readings_show hread).2
  constant _ hread _ := congrArg _ (readings_show hread).1
  adds h := by
    rw [htick, addTime_ok h]
    push_cast
    rfl

end SteadyWorld

/-- A clock that is half a millisecond late. -/
def late : Machine SteadyWorld := ⟨⟨5000000000, -500000⟩, #[]⟩

/-- Whether a reset phase has succeeded. -/
def succeeds {β γ : Type} : Except Fault (Except (TrackingError β γ) Unit × RateTracker) → Bool
  | .ok (.ok (), _) => true
  | _ => false

theorem reset_aligns_late :
    ∃ t : RateTracker, 0 < t.config.tickNanos ∧
      KeepsDistance SteadyWorld.clock t.config late (fun w => (w.ahead : ℝ)) ∧
      ∃ t' m', Returns (t.reset SteadyWorld.clock) late (.ok (), t') m' ∧
        ∃ m₀ m₁ readings, Returns (setBehind SteadyWorld.clock t.config) late (.ok ()) m₀ ∧
          Readings SteadyWorld.clock m₀ readings m₁ ∧ readings.length = 3 ∧
          ∀ r ∈ readings,
            |(m'.world.ahead : ℝ)| ≤ t.config.tickNanos.toNat + (r.roundTrip / 2 : ℤ) := by
  have hcheck : succeeds (((RateTracker.start {}).reset SteadyWorld.clock).outcome late).1 =
      true := by
    decide +kernel
  have htick : 0 < (RateTracker.start {}).config.tickNanos := by decide
  have hclock : KeepsDistance SteadyWorld.clock (RateTracker.start {}).config late
      fun w => (w.ahead : ℝ) := SteadyWorld.keepsDistance rfl late
  refine ⟨.start {}, htick, hclock, ?_⟩
  generalize RateTracker.start {} = t at *
  unfold succeeds at hcheck
  split at hcheck
  · next t' hrun =>
    have hreset := returns_of_outcome hrun
    exact ⟨t', _, hreset, reset_aligns htick hclock hreset⟩
  · cases hcheck

end ClockDiscipline
