/-
  ClockDiscipline/Proofs/Reports.lean
  ===================================
  **Which clocks a cycle reports, and by which two times.**

  A `CollectedCycle` is a cycle up to the point at which clocks are corrected.
  What its steps have seen decides everything that follows: the time of a
  clock is that of its last accepted event, or of the pulse it emits itself if
  it is the reference, and all offsets are to one edge (`reports_of_cycle`).
  Timestamps from before the cycle are flushed before anything reads them.
-/
import ClockDiscipline.Bench.Environment
import ClockDiscipline.Proofs.Edges
import ClockDiscipline.Proofs.Flushing
import ClockDiscipline.Proofs.Polling

namespace ClockDiscipline

open ClockDiscipline.Action

variable {W H S ε : Type} {env : Environment W H S ε} {wait : Waiter W ε}

namespace Orchestrator

variable {o o' : Orchestrator H S} {m m' : Machine W}

/-! ### A cycle up to its corrections -/

/-- A cycle whose events have all been collected, up to the point at which the
    clocks are corrected. -/
structure CollectedCycle (env : Environment W H S ε) (wait : Waiter W ε) (o : Orchestrator H S)
    (m : Machine W) where
  selection : Option Selection
  samples : List Sample
  progress : Progress
  /-- After the source has been selected. -/
  selected : Orchestrator H S
  /-- After the events have been collected. -/
  collected : Orchestrator H S
  /-- After the edge of a reference clock has been kept. -/
  stamped : Orchestrator H S
  m₁ : Machine W
  m₂ : Machine W
  m₃ : Machine W
  selecting : Returns o.reconfigure m (selection, selected) m₁
  sources : selected.sources ≠ []
  polling : Polling env wait selected.flushTimestamps m₁ samples collected progress [] m₂
  complete : progress.handled.all id = true
  certain : progress.ambiguous = false
  stamping : Returns (collected.collectReference env) m₂ (.ok (), stamped) m₃

namespace CollectedCycle

variable (run : CollectedCycle env wait o m)

/-- The time that a clock has got in this cycle: as the reference that of its
    own pulse, and otherwise that of the last event accepted from one of its
    sources, with the correction configured for that source. -/
inductive Got (id : ClockId) (t : Instant) : Prop where
  | pulse {reading : Instant} {m' : Machine W} :
      run.selected.reference.clock? = some id →
      Returns (run.selected.reference.now env run.collected.clocks) run.m₂ (.ok reading) m' →
      approximateEdge reading run.selected.config.phase = .ok t → Got id t
  | event {s : Sample} :
      run.selected.reference.clock? ≠ some id → Sample.last? run.samples id = some s →
      s.event.time.add s.source.correction = .ok t → Got id t

/-- The time that all clocks are corrected against: with ports what the
    selected clock has got, and otherwise the edge nearest to the reference. -/
inductive SourceTime (t : Instant) : Prop where
  | clock {id : ClockId} :
      run.selected.topology ≠ none → run.selected.sourceClock = some id → run.Got id t →
      SourceTime t
  | reference {reading : Instant} {m' : Machine W} :
      run.selected.topology = none →
      Returns (run.selected.reference.now env run.stamped.clocks) run.m₃ (.ok reading) m' →
      approximateEdge reading run.selected.config.phase = .ok t → SourceTime t

/-- A clock is a destination once the source has been selected. -/
def Destination (id : ClockId) : Prop :=
  ∃ c, run.selected.clocks.get? id = some c ∧ c.isDestination = true

/-- What the reports of a cycle say. -/
structure Reported (source : Instant) (reports : List ClockReport) : Prop where
  /-- Clocks are reported once, in the order they were opened. -/
  ordered : reports.Pairwise fun earlier later => earlier.clock.slot < later.clock.slot
  /-- The destinations that have got a time are, but for the source. -/
  reported_iff : ∀ id, (∃ report ∈ reports, report.clock = id) ↔
    run.Destination id ∧ ¬run.selected.IsSource id ∧ ∃ t, run.Got id t
  /-- The offset is what the time of the clock is ahead of the source. -/
  offset : ∀ report ∈ reports, ∃ t, run.Got report.clock t ∧
    report.offset.nanos.toInt = t.nanos.toInt - source.nanos.toInt

/-! ### The times of the clocks -/

theorem collected_setup : run.collected.setup = run.selected.setup :=
  run.polling.collecting.setup.trans (setup_flushTimestamps _)

theorem stamped_setup : run.stamped.setup = run.selected.setup :=
  (collectReference_setup run.stamping).trans run.collected_setup

theorem localTime_iff {id : ClockId} {s : Sample} {t : Instant}
    (hs : Sample.last? run.samples id = some s) :
    s.event.time.add s.source.correction = .ok t ↔ s.localTime = t := by
  have hpaired := (run.polling.collecting.paired s (Sample.last?_mem hs).1).2
  rw [pairEvent_localTime hpaired.2, Except.ok.injEq]

theorem got_iff_of_ne {id : ClockId} {t : Instant}
    (hne : run.selected.reference.clock? ≠ some id) :
    run.Got id t ↔ ∃ c, run.collected.clocks.get? id = some c ∧ c.timestamp = some t := by
  rw [run.polling.collecting.timestamp_iff]
  constructor
  · intro hgot
    cases hgot with
    | pulse hid _ _ => exact absurd hid hne
    | @event s _ hs ht => exact ⟨s, hs, (run.localTime_iff hs).mp ht⟩
  · rintro ⟨s, hs, ht⟩
    exact .event hne hs ((run.localTime_iff hs).mpr ht)

/-- What a clock has got is its timestamp when the clocks are corrected. -/
theorem got_iff {id : ClockId} {t : Instant} :
    run.Got id t ↔ ∃ c, run.stamped.clocks.get? id = some c ∧ c.timestamp = some t := by
  have hreference := reference_of_setup_eq run.collected_setup
  have hconfig := config_of_setup_eq run.collected_setup
  rcases collectReference_cases run.stamping with
    ⟨hnone, hstamped⟩ | ⟨own, c, reading, edge, m', hown, hc, hnow, hedge, hstamped⟩
  · rw [hreference] at hnone
    rw [hstamped]
    exact run.got_iff_of_ne (by simp [hnone])
  rw [hreference] at hown hnow
  rw [hconfig] at hedge
  by_cases hid : own = id
  · subst hid
    have hget : run.stamped.clocks.get? own = some { c with timestamp := some edge } := by
      rw [hstamped]
      exact Registry.get?_set_self _ hc
    constructor
    · intro hgot
      cases hgot with
      | pulse _ hnow' ht =>
        obtain ⟨hreading, -⟩ := hnow.unique hnow'
        obtain rfl := Except.ok.inj hreading
        obtain rfl := Except.ok.inj (hedge.symm.trans ht)
        exact ⟨_, hget, rfl⟩
      | event hne _ _ => exact absurd hown hne
    · rintro ⟨c', hc', ht⟩
      obtain rfl := Option.some.inj (hget.symm.trans hc')
      obtain rfl := Option.some.inj ht
      exact .pulse hown hnow hedge
  · have hget : run.stamped.clocks.get? id = run.collected.clocks.get? id := by
      rw [hstamped]
      exact Registry.get?_set_of_ne _ fun heq => hid heq.symm
    rw [hget]
    refine run.got_iff_of_ne fun heq => hid ?_
    exact Option.some.inj (hown.symm.trans heq)

/-! ### The corrections -/

/-- The time of the source is found exactly if there is one, and afterwards
    the clocks have what they have got, except for the source. -/
theorem sourceTimestamp_spec {time? : Option Instant}
    (h : Returns (run.stamped.sourceTimestamp env) run.m₃ (time?, o') m') :
    (∀ t, time? = some t ↔ run.SourceTime t) ∧
      ∀ id t, (∃ c, o'.clocks.get? id = some c ∧ c.timestamp = some t) ↔
        ¬run.selected.IsSource id ∧ run.Got id t := by
  have htopology := topology_of_setup_eq run.stamped_setup
  have hreference := reference_of_setup_eq run.stamped_setup
  have hconfig := config_of_setup_eq run.stamped_setup
  have hclock := sourceClock_of_setup_eq run.stamped_setup
  by_cases hports : run.selected.topology = none
  · obtain ⟨rfl, htime⟩ := sourceTimestamp_free (htopology.trans hports) h
    rw [hreference, hconfig] at htime
    constructor
    · intro t
      constructor
      · rintro rfl
        rcases htime with ⟨hnone, -⟩ | ⟨reading, edge, hsome, hnow, hedge⟩
        · cases hnone
        · obtain rfl := Option.some.inj hsome
          exact .reference hports hnow hedge
      · intro hsource
        cases hsource with
        | clock hsome _ _ => exact absurd hports hsome
        | reference _ hnow hedge =>
          rcases htime with ⟨-, e, m₁, hfailed⟩ | ⟨reading, edge, rfl, hnow', hedge'⟩
          · cases (hfailed.unique hnow).1
          · obtain rfl := Except.ok.inj (hnow'.unique hnow).1
            exact congrArg some (Except.ok.inj (hedge'.symm.trans hedge))
    · intro id t
      have hnot : ¬run.selected.IsSource id := fun hsource => hsource.1 hports
      rw [run.got_iff, and_iff_right hnot]
  · obtain ⟨htime, hclocks⟩ := sourceTimestamp_ports (htopology ▸ hports) h
    rw [hclock] at htime hclocks
    constructor
    · intro t
      rw [htime]
      constructor
      · rintro ⟨id, c, hid, hc, ht⟩
        exact .clock hports hid (run.got_iff.mpr ⟨c, hc, ht⟩)
      · intro hsource
        cases hsource with
        | @clock id _ hid hgot =>
          obtain ⟨c, hc, ht⟩ := run.got_iff.mp hgot
          exact ⟨id, c, hid, hc, ht⟩
        | reference hnone _ _ => exact absurd hnone hports
    · intro id t
      rw [hclocks, run.got_iff]
      by_cases hid : run.selected.sourceClock = some id
      · simp [IsSource, hports, hid, Clock.flushTimestamp]
      · simp [IsSource, hid]

theorem returns_synchronize {reports : List ClockReport}
    (h : Returns (o.runCycle env wait) m (.ok reports, o') m') :
    Returns (run.stamped.synchronize env) run.m₃ (reports, o') m' := by
  have hsources : run.selected.flushTimestamps.sources ≠ [] := run.sources
  simp only [runCycle, returns_bind] at h
  obtain ⟨⟨selection, o₁⟩, m₁, hselect, ⟨outcome, o₂⟩, m₂, hpoll, h⟩ := h
  obtain ⟨hsame, rfl⟩ := run.selecting.unique hselect
  cases hsame
  obtain ⟨houtcome, rfl, rfl⟩ := run.polling.returns_handled hsources run.complete hpoll
  obtain rfl : outcome = .ok .collected := by
    rw [houtcome, run.certain]
    rfl
  simp only [returns_bind] at h
  obtain ⟨⟨stamped, o₃⟩, m₃, hstamp, h⟩ := h
  obtain ⟨hsame, rfl⟩ := run.stamping.unique hstamp
  cases hsame
  simp only [returns_bind, returns_pure, Prod.mk.injEq, Except.ok.injEq] at h
  obtain ⟨⟨reports, o₄⟩, m₄, hsync, ⟨rfl, rfl⟩, rfl⟩ := h
  exact hsync

theorem isDue_iff {sourced : Orchestrator H S} (hsetup : sourced.setup = run.selected.setup)
    (hclocks : ∀ id t, (∃ c, sourced.clocks.get? id = some c ∧ c.timestamp = some t) ↔
      ¬run.selected.IsSource id ∧ run.Got id t) {id : ClockId} :
    sourced.isDue id = true ↔
      run.Destination id ∧ ¬run.selected.IsSource id ∧ ∃ t, run.Got id t := by
  have hparts := parts_of_setup_eq hsetup
  rw [isDue_eq_true_iff]
  constructor
  · rintro ⟨c, hc, hset, t, ht⟩
    obtain ⟨hsource, hgot⟩ := (hclocks id t).mp ⟨c, hc, ht⟩
    obtain ⟨c', hc', hpart⟩ := Registry.get?_of_parts_eq hparts.symm hc
    exact ⟨⟨c', hc', (congrArg ClockPart.isDestination hpart).trans hset⟩, hsource, t, hgot⟩
  · rintro ⟨⟨c', hc', hset⟩, hsource, t, hgot⟩
    obtain ⟨c, hc, ht⟩ := (hclocks id t).mpr ⟨hsource, hgot⟩
    obtain ⟨c₁, hc₁, hpart⟩ := Registry.get?_of_parts_eq hparts hc'
    obtain rfl := Option.some.inj (hc.symm.trans hc₁)
    exact ⟨c, hc, (congrArg ClockPart.isDestination hpart).trans hset, t, ht⟩

theorem reported {source : Instant} {reports : List ClockReport} (hsource : run.SourceTime source)
    (h : Returns (o.runCycle env wait) m (.ok reports, o') m') : run.Reported source reports := by
  have hsync := run.returns_synchronize h
  simp only [synchronize, returns_bind] at hsync
  obtain ⟨⟨time?, sourced⟩, m₁, htime, hsync⟩ := hsync
  obtain ⟨htime_iff, hclocks⟩ := run.sourceTimestamp_spec htime
  have hsetup : sourced.setup = run.selected.setup :=
    (sourceTimestamp_setup htime).trans run.stamped_setup
  obtain rfl := (htime_iff source).mpr hsource
  have hlist := synchronizeClocks_clocks (Registry.nodup_ids _) hsync
  dsimp only at hsync hlist
  constructor
  · have hordered := (Registry.pairwise_ids sourced.clocks).filter sourced.isDue
    rw [← hlist, List.pairwise_map] at hordered
    exact hordered
  · intro id
    rw [← run.isDue_iff hsetup hclocks, ← List.mem_map, hlist, List.mem_filter,
      and_iff_right_iff_imp]
    intro hdue
    obtain ⟨c, hc, -⟩ := isDue_eq_true_iff.mp hdue
    exact Registry.mem_ids.mpr ⟨c, hc⟩
  · intro report hmem
    obtain ⟨turn⟩ := exists_correction (Registry.nodup_ids _) hsync hmem
    have hgot := ((hclocks report.clock turn.time).mp ⟨_, turn.found, turn.timestamp⟩).2
    exact ⟨turn.time, hgot, Instant.since_eq_ok_iff.mp turn.offset⟩

end CollectedCycle

/-- A cycle that has reported something has collected its events, and has
    found a time of the source. -/
theorem exists_collected {reports : List ClockReport} (hreports : reports ≠ [])
    (h : Returns (o.runCycle env wait) m (.ok reports, o') m') :
    ∃ (run : CollectedCycle env wait o m) (source : Instant), run.SourceTime source := by
  obtain ⟨selection, o₁, m₁, outcome, o₂, m₂, hselect, hpoll, hphases⟩ := runCycle_cases h
  rcases hphases with ⟨-, hnone⟩ |
    ⟨rfl, stamped, o₃, m₃, hstamp, ⟨-, hnone⟩ | ⟨rfl, reports', heq, hsync⟩⟩
  · exact absurd (hnone reports rfl) hreports
  · exact absurd rfl (hnone reports)
  cases heq
  obtain ⟨hsources, samples, p, hpoint, hall, hcertain⟩ := exists_polling_of_collected hpoll
  let run : CollectedCycle env wait o m :=
    ⟨selection, samples, p, o₁, o₂, o₃, m₁, m₂, m₃, hselect, hsources, hpoint, hall, hcertain,
      hstamp⟩
  simp only [synchronize, returns_bind] at hsync
  obtain ⟨⟨time?, sourced⟩, m₄, htime, hsync⟩ := hsync
  cases time? with
  | none =>
    simp only [returns_pure, Prod.mk.injEq] at hsync
    exact absurd hsync.1.1 hreports
  | some t => exact ⟨run, t, ((run.sourceTimestamp_spec htime).1 t).mp rfl⟩

/-- A cycle in which all events have been collected and the source has a time
    reports the destinations that have got one, with their offsets to it.  No
    other cycle reports anything, and timestamps that the clocks had before
    make no difference. -/
theorem reports_of_cycle {reports : List ClockReport}
    (h : Returns (o.runCycle env wait) m (.ok reports, o') m') :
    (∀ (run : CollectedCycle env wait o m) (source : Instant),
      run.SourceTime source → run.Reported source reports) ∧
    (reports ≠ [] →
      ∃ (run : CollectedCycle env wait o m) (source : Instant), run.SourceTime source) ∧
    ∀ earlier : Orchestrator H S, earlier.flushTimestamps = o.flushTimestamps →
      Returns (earlier.runCycle env wait) m (.ok reports, o') m' := by
  refine ⟨?_, ?_, ?_⟩
  · intro run source hsource
    exact run.reported hsource h
  · intro hreports
    exact exists_collected hreports h
  · intro earlier hsame
    rw [← runCycle_flushTimestamps, hsame, runCycle_flushTimestamps]
    exact h

/-! ### A timestamp left behind -/

/-- One clock has an event, and another one a timestamp of an earlier cycle. -/
def leftBehind : Orchestrator Nat Bench.Servo where
  config := {}
  clocks := ⟨[some { Clock.opened "eth0" 0 0 .prepared with isDestination := true },
    some { Clock.opened "eth1" 1 1 .prepared with
      isDestination := true, timestamp := some ⟨999000000000⟩ }]⟩
  reference := .generic .zero
  sources := [.usual "eth0" ⟨0⟩]
  topology := none
  sourceClock := none

def leftBehindWorld : Machine Bench.World where
  world := {
    devices := [{ name := "eth0", events := [⟨0, ⟨1000000000020⟩⟩] },
      { name := "eth1", index := 1 }]
    systemTime := ⟨1000000000000⟩ }
  journal := #[]

def leftBehindCycle :
    Action Bench.World (Except (SyncError Bench.Failure) (List ClockReport) ×
      Orchestrator Nat Bench.Servo) :=
  leftBehind.runCycle (Bench.environment .prepared leftBehindWorld.world)
    (Bench.wait leftBehind.sourceHandles)

/-- Whether a cycle has ended with one report, on the first clock and of 20 ns. -/
def reportsFirst :
    Except Fault (Except (SyncError Bench.Failure) (List ClockReport) ×
      Orchestrator Nat Bench.Servo) → Bool
  | .ok (.ok [report], _) => report.clock == ⟨0⟩ && report.offset.nanos == 20
  | _ => false

/-- Only the clock with an event is reported. -/
theorem reports_of_cycle_leftBehind :
    ∃ report o' m', Returns leftBehindCycle leftBehindWorld (.ok [report], o') m' ∧
      report.offset.nanos = 20 ∧
      ∃ (run : CollectedCycle (Bench.environment .prepared leftBehindWorld.world)
          (Bench.wait leftBehind.sourceHandles) leftBehind leftBehindWorld) (source : Instant),
        run.SourceTime source ∧ run.Reported source [report] := by
  have h : reportsFirst (leftBehindCycle.outcome leftBehindWorld).1 = true := by decide +kernel
  unfold reportsFirst at h
  split at h
  · next report o' hrun =>
    have hoffset : report.offset.nanos = 20 := by
      simp only [Bool.and_eq_true, beq_iff_eq] at h
      exact h.2
    obtain ⟨hreported, hexists, -⟩ := reports_of_cycle (returns_of_outcome hrun)
    obtain ⟨run, source, hsource⟩ := hexists (List.cons_ne_nil _ _)
    exact ⟨report, o', _, returns_of_outcome hrun, hoffset, run, source, hsource,
      hreported run source hsource⟩
  · cases h

end Orchestrator

end ClockDiscipline
