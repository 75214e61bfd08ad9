/-
  ClockDiscipline/Proofs/ReportedOffset.lean
  ==========================================
  **The offset of a report, and the offset that pairing computed.**

  An event is paired with the full second nearest to a reading of the
  reference when it is handled.  The clock is corrected against an edge too,
  but against that of a later reading, and of a pulse that rises `phase` after
  the second.  `CycleTrace` holds both readings of a cycle without ports;
  `reported_offset` says how the two offsets differ, and when they do not.
-/
import ClockDiscipline.Bench.Environment
import ClockDiscipline.Proofs.Cycle
import ClockDiscipline.Proofs.Edges

namespace ClockDiscipline

open ClockDiscipline.Action

variable {W H S ε : Type} {env : Environment W H S ε} {wait : Waiter W ε}

namespace Orchestrator

variable {o o' : Orchestrator H S} {m m' : Machine W} {reports : List ClockReport}
  {report : ClockReport}

/-! ### A cycle without ports -/

/-- A cycle without ports that corrects clocks, phase by phase. -/
structure CycleTrace (env : Environment W H S ε) (wait : Waiter W ε) (o : Orchestrator H S)
    (m : Machine W) (reports : List ClockReport) (o' : Orchestrator H S) (m' : Machine W) where
  samples : List Sample
  collected : Orchestrator H S
  stamped : Orchestrator H S
  m₁ : Machine W
  m₂ : Machine W
  m₃ : Machine W
  /-- The reading of the reference that the clocks are corrected by. -/
  reading : Instant
  /-- The edge that they are corrected against. -/
  edge : Instant
  collecting : Collecting env wait o.flushTimestamps m samples collected m₁
  stamping : Returns (collected.collectReference env) m₁ (.ok (), stamped) m₂
  reads : Returns (stamped.reference.now env stamped.clocks) m₂ (.ok reading) m₃
  rounds : approximateEdge reading o.config.phase = .ok edge
  corrects : Returns (stamped.synchronizeClocks env edge stamped.clocks.ids) m₃ (reports, o') m'

theorem exists_trace (hports : o.topology = none)
    (h : Returns (o.runCycle env wait) m (.ok reports, o') m') (hreports : reports ≠ []) :
    Nonempty (CycleTrace env wait o m reports o' m') := by
  obtain ⟨selection, o₁, m₁, outcome, o₂, m₂, hselect, hpoll, hphases⟩ := runCycle_cases h
  -- without ports there is nothing to select
  simp only [reconfigure, hports, returns_pure, Prod.mk.injEq] at hselect
  obtain ⟨⟨-, rfl⟩, rfl⟩ := hselect
  obtain ⟨samples, o₃, m₃, hchain, hend⟩ := poll_cases hpoll
  rcases hphases with ⟨-, hnone⟩ |
    ⟨rfl, stamped, o₄, m₄, hstamp, ⟨-, hnone⟩ | ⟨rfl, reports', heq, hsync⟩⟩
  · exact absurd (hnone reports rfl) hreports
  · exact absurd rfl (hnone reports)
  · cases heq
    rcases hend with ⟨rfl, rfl⟩ | ⟨htimeout, -⟩
    · have hsame : o₄.setup = o₁.setup :=
        ((collectReference_setup hstamp).trans hchain.setup).trans (setup_flushTimestamps o₁)
      have hports' : o₄.topology = none := (topology_of_setup_eq hsame).trans hports
      have hconfig : o₄.config = o₁.config := config_of_setup_eq hsame
      simp only [synchronize, returns_bind] at hsync
      obtain ⟨⟨edge, o₅⟩, m₅, hsource, hsync⟩ := hsync
      cases edge with
      | none =>
        simp only [returns_pure, Prod.mk.injEq] at hsync
        exact absurd hsync.1.1 hreports
      | some edge =>
        obtain ⟨rfl, reading, hread, hround⟩ := sourceTimestamp_cases hports' hsource
        exact ⟨⟨samples, o₂, o₅, m₂, m₄, m₅, reading, edge, hchain, hstamp, hread,
          hconfig ▸ hround, hsync⟩⟩
    · cases htimeout

namespace CycleTrace

variable (trace : CycleTrace env wait o m reports o' m')

/-- How a report of the cycle came about. -/
abbrev Turn (report : ClockReport) :=
  Correction env trace.stamped trace.edge trace.stamped.clocks.ids trace.m₃ report

theorem exists_turn (hmem : report ∈ reports) : Nonempty (trace.Turn report) :=
  exists_correction (Registry.nodup_ids _) trace.corrects hmem

theorem collected_config : trace.collected.config = o.config :=
  config_of_setup_eq (trace.collecting.setup.trans (setup_flushTimestamps o))

theorem collected_reference : trace.collected.reference = o.reference :=
  reference_of_setup_eq (trace.collecting.setup.trans (setup_flushTimestamps o))

/-- After collecting, the timestamp of a clock is the local time of its last
    sample. -/
theorem collected_timestamp {id : ClockId} {c : Clock H S}
    (hc : trace.collected.clocks.get? id = some c) :
    c.timestamp = (Sample.last? trace.samples id).map (·.localTime) := by
  have hparts := parts_of_setup_eq trace.collecting.setup
  obtain ⟨c₀, hc₀, -⟩ := Registry.get?_of_parts_eq hparts.symm hc
  have hflushed : c₀.timestamp = none := by
    rw [flushTimestamps, Registry.get?_map, Option.map_eq_some_iff] at hc₀
    obtain ⟨c₁, -, rfl⟩ := hc₀
    rfl
  rw [trace.collecting.get? hc₀, Option.some.injEq] at hc
  rw [← hc, hflushed, Option.or_none]

/-- A clock that is the reference itself is corrected by its own reading. -/
theorem time_of_reference (turn : trace.Turn report)
    (hown : o.reference.clock? = some report.clock) :
    ∃ t m₂, Returns (o.reference.now env trace.collected.clocks) trace.m₁ (.ok t) m₂ ∧
      approximateEdge t o.config.phase = .ok turn.time := by
  rcases collectReference_cases trace.stamping with ⟨hnone, -⟩ |
    ⟨id, c, t, edge, m₂, hid, hc, hnow, hedge, hstamped⟩
  · rw [trace.collected_reference, hown] at hnone
    cases hnone
  · rw [trace.collected_reference] at hid hnow
    rw [trace.collected_config] at hedge
    obtain rfl : id = report.clock := Option.some.inj (hid.symm.trans hown)
    have hget : trace.stamped.clocks.get? report.clock =
        some { c with timestamp := some edge } := by
      rw [hstamped]
      exact Registry.get?_set_self _ hc
    have hclock := Option.some.inj (hget.symm.trans turn.found)
    have htime : some edge = some turn.time := by
      rw [← turn.timestamp, ← hclock]
    exact ⟨t, m₂, hnow, Option.some.inj htime ▸ hedge⟩

/-- Any other clock is corrected by its last sample of the cycle. -/
theorem time_of_sample (turn : trace.Turn report)
    (hother : o.reference.clock? ≠ some report.clock) :
    ∃ s, Sample.last? trace.samples report.clock = some s ∧ turn.time = s.localTime := by
  have hsame :
      trace.stamped.clocks.get? report.clock = trace.collected.clocks.get? report.clock := by
    rcases collectReference_cases trace.stamping with ⟨-, hstamped⟩ |
      ⟨id, c, t, edge, m₂, hid, -, -, -, hstamped⟩
    · rw [hstamped]
    · rw [trace.collected_reference] at hid
      have hne : report.clock ≠ id := fun heq => hother (heq ▸ hid)
      rw [hstamped]
      exact Registry.get?_set_of_ne _ hne
  have htime := trace.collected_timestamp (hsame.symm.trans turn.found)
  rw [turn.timestamp] at htime
  obtain ⟨s, hs, hlocal⟩ := Option.map_eq_some_iff.mp htime.symm
  exact ⟨s, hs, hlocal.symm⟩

/-- The offset of a report and that of the sample it comes from are to
    different edges.  They agree exactly if the pulse rises on full seconds,
    and the later reading is still nearest to the second that the sample was
    paired with. -/
theorem offset_of_sample (turn : trace.Turn report) {s : Sample}
    (hs : Sample.last? trace.samples report.clock = some s) (htime : turn.time = s.localTime) :
    ∃ edge, s.reference.roundToSecond = .ok edge ∧
      report.offset.nanos.toInt =
        s.offset.nanos.toInt + (edge.nanos.toInt - trace.edge.nanos.toInt) ∧
      (report.offset = s.offset ↔ nanosPerSecond ∣ o.config.peroutPhase.toInt ∧
        edge.nanos.toInt - trace.reading.nanos.toInt < 500000000 ∧
        trace.reading.nanos.toInt - edge.nanos.toInt ≤ 500000000) := by
  have hpaired := (trace.collecting.paired s (Sample.last?_mem hs).1).2
  obtain ⟨edge, hedge, hoffset⟩ := pairEvent_edge hpaired.2
  have hsince := Instant.since_eq_ok_iff.mp turn.offset
  have hpair := Instant.since_eq_ok_iff.mp hoffset
  rw [htime] at hsince
  have hsame := (roundToSecond_nearest hedge).eq_iff (approximateEdge_nearest trace.rounds)
  refine ⟨edge, hedge, by omega, Iff.trans ?_ hsame⟩
  constructor
  · intro hsame
    rw [hsame] at hsince
    exact Instant.ext_toInt (by omega)
  · intro hsame
    rw [hsame] at hsince
    exact Duration.ext_toInt (by omega)

end CycleTrace

/-- What a cycle without ports reports of a clock.  Its time is that of its
    last accepted event, paired with a full second, unless it is the reference
    itself; and its offset is to the edge that the reference is nearest to when
    the clocks are corrected. -/
theorem reported_offset (hports : o.topology = none)
    (h : Returns (o.runCycle env wait) m (.ok reports, o') m') (hmem : report ∈ reports) :
    ∃ (trace : CycleTrace env wait o m reports o' m') (turn : trace.Turn report),
      (o.reference.clock? = some report.clock →
        ∃ t m₂, Returns (o.reference.now env trace.collected.clocks) trace.m₁ (.ok t) m₂ ∧
          approximateEdge t o.config.phase = .ok turn.time) ∧
      (o.reference.clock? ≠ some report.clock →
        ∃ s edge, Sample.last? trace.samples report.clock = some s ∧ turn.time = s.localTime ∧
          s.reference.roundToSecond = .ok edge ∧
          report.offset.nanos.toInt =
            s.offset.nanos.toInt + (edge.nanos.toInt - trace.edge.nanos.toInt) ∧
          (report.offset = s.offset ↔ nanosPerSecond ∣ o.config.peroutPhase.toInt ∧
            edge.nanos.toInt - trace.reading.nanos.toInt < 500000000 ∧
            trace.reading.nanos.toInt - edge.nanos.toInt ≤ 500000000)) := by
  obtain ⟨trace⟩ := exists_trace hports h (List.ne_nil_of_mem hmem)
  obtain ⟨turn⟩ := trace.exists_turn hmem
  refine ⟨trace, turn, trace.time_of_reference turn, fun hother => ?_⟩
  obtain ⟨s, hs, htime⟩ := trace.time_of_sample turn hother
  obtain ⟨edge, hedge, hoffset, hiff⟩ := trace.offset_of_sample turn hs htime
  exact ⟨s, edge, hs, htime, hedge, hoffset, hiff⟩

/-! ### A pulse a quarter of a second late -/

/-- One clock with one event on the full second, 20 ns late. -/
def oneEvent : Machine Bench.World where
  world := {
    devices := [{ name := "eth0", events := [⟨0, ⟨1000000000020⟩⟩] }]
    systemTime := ⟨1000000000000⟩ }
  journal := #[]

/-- Correcting that clock against a pulse a quarter of a second after the full
    second. -/
def quarterLate : Orchestrator Nat Bench.Servo where
  config := { peroutPhase := 250000000 }
  clocks := ⟨[some { Clock.opened "eth0" 0 0 .prepared with isDestination := true }]⟩
  reference := .generic .zero
  sources := [.usual "eth0" ⟨0⟩]
  topology := none
  sourceClock := none

def quarterLateCycle :
    Action Bench.World (Except (SyncError Bench.Failure) (List ClockReport) ×
      Orchestrator Nat Bench.Servo) :=
  quarterLate.runCycle (Bench.environment .prepared oneEvent.world)
    (Bench.wait quarterLate.sourceHandles)

/-- Whether a cycle has ended with one report. -/
def reportsOnce :
    Except Fault (Except (SyncError Bench.Failure) (List ClockReport) ×
      Orchestrator Nat Bench.Servo) → Bool
  | .ok (.ok [_], _) => true
  | _ => false

theorem returns_quarterLateCycle :
    ∃ report o' m', Returns quarterLateCycle oneEvent (.ok [report], o') m' := by
  have h : reportsOnce (quarterLateCycle.outcome oneEvent).1 = true := by decide +kernel
  unfold reportsOnce at h
  split at h
  · next report o' hrun => exact ⟨report, o', _, returns_of_outcome hrun⟩
  · cases h

/-- It is not so that the offset of a report is always the one that pairing
    computed for the last accepted event of its clock. -/
theorem not_forall_reported_offset_paired :
    ¬ ∀ (env : Environment Bench.World Nat Bench.Servo Bench.Failure)
      (wait : Waiter Bench.World Bench.Failure) (o o' : Orchestrator Nat Bench.Servo)
      (m m' : Machine Bench.World) (reports : List ClockReport) (report : ClockReport),
      o.topology = none → Returns (o.runCycle env wait) m (.ok reports, o') m' →
      report ∈ reports →
      ∃ (trace : CycleTrace env wait o m reports o' m') (s : Sample),
        Sample.last? trace.samples report.clock = some s ∧ report.offset = s.offset := by
  intro hpaired
  obtain ⟨report, o', m', hrun⟩ := returns_quarterLateCycle
  obtain ⟨trace, s, hs, hsame⟩ := hpaired _ _ _ _ _ _ _ report rfl hrun (List.mem_singleton_self _)
  obtain ⟨turn⟩ := trace.exists_turn (List.mem_singleton_self report)
  obtain ⟨s', hs', htime⟩ := trace.time_of_sample turn (by simp [quarterLate, Reference.clock?])
  obtain rfl : s = s' := Option.some.inj (hs.symm.trans hs')
  obtain ⟨edge, -, -, hiff⟩ := trace.offset_of_sample turn hs htime
  have hphase := (hiff.mp hsame).1
  exact absurd hphase (by decide)

theorem reported_offset_quarterLate :
    quarterLate.topology = none ∧
    ∃ report o' m', Returns quarterLateCycle oneEvent (.ok [report], o') m' ∧
      report ∈ [report] ∧
      ∃ (trace : CycleTrace (Bench.environment .prepared oneEvent.world)
          (Bench.wait quarterLate.sourceHandles) quarterLate oneEvent [report] o' m') (s : Sample),
        Sample.last? trace.samples report.clock = some s ∧ report.offset ≠ s.offset := by
  obtain ⟨report, o', m', hrun⟩ := returns_quarterLateCycle
  have hmem : report ∈ [report] := List.mem_singleton_self report
  obtain ⟨trace, turn, -, hsample⟩ := reported_offset rfl hrun hmem
  obtain ⟨s, edge, hs, -, -, -, hiff⟩ := hsample (by simp [quarterLate, Reference.clock?])
  refine ⟨rfl, report, o', m', hrun, hmem, trace, s, hs, fun hsame => ?_⟩
  exact absurd (hiff.mp hsame).1 (by decide)

end Orchestrator

end ClockDiscipline
