/-
  ClockDiscipline/Proofs/LastFrequency.lean
  =========================================
  **The last frequency of a clock, and what was written to its device.**

  A clock keeps and reports a frequency once all of an adjustment was granted.
  When a clock is to jump its device is given a frequency and then stepped: if
  only the step fails, the frequency was written all the same, but the clock
  goes by the one before and none is reported.  So the last frequency is the
  one written last exactly unless a step has failed since, or both are the same
  (`frequencies_of_run`).
-/
import ClockDiscipline.Bench.Environment
import ClockDiscipline.Proofs.ClockLife

namespace ClockDiscipline

open ClockDiscipline.Action

variable {W H S ε : Type} {env : Environment W H S ε}

/-! ### What was written -/

/-- What the requests made of a device have come to, as to its frequency. -/
structure FrequencyHistory where
  /-- The frequency written last. -/
  written : Option Float
  /-- What was settled when it was written. -/
  before : Option Float
  /-- Whether a step has failed since. -/
  stepFailed : Bool

namespace FrequencyHistory

/-- The frequency of the last adjustment that was granted altogether. -/
def settled (h : FrequencyHistory) : Option Float := if h.stepFailed then h.before else h.written

def next (h : FrequencyHistory) : ClockRequest ε → FrequencyHistory
  | .frequency value (.ok ()) => ⟨some value, h.settled, false⟩
  | .step _ (.error _) => { h with stepFailed := true }
  | .frequency _ (.error _) | .step _ (.ok _) | .opened | .sampled .. | .reset => h

def after (requests : List (ClockRequest ε)) : FrequencyHistory :=
  requests.foldl next ⟨none, none, false⟩

theorem after_append (requests added : List (ClockRequest ε)) :
    after (requests ++ added) = added.foldl next (after requests) :=
  List.foldl_append

theorem settled_eq_written_iff (h : FrequencyHistory) :
    h.settled = h.written ↔ h.stepFailed = false ∨ h.before = h.written := by
  unfold settled
  cases h.stepFailed <;> simp

end FrequencyHistory

/-- Whether a device was given a frequency, and no step was refused. -/
def Granted (requests : List (ClockRequest ε)) (value : Float) : Prop :=
  .frequency value (.ok ()) ∈ requests ∧ ∀ offset e, .step offset (.error e) ∉ requests

/-! ### Adjustments -/

variable {offset : Duration} {frequency : Float} {state : ServoState}
  {requests added : List (ClockRequest ε)} {granted : Bool} {t t' : Tuning S}
  {report : Option Float}

theorem Adjusted.granted_iff (h : Adjusted offset frequency state requests granted)
    {value : Float} :
    Granted requests value ↔ granted = true ∧ value = frequency := by
  cases h <;> simp [Granted, eq_comm]

theorem Adjusted.settled (h : Adjusted offset frequency state requests granted)
    (history : FrequencyHistory) :
    (requests.foldl FrequencyHistory.next history).settled =
      if granted then some frequency else history.settled := by
  cases h <;> rfl

theorem Steered.report_eq_some_iff (h : Steered env t added t' report) {value : Float} :
    report = some value ↔ Granted added value := by
  cases h with
  | @fed offset localNanos weight adjustment state servo requests granted m m' hsample hadjusted =>
    have hsampled : Granted (.sampled offset.nanos adjustment state :: requests) value ↔
        Granted requests value := by simp [Granted]
    rw [hsampled, hadjusted.granted_iff]
    cases granted <;> simp [eq_comm]

theorem Steered.settled (h : Steered env t added t' report)
    (ht : t.lastFrequency = (FrequencyHistory.after requests).settled) :
    t'.lastFrequency = (FrequencyHistory.after (requests ++ added)).settled := by
  cases h with
  | fed hsample hadjusted =>
    rw [FrequencyHistory.after_append, List.foldl_cons, hadjusted.settled]
    show (if _ then _ else t.lastFrequency) = _
    rw [ht]
    rfl

/-- A clock goes by the adjustment that was granted last. -/
theorem Life.lastFrequency (h : Life env requests t) :
    t.lastFrequency = (FrequencyHistory.after requests).settled := by
  induction h with
  | opened hservo => rfl
  | reset hlife hreset ih =>
    rw [FrequencyHistory.after_append]
    exact ih
  | measured offset hlife ih => exact ih
  | steered hlife hsteered ih => exact hsteered.settled ih

theorem Reported.frequency_eq_some_iff (h : Reported env added report) {value : Float} :
    report = some value ↔ Granted added value := by
  cases h with
  | measured hnone hreport => simp [hnone, hreport, Granted]
  | steered hsteered => exact hsteered.report_eq_some_iff

/-! ### Any run -/

/-- After any operations, and in any cycle that follows:

    the last frequency of a clock is the one of the adjustment that was granted
    last, so it is the one that was written last exactly if no step has failed
    since or both are the same; and a cycle reports a frequency exactly if it
    was written in that cycle and no step failed. -/
theorem frequencies_of_run {record : Record ε} {o : Orchestrator (Numbered H) (Numbered S)}
    (hrun : Orchestrator.Run env record o) :
    (∀ id c, o.clocks.get? id = some c →
      c.lastFrequency = (FrequencyHistory.after (record.of c.handle.number)).settled ∧
      (c.lastFrequency = (FrequencyHistory.after (record.of c.handle.number)).written ↔
        (FrequencyHistory.after (record.of c.handle.number)).stepFailed = false ∨
        (FrequencyHistory.after (record.of c.handle.number)).before =
          (FrequencyHistory.after (record.of c.handle.number)).written)) ∧
    ∀ (wait : Waiter W ε) m reports o' m', m.world.2 = record →
      Returns (o.runCycle env.recorded wait.beside) m (.ok reports, o') m' →
      ∃ added, Adds m added m' ∧ ∀ report ∈ reports,
        ∃ c, o'.clocks.get? report.clock = some c ∧
          ∀ value, report.frequency = some value ↔
            Granted (Record.of added c.handle.number) value := by
  have hchronicle := hrun.chronicle
  constructor
  · intro id c hc
    have hlast : c.lastFrequency = _ := (hchronicle.clock id c hc).life.lastFrequency
    refine ⟨hlast, ?_⟩
    rw [hlast]
    exact FrequencyHistory.settled_eq_written_iff _
  · rintro wait m reports o' m' rfl hcycle
    obtain ⟨-, added, hadds, hreports⟩ := Orchestrator.runCycle_record hchronicle hcycle
    refine ⟨added, hadds, ?_⟩
    intro report hreport
    obtain ⟨c, hc, hreported⟩ := hreports report hreport
    refine ⟨c, hc, ?_⟩
    intro value
    exact hreported.frequency_eq_some_iff

/-! ### A clock that can not be stepped -/

/-- The servo is to answer that the clock has to jump. -/
def unsteppable : Bench.World where
  devices := [{ name := "eth0", failing := [.step] }]
  answers := [(0, .jump)]
  systemTime := ⟨1000000000000⟩

def unsteppableEnvironment : Environment Bench.World Nat Bench.Servo Bench.Failure :=
  Bench.environment .prepared unsteppable

/-- Listen to the device, and run a cycle once an event has come in. -/
def jumping : Action (Bench.World × Record Bench.Failure)
    (Except (SyncError Bench.Failure) (List ClockReport) ×
      Orchestrator (Numbered Nat) (Numbered Bench.Servo)) := do
  let (_, o) ← (Orchestrator.start {} .empty (.generic .zero)).addSource
    unsteppableEnvironment.recorded { device := "eth0" }
  Action.perform fun (w, record) =>
    ((), (w.change "eth0" { events := [⟨0, ⟨1000000000020⟩⟩] }, record))
  o.runCycle unsteppableEnvironment.recorded (Bench.wait [some 0]).beside

/-- Whether the device of the only clock was given a frequency and could not be
    stepped. -/
def failsToStep (record : Record Bench.Failure) :
    Except Fault (Except (SyncError Bench.Failure) (List ClockReport) ×
      Orchestrator (Numbered Nat) (Numbered Bench.Servo)) → Bool
  | .ok (_, o) => (o.clocks.get? ⟨0⟩).any fun c =>
    match record.of c.handle.number with
    | [.opened, .sampled _ _ .jump, .frequency _ (.ok ()), .step _ (.error _)] => true
    | _ => false
  | .error _ => false

theorem exists_jumping :
    ∃ (record : Record Bench.Failure) (o : Orchestrator (Numbered Nat) (Numbered Bench.Servo))
      (c : Clock (Numbered Nat) (Numbered Bench.Servo)) (offset : Int64) (adjustment value : Float)
      (back : Duration) (e : Bench.Failure),
      Orchestrator.Run unsteppableEnvironment record o ∧ o.clocks.get? ⟨0⟩ = some c ∧
      record.of c.handle.number = [.opened, .sampled offset adjustment .jump,
        .frequency value (.ok ()), .step back (.error e)] := by
  have h : failsToStep (jumping.outcome ⟨(unsteppable, []), #[]⟩).2.world.2
      (jumping.outcome ⟨(unsteppable, []), #[]⟩).1 = true := by decide +kernel
  rcases hrun : jumping.outcome ⟨(unsteppable, []), #[]⟩ with ⟨_ | ⟨result, o⟩, m'⟩
  · rw [hrun] at h
    cases h
  · rw [hrun] at h
    replace hrun : Returns jumping ⟨(unsteppable, []), #[]⟩ (result, o) m' := hrun
    obtain ⟨c, hc, hrequests⟩ := (Option.any_eq_true _ _).mp h
    split at hrequests
    · next offset adjustment value back e hrequests' =>
      simp only [jumping, returns_bind, returns_perform] at hrun
      obtain ⟨⟨_, o₁⟩, m₁, hadd, _, _, ⟨-, rfl⟩, hcycle⟩ := hrun
      have hstart : Orchestrator.Run unsteppableEnvironment []
          (.start {} .empty (.generic .zero)) := .start _ _ .empty
      have hadded : Orchestrator.Run unsteppableEnvironment m₁.world.2 o₁ :=
        .step hstart (.addSource hadd)
      exact ⟨m'.world.2, o, c, offset, adjustment, value, back, e,
        hadded.next (.runCycle hcycle) rfl, hc, hrequests'⟩
    · cases hrequests

/-- The frequency was written, and the clock does not know. -/
theorem frequencies_of_run_unsteppable :
    ∃ record o c, Orchestrator.Run unsteppableEnvironment record o ∧
      o.clocks.get? ⟨0⟩ = some c ∧ c.lastFrequency = none ∧
      ∃ value, (FrequencyHistory.after (record.of c.handle.number)).written = some value := by
  obtain ⟨record, o, c, offset, adjustment, value, back, e, hrun, hc, hrequests⟩ := exists_jumping
  obtain ⟨hclocks, -⟩ := frequencies_of_run hrun
  obtain ⟨hlast, -⟩ := hclocks ⟨0⟩ c hc
  rw [hrequests] at hlast
  exact ⟨record, o, c, hrun, hc, hlast, value, by rw [hrequests]; rfl⟩

/-- So the last frequency of a clock is not always the one written last, and what
    is reported is not always what was written. -/
theorem not_forall_lastFrequency_written :
    ¬∀ record o, Orchestrator.Run unsteppableEnvironment record o →
      (∀ id c, o.clocks.get? id = some c →
        c.lastFrequency = (FrequencyHistory.after (record.of c.handle.number)).written) ∧
      ∀ (wait : Waiter Bench.World Bench.Failure) m reports o' m', m.world.2 = record →
        Returns (o.runCycle unsteppableEnvironment.recorded wait.beside) m (.ok reports, o') m' →
        ∃ added, Adds m added m' ∧ ∀ report ∈ reports,
          ∃ c, o'.clocks.get? report.clock = some c ∧
            ∀ value, report.frequency = some value ↔
              .frequency value (.ok ()) ∈ Record.of added c.handle.number := by
  intro hall
  obtain ⟨record, o, c, offset, adjustment, value, back, e, hrun, hc, hrequests⟩ := exists_jumping
  have hwritten := (hall record o hrun).1 ⟨0⟩ c hc
  have hlife : c.lastFrequency = _ := (hrun.chronicle.clock ⟨0⟩ c hc).life.lastFrequency
  rw [hlife, hrequests] at hwritten
  cases hwritten

end ClockDiscipline
