/-
  ClockDiscipline/Proofs/Events.lean
  ==================================
  **Handling one event of a source.**

  An event that is accepted yields a `Sample`: what was latched, the reading
  of the reference that it was paired with, and what pairing made of the two.
  Its local time goes to the clock of its source.  Every other event leaves
  the orchestrator as it is (`handleEvent_cases`).  Neither touches the setup,
  that is, what stays the same until the source is selected anew.
-/
import ClockDiscipline.Proofs.Action
import ClockDiscipline.Proofs.Registry
import ClockDiscipline.Sync.Cycle

namespace ClockDiscipline

open ClockDiscipline.Action

variable {W H S ε : Type}

/-! ### The setup of an orchestrator -/

/-- What of an orchestrator stays the same for a whole cycle, once the source
    has been selected. -/
structure Setup (H : Type) where
  config : SyncConfig
  parts : List (Option (ClockPart H))
  reference : Reference
  sources : List EdgeSource
  topology : Option Topology
  sourceClock : Option ClockId

namespace Orchestrator

def setup (o : Orchestrator H S) : Setup H where
  config := o.config
  parts := o.clocks.parts
  reference := o.reference
  sources := o.sources
  topology := o.topology
  sourceClock := o.sourceClock

section SameSetup

variable {o o' : Orchestrator H S} (h : o'.setup = o.setup)
include h

theorem config_of_setup_eq : o'.config = o.config := congrArg Setup.config h

theorem parts_of_setup_eq : o'.clocks.parts = o.clocks.parts := congrArg Setup.parts h

theorem reference_of_setup_eq : o'.reference = o.reference := congrArg Setup.reference h

theorem sources_of_setup_eq : o'.sources = o.sources := congrArg Setup.sources h

theorem topology_of_setup_eq : o'.topology = o.topology := congrArg Setup.topology h

theorem sourceClock_of_setup_eq : o'.sourceClock = o.sourceClock := congrArg Setup.sourceClock h

end SameSetup

/-- Replacing a clock by one in the same part keeps the setup. -/
theorem setup_set {o : Orchestrator H S} {id : ClockId} {old c : Clock H S}
    (hold : o.clocks.get? id = some old) (h : c.part = old.part) :
    ({ o with clocks := o.clocks.set id c } : Orchestrator H S).setup = o.setup := by
  simp only [setup, Registry.parts_set hold h]

/-- Changing nothing but the clocks, and these not in their parts, keeps the
    setup. -/
theorem setup_clocks {o : Orchestrator H S} {clocks : Registry H S}
    (h : clocks.parts = o.clocks.parts) :
    ({ o with clocks := clocks } : Orchestrator H S).setup = o.setup := by
  simp only [setup, h]

end Orchestrator

/-! ### Samples -/

/-- The source of a configuration that names nothing but the device. -/
def EdgeSource.usual (name : String) (clock : ClockId) : EdgeSource where
  name := name
  clock := clock
  pinIndex := 0
  channel := 0
  polarity := .rising
  correction := .zero
  window := ⟨250000000, 750000000⟩

theorem EdgeSource.ofConfig_device (name : String) (clock : ClockId) :
    EdgeSource.ofConfig { device := name } clock = .ok (.usual name clock) := by
  have hhalf : Checked.quot 500000000 2 = .ok 250000000 := Checked.word_eq_ok_iff.mpr (by decide)
  have hrest : Checked.sub 1000000000 250000000 = .ok 750000000 :=
    Checked.word_eq_ok_iff.mpr (by decide)
  simp only [ofConfig, IgnoreWindow.ofPulseWidth, hhalf, hrest, bind, Except.bind, pure,
    Except.pure]
  rfl

/-- An accepted event: what its source latched, the reading of the reference
    at that time, and what pairing made of them. -/
structure Sample where
  source : EdgeSource
  event : EdgeEvent
  reference : Instant
  offset : Duration
  localTime : Instant

namespace Sample

/-- The sample is what pairing its event with its reading gives. -/
def Paired (s : Sample) : Prop :=
  s.event.channel = s.source.channel ∧
    pairEvent s.event.time s.source.correction s.reference s.source.polarity s.source.window =
      .ok (.sample s.offset s.localTime)

/-- The last of the samples of a clock. -/
def last? (samples : List Sample) (id : ClockId) : Option Sample :=
  (samples.filter fun s => s.source.clock == id).getLast?

@[simp] theorem last?_nil (id : ClockId) : last? [] id = none := rfl

theorem last?_cons (s : Sample) (samples : List Sample) (id : ClockId) :
    last? (s :: samples) id =
      (last? samples id).or (if s.source.clock = id then some s else none) := by
  by_cases h : s.source.clock = id
  · simp only [last?, List.filter_cons, h, beq_self_eq_true, if_true, List.getLast?_cons]
    cases (samples.filter fun s => s.source.clock == id).getLast? <;> rfl
  · have hb : (s.source.clock == id) = false := by simpa using h
    simp [last?, hb, h]

theorem last?_mem {samples : List Sample} {id : ClockId} {s : Sample}
    (h : last? samples id = some s) : s ∈ samples ∧ s.source.clock = id := by
  have hmem := List.mem_of_getLast? h
  simpa using hmem

end Sample

namespace Orchestrator

/-- The orchestrator with the local time of a sample on the clock it belongs
    to. -/
def keeping (o : Orchestrator H S) (s : Sample) (c : Clock H S) : Orchestrator H S :=
  { o with clocks := o.clocks.set s.source.clock { c with timestamp := some s.localTime } }

theorem setup_keeping {o : Orchestrator H S} {s : Sample} {c : Clock H S}
    (hc : o.clocks.get? s.source.clock = some c) : (o.keeping s c).setup = o.setup :=
  setup_set hc rfl

/-- From `m` on, the source of the sample had its event taken and the
    reference was read, and the two were paired and kept. -/
def Accepts (env : Environment W H S ε) (o : Orchestrator H S) (s : Sample) (c : Clock H S)
    (m m' : Machine W) : Prop :=
  o.clocks.get? s.source.clock = some c ∧ s.Paired ∧
    ∃ m₁ m₂, Returns (s.source.takeEvent env c.handle) m (.ok s.event) m₁ ∧
      Returns (o.reference.now env o.clocks) m₁ (.ok s.reference) m₂ ∧
      m' = noted m₂ .debug s!"adding timestamp {s.localTime.text} to clock {c.name}"

/-! ### One event -/

theorem takeEvent_channel {env : Environment W H S ε} {source : EdgeSource} {handle : H}
    {event : EdgeEvent} {m m' : Machine W}
    (h : Returns (source.takeEvent env handle) m (.ok event) m') :
    event.channel = source.channel := by
  simp only [EdgeSource.takeEvent, returns_bind] at h
  obtain ⟨next, m₁, -, h⟩ := h
  cases next with
  | error e => simp at h
  | ok next =>
    cases next with
    | none => simp at h
    | some event' =>
      dsimp only at h
      split at h
      · next hchannel =>
        simp only [returns_pure, Except.ok.injEq] at h
        rw [h.1]
        exact hchannel
      · simp at h

theorem pair_returns {source : EdgeSource} {event : EdgeEvent} {reference : Instant}
    {pairing : Pairing} {m m' : Machine W}
    (h : Returns (source.pair event reference) m pairing m') :
    pairEvent event.time source.correction reference source.polarity source.window = .ok pairing ∧
      (pairing ≠ .ambiguous → m' = m) := by
  simp only [EdgeSource.pair, returns_bind, returns_checked] at h
  obtain ⟨pairing', m₁, ⟨hpair, rfl⟩, h⟩ := h
  by_cases hamb : pairing' = .ambiguous
  · simp only [hamb, if_true, returns_bind, returns_log, returns_pure] at h
    obtain ⟨_, _, -, rfl, -⟩ := h
    exact ⟨by rw [hpair, hamb], fun hne => absurd rfl hne⟩
  · simp only [hamb, if_false, returns_pure] at h
    obtain ⟨rfl, rfl⟩ := h
    exact ⟨hpair, fun _ => rfl⟩

/-- What handling an event comes to: a sample that is kept, or nothing. -/
theorem handleEvent_cases {env : Environment W H S ε} {o o' : Orchestrator H S}
    {source : EdgeSource} {result : Except (EventError ε) Pairing} {m m' : Machine W}
    (h : Returns (o.handleEvent env source) m (result, o') m') :
    (∃ s c, s.source = source ∧ o.Accepts env s c m m' ∧
      result = .ok (.sample s.offset s.localTime) ∧ o' = o.keeping s c) ∨
    (o' = o ∧ ∀ offset localTime, result ≠ .ok (.sample offset localTime)) := by
  unfold handleEvent at h
  cases hc : o.clocks.get? source.clock with
  | none =>
    simp only [hc, returns_pure, Prod.mk.injEq] at h
    exact .inr ⟨h.1.2, by simp [h.1.1]⟩
  | some c =>
    simp only [hc, returns_bind] at h
    obtain ⟨taken, m₁, htake, h⟩ := h
    cases taken with
    | error e =>
      simp only [returns_pure, Prod.mk.injEq] at h
      exact .inr ⟨h.1.2, by simp [h.1.1]⟩
    | ok event =>
      simp only [returns_bind] at h
      obtain ⟨reading, m₂, hnow, h⟩ := h
      cases reading with
      | error e =>
        simp only [returns_bind, returns_pure, Prod.mk.injEq] at h
        obtain ⟨_, _, -, ⟨hresult, ho⟩, -⟩ := h
        exact .inr ⟨ho, by simp [hresult]⟩
      | ok reference =>
        simp only [pairAndKeep, returns_bind, returns_pure] at h
        obtain ⟨⟨pairing', o₁⟩, m₃, ⟨pairing, m₄, hreturns, h⟩, hres, rfl⟩ := h
        obtain ⟨hpair, hquiet⟩ := pair_returns hreturns
        simp only [Prod.mk.injEq] at hres
        obtain ⟨rfl, rfl⟩ := hres
        cases pairing with
        | ambiguous =>
          simp only [returns_pure, Prod.mk.injEq] at h
          exact .inr ⟨h.1.2, by simp [h.1.1]⟩
        | sample offset localTime =>
          obtain rfl := hquiet (by simp)
          simp only [hc, Clock.addTimestamp, returns_bind, returns_log, returns_pure,
            Prod.mk.injEq] at h
          obtain ⟨_, _, ⟨_, _, rfl, rfl, rfl⟩, ⟨rfl, rfl⟩, rfl⟩ := h
          refine .inl ⟨⟨source, event, reference, offset, localTime⟩, c, rfl, ?_, rfl, rfl⟩
          exact ⟨hc, ⟨takeEvent_channel htake, hpair⟩, m₁, _, htake, hnow, rfl⟩

theorem handleEvent_setup {env : Environment W H S ε} {o o' : Orchestrator H S}
    {source : EdgeSource} {result : Except (EventError ε) Pairing} {m m' : Machine W}
    (h : Returns (o.handleEvent env source) m (result, o') m') : o'.setup = o.setup := by
  rcases handleEvent_cases h with ⟨s, c, -, ⟨hc, -⟩, -, rfl⟩ | ⟨rfl, -⟩
  · exact setup_keeping hc
  · rfl

end Orchestrator

end ClockDiscipline
