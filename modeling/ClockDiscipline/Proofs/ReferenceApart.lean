/-
  ClockDiscipline/Proofs/ReferenceApart.lean
  ==========================================
  **When a reference clock is corrected against itself.**

  When the daemon starts, the clocks it makes destinations are exactly those that
  a source listens to (`Sourced`).  The reference clock is opened before the
  sources are, under a name of its own, and nobody compares the names: so it is a
  destination exactly if the name of a source leads to its device, and without
  ports every cycle that corrects anything corrects it too
  (`reference_corrected_iff`).
-/
import ClockDiscipline.Proofs.DaemonInRange
import ClockDiscipline.Proofs.SelectedSource
import ClockDiscipline.Proofs.SharedClocks

namespace ClockDiscipline

open ClockDiscipline.Action

variable {W H S ε : Type} {env : Environment W H S ε} {physical : String → UInt32}

theorem Environment.Resolves.recorded (hresolves : env.Resolves physical) :
    env.recorded.Resolves physical := by
  intro name m handle index m' hopen
  simp only [Environment.recorded, Environment.openNumbered, returns_bind] at hopen
  obtain ⟨opened, m₁, hplain, hopen⟩ := hopen
  obtain ⟨next, hplain, -⟩ := returns_beside_iff.mp hplain
  rcases opened with e | ⟨plain, own⟩
  · simp at hopen
  · simp only [returns_bind, returns_perform, returns_pure, Except.ok.injEq, Prod.mk.injEq]
      at hopen
    obtain ⟨number, _, -, ⟨-, rfl⟩, -⟩ := hopen
    exact hresolves name _ _ _ _ hplain

namespace Orchestrator

/-! ### Destinations that sources have made -/

section Starting

variable {o o' : Orchestrator H S} {m m' : Machine W} {id : ClockId}

/-- The destinations are the clocks that sources listen to, and these are there. -/
structure Sourced (o : Orchestrator H S) : Prop where
  live : ∀ s ∈ o.sources, ∃ c, o.clocks.get? s.clock = some c
  destination : ∀ id c, o.clocks.get? id = some c →
    (c.isDestination = true ↔ ∃ s ∈ o.sources, s.clock = id)

namespace Sourced

/-- Clocks may come in that are no destinations. -/
theorem grow (ho : o.Sourced) (hsources : o'.sources = o.sources)
    (hkeeps : o.clocks.Keeps o'.clocks)
    (hflag : ∀ id c', o'.clocks.get? id = some c' →
      (∃ c, o.clocks.get? id = some c ∧ c'.isDestination = c.isDestination) ∨
        o.clocks.get? id = none ∧ c'.isDestination = false) : o'.Sourced where
  live s hs := by
    rw [hsources] at hs
    obtain ⟨c, hc⟩ := ho.live s hs
    obtain ⟨c', hc', -⟩ := hkeeps s.clock c hc
    exact ⟨c', hc'⟩
  destination id c' hc' := by
    rw [hsources]
    rcases hflag id c' hc' with ⟨c, hc, hsame⟩ | ⟨hnone, hfalse⟩
    · rw [hsame]
      exact ho.destination id c hc
    · -- no source listens to a clock that was not there
      constructor
      · intro hset
        rw [hfalse] at hset
        cases hset
      · rintro ⟨s, hs, rfl⟩
        obtain ⟨c, hc⟩ := ho.live s hs
        rw [hnone] at hc
        cases hc

theorem openClock {name : String} {result : Except (SyncError ε) ClockId} (ho : o.Sourced)
    (h : Returns (o.openClock env name) m (result, o') m') :
    o'.Sourced ∧ o'.sources = o.sources ∧ o'.reference = o.reference := by
  have hkeeps := openClock_keeps h
  obtain ⟨opened, clocks, hcreate, ⟨e, -, -, rfl⟩ | ⟨own, -, -, rfl⟩⟩ := openClock_cases h
  · refine ⟨ho.grow rfl hkeeps fun id c hc => ?_, rfl, rfl⟩
    rcases Registry.getOrCreate_clock hcreate hc with hc | ⟨hnone, -, _, _, _, rfl⟩
    · exact .inl ⟨c, hc, rfl⟩
    · exact .inr ⟨hnone, rfl⟩
  · refine ⟨ho.grow rfl hkeeps fun id c' hc' => ?_, rfl, rfl⟩
    rw [noteFreeRunning, modifyClock_get?] at hc'
    obtain ⟨c, hc, rfl⟩ := Option.map_eq_some_iff.mp hc'
    have hflag : (if id = own then { c with freeRunning := o.config.freeRunning }
        else c).isDestination = c.isDestination := by
      split <;> rfl
    rw [hflag]
    rcases Registry.getOrCreate_clock hcreate hc with hc | ⟨hnone, -, _, _, _, rfl⟩
    · exact .inl ⟨c, hc, rfl⟩
    · exact .inr ⟨hnone, rfl⟩

theorem listen {source : EdgeSource} {c : Clock H S} (ho : o.Sourced)
    (hc : o.clocks.get? source.clock = some c) : (o.listen source).Sourced where
  live s hs := by
    have hlive : ∃ c, o.clocks.get? s.clock = some c := by
      rcases List.mem_append.mp hs with hs | hs
      · exact ho.live s hs
      · rw [List.mem_singleton.mp hs]
        exact ⟨c, hc⟩
    obtain ⟨own, hown⟩ := hlive
    obtain ⟨own', hown', -⟩ := listen_keeps o source s.clock own hown
    exact ⟨own', hown'⟩
  destination id c' hc' := by
    simp only [Orchestrator.listen, modifyClock_get?] at hc'
    obtain ⟨own, hown, rfl⟩ := Option.map_eq_some_iff.mp hc'
    by_cases hid : id = source.clock
    · subst hid
      simp [Orchestrator.listen]
    · have hne : ¬source.clock = id := fun heq => hid heq.symm
      simp only [Orchestrator.listen, hid, if_false, ho.destination id own hown, List.mem_append,
        List.mem_singleton, or_and_right, exists_or, exists_eq_left, hne, or_false]

theorem addPort {number : UInt16} {device : String} {state : PortState}
    {result : Except (SyncError ε) ClockId} (ho : o.Sourced)
    (h : Returns (o.addPort env number device state) m (result, o') m') :
    o'.Sourced ∧ o'.sources = o.sources ∧ o'.reference = o.reference := by
  obtain ⟨o₁, m₁, hopen, ⟨e, -, rfl, -⟩ | ⟨id, t, -, -, rfl⟩⟩ := addPort_cases h
  · exact ho.openClock hopen
  · obtain ⟨ho₁, hsources, hreference⟩ := ho.openClock hopen
    exact ⟨⟨ho₁.live, ho₁.destination⟩, hsources, hreference⟩

/-- A source that was added has the name of its device, and there is no other one that
    was not there before. -/
theorem addSource {config : SourceConfig} {own : ClockId} (ho : o.Sourced)
    (h : Returns (o.addSource env config) m (.ok own, o') m') :
    o'.Sourced ∧ o'.reference = o.reference ∧
      ∀ name, (∃ s ∈ o'.sources, s.name = name) ↔
        (∃ s ∈ o.sources, s.name = name) ∨ config.device = name := by
  rcases addSource_cases h with ⟨known, hknown, hname, -, rfl, -⟩ | ⟨-, opened, o₁, m₁, hopen, h⟩
  · refine ⟨ho, rfl, fun name => ⟨.inl, ?_⟩⟩
    rintro (hthere | rfl)
    · exact hthere
    · exact ⟨known, hknown, hname⟩
  · obtain ⟨ho₁, hsources, hreference⟩ := ho.openClock hopen
    rcases h with ⟨e, -, herror, -⟩ | ⟨source, c, ready, m₂, -, hname, hc, -, h⟩
    · cases herror
    · rcases h with ⟨e, -, herror, -⟩ | ⟨-, -, rfl, -⟩
      · cases herror
      · refine ⟨ho₁.listen hc, hreference, fun name => ?_⟩
        simp only [Orchestrator.listen, hsources, List.mem_append, List.mem_singleton,
          or_and_right, exists_or, exists_eq_left, hname]

end Sourced

end Starting

/-! ### Starting, on record -/

section Preparing

variable {o o' : Orchestrator (Numbered H) (Numbered S)} {m m' : Machine (W × Record ε)}
  {id : ClockId} {device : UInt32}

/-- A state of the start: the reference clock has this handle and this device, and the
    clocks are on record. -/
structure Prepared (env : Environment W H S ε) (physical : String → UInt32) (id : ClockId)
    (device : UInt32) (record : Record ε) (o : Orchestrator (Numbered H) (Numbered S)) : Prop where
  reference : o.reference = .phc id
  clock : ∃ c, o.clocks.get? id = some c ∧ c.index = device
  traced : o.Traced physical
  sourced : o.Sourced
  chronicle : Chronicle env record o.clocks

namespace Prepared

theorem next (ho : o.Prepared env physical id device m.world.2)
    (hresolves : env.Resolves physical) (h : Operation env o m o' m')
    (hreference : o'.reference = o.reference) (hsourced : o'.Sourced) :
    o'.Prepared env physical id device m'.world.2 where
  reference := hreference.trans ho.reference
  clock := by
    obtain ⟨c, hc, hdevice⟩ := ho.clock
    obtain ⟨c', hc', hsame⟩ := h.operates.keeps id c hc
    exact ⟨c', hc', (congrArg ClockIdentity.index hsame).trans hdevice⟩
  traced := ho.traced.next hresolves.recorded h.operates
  sourced := hsourced
  chronicle := h.chronicle ho.chronicle

/-- The reference clock is a destination exactly if the name of a source leads to its
    device. -/
theorem destination_iff {c : Clock (Numbered H) (Numbered S)} {record : Record ε}
    (ho : o.Prepared env physical id device record) (hc : o.clocks.get? id = some c) :
    c.index = device ∧
      (c.isDestination = true ↔ ∃ s ∈ o.sources, physical s.name = device) := by
  obtain ⟨own, hown, hdevice⟩ := ho.clock
  obtain rfl : c = own := Option.some.inj (hc.symm.trans hown)
  refine ⟨hdevice, (ho.sourced.destination id c hc).trans ?_⟩
  refine exists_congr fun s => and_congr_right fun hs => ?_
  obtain ⟨c', hc', hindex⟩ := ho.traced.device s hs
  rw [← hindex, ← hdevice]
  constructor
  · rintro rfl
    obtain rfl := Option.some.inj (hc.symm.trans hc')
    rfl
  · intro hsame
    exact ho.traced.clocks.distinct _ _ c' c hc' hc (.inr hsame)

end Prepared

end Preparing

/-! ### Cycles without ports -/

/-- Any number of cycles, and of states that ports are said to be in, one after the
    other and on record.  Between two of them the world may change in any way. -/
inductive Cycling (env : Environment W H S ε) (record₀ : Record ε)
    (o₀ : Orchestrator (Numbered H) (Numbered S)) :
    Record ε → Orchestrator (Numbered H) (Numbered S) → Prop where
  | start : Cycling env record₀ o₀ record₀ o₀
  | portStateChanged {o o' : Orchestrator (Numbered H) (Numbered S)}
      {m m' : Machine (W × Record ε)} {number : UInt16} {state : PortState} {known : Bool} :
      Cycling env record₀ o₀ m.world.2 o →
      Returns (o.portStateChanged number state) m (known, o') m' →
      Cycling env record₀ o₀ m'.world.2 o'
  | runCycle {o o' : Orchestrator (Numbered H) (Numbered S)} {m m' : Machine (W × Record ε)}
      {wait : Waiter W ε} {result : Except (SyncError ε) (List ClockReport)} :
      Cycling env record₀ o₀ m.world.2 o →
      Returns (o.runCycle env.recorded wait.beside) m (result, o') m' →
      Cycling env record₀ o₀ m'.world.2 o'

theorem reconfigure_portless {o o' : Orchestrator H S} {m m' : Machine W}
    {selection : Option Selection} (hports : o.topology = none)
    (h : Returns o.reconfigure m (selection, o') m') : o' = o := by
  rcases reconfigure_cases h with ⟨-, rfl⟩ | ⟨t, _, htopology, -⟩
  · rfl
  · rw [hports] at htopology
    cases htopology

/-- Without ports nothing of the setup is ever changed. -/
theorem Cycling.portless {record₀ record : Record ε}
    {o₀ o : Orchestrator (Numbered H) (Numbered S)} (h : Cycling env record₀ o₀ record o)
    (hports : o₀.topology = none) (ho₀ : Chronicle env record₀ o₀.clocks) :
    o.setup = o₀.setup ∧ Chronicle env record o.clocks := by
  induction h with
  | start => exact ⟨rfl, ho₀⟩
  | portStateChanged _ hchanged ih =>
    refine ⟨?_, (Operation.portStateChanged hchanged).chronicle ih.2⟩
    rcases portStateChanged_cases hchanged with ⟨rfl, -⟩ | ⟨t, t', htopology, -⟩
    · exact ih.1
    · rw [topology_of_setup_eq ih.1, hports] at htopology
      cases htopology
  | runCycle _ hcycle ih =>
    refine ⟨?_, (Operation.runCycle hcycle).chronicle ih.2⟩
    obtain ⟨selection, o₁, m₁, hselect, hsame⟩ := runCycle_setup hcycle
    rw [reconfigure_portless ((topology_of_setup_eq ih.1).trans hports) hselect] at hsame
    exact hsame.trans ih.1

/-- A clock that is no destination is passed over. -/
theorem passesOver_of_not_destination {o : Orchestrator (Numbered H) (Numbered S)}
    {id : ClockId} {c : Clock (Numbered H) (Numbered S)} (hc : o.clocks.get? id = some c)
    (hset : c.isDestination = false) : o.PassesOver env id := by
  intro o' o₁ m m' edge hsame htaken
  have hparts := parts_of_setup_eq ((sourceTimestamp_setup htaken).trans hsame)
  obtain ⟨c₁, hc₁, hpart⟩ := Registry.get?_of_parts_eq hparts hc
  have hflag : c₁.isDestination = c.isDestination := congrArg ClockPart.isDestination hpart
  simp [isDue, hc₁, hflag, hset]

/-- Without ports a cycle that reports on anything reports on the reference clock, if
    that is a destination. -/
theorem reference_reported {o o' : Orchestrator H S} {env : Environment W H S ε}
    {wait : Waiter W ε} {m m' : Machine W} {id : ClockId} {c : Clock H S}
    {reports : List ClockReport} (hports : o.topology = none) (hreference : o.reference = .phc id)
    (hc : o.clocks.get? id = some c) (hset : c.isDestination = true)
    (hcycle : Returns (o.runCycle env wait) m (.ok reports, o') m') (hreports : reports ≠ []) :
    ∃ report ∈ reports, report.clock = id := by
  obtain ⟨_, o₁, m₁, outcome, o₂, m₂, hselect, hpoll, h⟩ := runCycle_cases hcycle
  obtain rfl := reconfigure_portless hports hselect
  rcases h with ⟨-, hnone⟩ | ⟨-, stamped, o₃, m₃, hstamp, ⟨-, hfailed⟩ | ⟨rfl, _, hresult, hsync⟩⟩
  · exact absurd (hnone reports rfl) hreports
  · exact absurd rfl (hfailed reports)
  · cases hresult
    have hsetup₂ := (poll_setup hpoll).trans (setup_flushTimestamps o₁)
    have hsetup₃ := (collectReference_setup hstamp).trans hsetup₂
    -- the edge of the reference has been kept on its clock, so that it is due
    have hdue : o₃.isDue id = true := by
      have hreference₂ := (reference_of_setup_eq hsetup₂).trans hreference
      rcases collectReference_cases hstamp with
        ⟨hnone, -⟩ | ⟨own, c₂, t, edge, _, hown, hc₂, -, -, rfl⟩
      · rw [hreference₂] at hnone
        cases hnone
      · rw [hreference₂] at hown
        cases hown
        obtain ⟨c₁, hc₁, hpart⟩ := Registry.get?_of_parts_eq (parts_of_setup_eq hsetup₂) hc
        obtain rfl := Option.some.inj (hc₁.symm.trans hc₂)
        have hflag : c₁.isDestination = true :=
          (congrArg ClockPart.isDestination hpart).trans hset
        exact isDue_eq_true_iff.mpr ⟨_, Registry.get?_set_self _ hc₂, hflag, edge, rfl⟩
    simp only [synchronize, returns_bind] at hsync
    obtain ⟨⟨edge, o₄⟩, m₄, htaken, hsync⟩ := hsync
    obtain ⟨rfl, -⟩ := sourceTimestamp_free ((topology_of_setup_eq hsetup₃).trans hports) htaken
    cases edge with
    | none =>
      simp only [returns_pure, Prod.mk.injEq] at hsync
      exact absurd hsync.1.1 hreports
    | some t =>
      obtain ⟨own, hown, -⟩ := isDue_eq_true_iff.mp hdue
      have hmem : id ∈ reports.map (·.clock) := by
        rw [synchronizeClocks_clocks (Registry.nodup_ids _) hsync]
        exact List.mem_filter.mpr ⟨Registry.mem_ids.mpr ⟨own, hown⟩, hdue⟩
      exact List.mem_map.mp hmem

/-- Without ports a cycle leaves the reference clock alone if it is no destination, and
    reports on it if it is one and there is anything to report. -/
theorem cycle_portless {o : Orchestrator (Numbered H) (Numbered S)} {m : Machine (W × Record ε)}
    {id : ClockId} {c : Clock (Numbered H) (Numbered S)} (ho : Chronicle env m.world.2 o.clocks)
    (hports : o.topology = none) (hreference : o.reference = .phc id)
    (hc : o.clocks.get? id = some c) (wait : Waiter W ε) :
    (c.isDestination = false → Spares c.handle.number (o.runCycle env.recorded wait.beside) m) ∧
    ∀ reports o' m', Returns (o.runCycle env.recorded wait.beside) m (.ok reports, o') m' →
      reports ≠ [] → ((∃ report ∈ reports, report.clock = id) ↔ c.isDestination = true) := by
  have hselect : Returns o.reconfigure m (none, o) m := by simp [reconfigure, hports]
  constructor
  · intro hset
    exact (passesOver_of_not_destination hc hset).spares_runCycle ho hselect hc
  · intro reports o' m' hcycle hreports
    constructor
    · rintro ⟨report, hreport, hclock⟩
      by_contra hset
      have hpasses : o.PassesOver env id :=
        passesOver_of_not_destination hc (by simpa using hset)
      exact hpasses.not_reported hselect hcycle report hreport hclock
    · intro hset
      exact reference_reported hports hreference hc hset hcycle hreports

end Orchestrator

/-- The name of a source leads to the device of this name. -/
def Config.ListensTo (physical : String → UInt32) (config : Config) (name : String) : Prop :=
  ∃ source ∈ config.sources, physical source.device = physical name

namespace Daemon

open Phc Orchestrator

variable {F : Type} {env : Environment W F S PhcError} {id : ClockId} {device : UInt32}
  {m m' : Machine (W × Record PhcError)} {o o' : Orchestrator (Numbered F) (Numbered S)}

/-- The reference clock is the first one that is opened. -/
theorem prepared_of_openReference (config : SyncConfig) {name : String}
    {clocks : Registry (Numbered F) (Numbered S)} {reference : Reference}
    (hresolves : env.Resolves physical) (hrecord : m.world.2 = [])
    (h : Returns (openReference env.recorded (.phc name)) m (.ok (clocks, reference)) m') :
    ∃ id, (start config clocks reference).Prepared env physical id (physical name)
      m'.world.2 := by
  simp only [openReference, returns_bind] at h
  obtain ⟨⟨result, opened⟩, m₁, hcreate, h⟩ := h
  cases result with
  | error e => simp at h
  | ok id =>
    simp only [returns_bind, returns_log, returns_pure, Except.ok.injEq, Prod.mk.injEq] at h
    obtain ⟨_, _, rfl, ⟨rfl, rfl⟩, rfl⟩ := h
    have hresolved := Registry.resolved_empty.getOrCreate hresolves.recorded hcreate
    have hempty : Chronicle env m.world.2 (.empty : Registry (Numbered F) (Numbered S)) := by
      rw [hrecord]
      exact .empty
    obtain ⟨c, hc, hanswers⟩ := Registry.getOrCreate_answers hcreate
    refine ⟨id, rfl, ⟨c, hc, ?_⟩, traced_start config _ hresolved, ⟨?_, ?_⟩, ?_⟩
    · exact hanswers.index hresolves.recorded (hresolved.index id c hc)
    · intro s hs
      cases hs
    · intro own c' hc'
      rcases Registry.getOrCreate_clock hcreate hc' with hc' | ⟨-, -, _, _, _, rfl⟩
      · simp [Registry.empty, Registry.get?] at hc'
      · simp [Clock.opened, start]
    · have hopened := getOrCreate_chronicle hempty hcreate
      exact hopened

theorem addSources_prepared {sources : List SourceConfig} (hresolves : env.Resolves physical)
    (ho : o.Prepared env physical id device m.world.2)
    (h : Returns (addSources env.recorded o sources) m (.ok o') m') :
    o'.Prepared env physical id device m'.world.2 ∧ o'.topology = o.topology ∧
      ∀ name, (∃ s ∈ o'.sources, s.name = name) ↔
        (∃ s ∈ o.sources, s.name = name) ∨ ∃ source ∈ sources, source.device = name := by
  induction sources generalizing o m with
  | nil =>
    simp only [addSources, returns_pure, Except.ok.injEq] at h
    obtain ⟨rfl, rfl⟩ := h
    exact ⟨ho, rfl, by simp⟩
  | cons source sources ih =>
    simp only [addSources, returns_bind] at h
    obtain ⟨⟨result, o₁⟩, m₁, hadd, h⟩ := h
    cases result with
    | error e => simp at h
    | ok own =>
      obtain ⟨hsourced, hreference, hnames⟩ := ho.sourced.addSource hadd
      have ho₁ := ho.next hresolves (.addSource hadd) hreference hsourced
      obtain ⟨ho', htopology, hrest⟩ := ih ho₁ h
      refine ⟨ho', htopology.trans (addSource_keeps hadd).1.topology, fun name => ?_⟩
      rw [hrest, hnames, or_assoc, List.exists_mem_cons_iff]

theorem addPorts_prepared {ports : List PortConfig} (hresolves : env.Resolves physical)
    (ho : o.Prepared env physical id device m.world.2)
    (h : Returns (addPorts env.recorded o ports) m (.ok o') m') :
    o'.Prepared env physical id device m'.world.2 ∧ o'.sources = o.sources ∧
      (ports = [] → o' = o) := by
  induction ports generalizing o m with
  | nil =>
    simp only [addPorts, returns_pure, Except.ok.injEq] at h
    obtain ⟨rfl, rfl⟩ := h
    exact ⟨ho, rfl, fun _ => rfl⟩
  | cons port ports ih =>
    simp only [addPorts, returns_bind] at h
    obtain ⟨⟨result, o₁⟩, m₁, hadd, h⟩ := h
    cases result with
    | error e => simp at h
    | ok own =>
      obtain ⟨hsourced, hsources, hreference⟩ := ho.sourced.addPort hadd
      have ho₁ := ho.next hresolves (.addPort hadd) hreference hsourced
      obtain ⟨ho', hrest, -⟩ := ih ho₁ h
      exact ⟨ho', hrest.trans hsources, fun hnil => by cases hnil⟩

theorem assemble_prepared {config : Config} {name : String} (hresolves : env.Resolves physical)
    (hreference : config.reference = .phc name) (hrecord : m.world.2 = [])
    (h : Returns (assemble env.recorded config) m (.ok o) m') :
    ∃ id, o.Prepared env physical id (physical name) m'.world.2 ∧
      (∀ device, (∃ s ∈ o.sources, s.name = device) ↔
        ∃ source ∈ config.sources, source.device = device) ∧
      (config.ports = [] → o.topology = none) := by
  simp only [assemble, hreference, returns_bind] at h
  obtain ⟨opened, m₁, hopen, h⟩ := h
  rcases opened with e | ⟨clocks, reference⟩
  · simp at h
  · simp only [returns_bind] at h
    obtain ⟨added, m₂, hadd, h⟩ := h
    obtain ⟨id, ho₁⟩ := prepared_of_openReference config.sync hresolves hrecord hopen
    cases added with
    | error e => simp at h
    | ok o₂ =>
      simp only [returns_bind] at h
      obtain ⟨ported, m₃, hport, h⟩ := h
      obtain ⟨ho₂, htopology, hnames⟩ := addSources_prepared hresolves ho₁ hadd
      cases ported with
      | error e => simp at h
      | ok o₃ =>
        simp only [returns_bind, returns_pure] at h
        obtain ⟨armed, m₄, harm, hok, rfl⟩ := h
        obtain ⟨ho₃, hsources, hnone⟩ := addPorts_prepared hresolves ho₂ hport
        cases armed with
        | error e => cases hok
        | ok =>
          cases hok
          rw [← quiet_armSources o₃ _ _ _ _ harm] at ho₃
          refine ⟨id, ho₃, fun device => ?_, fun hports => ?_⟩
          · rw [hsources, hnames]
            simp [start]
          · rw [hnone hports, htopology]
            rfl

/-- Start the daemon with a hardware clock as the reference, where every name leads to
    one device.  The reference clock is a destination exactly if the name of a source
    leads to its device, whatever the ports are.

    Without ports this stays so after any number of cycles.  If no source listens to the
    reference clock, a cycle asks nothing of its device and its servo but to reset the
    servo; and a cycle that reports on any clock reports on the reference clock exactly
    if a source listens to it. -/
theorem reference_corrected_iff {config : Config} {name : String}
    (hresolves : env.Resolves physical) (hreference : config.reference = .phc name)
    (hrecord : m.world.2 = []) (h : Returns (assemble env.recorded config) m (.ok o) m') :
    ∃ id c, o.reference = .phc id ∧ o.clocks.get? id = some c ∧ c.index = physical name ∧
      (c.isDestination = true ↔ config.ListensTo physical name) ∧
      (config.ports = [] → ∀ record o₁, Cycling env m'.world.2 o record o₁ →
        ∃ c₁, o₁.clocks.get? id = some c₁ ∧ c₁.handle = c.handle ∧
          c₁.servo.number = c₁.handle.number ∧
          (c₁.isDestination = true ↔ config.ListensTo physical name) ∧
          ∀ (wait : Waiter W PhcError) (m₁ : Machine (W × Record PhcError)),
            m₁.world.2 = record →
            (¬config.ListensTo physical name →
              Spares c₁.handle.number (o₁.runCycle env.recorded wait.beside) m₁) ∧
            ∀ reports o₂ m₂,
              Returns (o₁.runCycle env.recorded wait.beside) m₁ (.ok reports, o₂) m₂ →
              reports ≠ [] →
              ((∃ report ∈ reports, report.clock = id) ↔ config.ListensTo physical name)) := by
  obtain ⟨id, ho, hnames, hports⟩ := assemble_prepared hresolves hreference hrecord h
  obtain ⟨c, hc, -⟩ := ho.clock
  obtain ⟨hindex, hdestination⟩ := ho.destination_iff hc
  have hlistens : c.isDestination = true ↔ config.ListensTo physical name := by
    rw [hdestination]
    constructor
    · rintro ⟨s, hs, hdevice⟩
      obtain ⟨source, hsource, hname⟩ := (hnames s.name).mp ⟨s, hs, rfl⟩
      exact ⟨source, hsource, by rw [hname, hdevice]⟩
    · rintro ⟨source, hsource, hdevice⟩
      obtain ⟨s, hs, hname⟩ := (hnames source.device).mpr ⟨source, hsource, rfl⟩
      exact ⟨s, hs, by rw [hname, hdevice]⟩
  refine ⟨id, c, ho.reference, hc, hindex, hlistens, fun hnone record o₁ hcycling => ?_⟩
  obtain ⟨hsetup, ho₁⟩ := hcycling.portless (hports hnone) ho.chronicle
  obtain ⟨c₁, hc₁, hpart⟩ := Registry.get?_of_parts_eq (parts_of_setup_eq hsetup) hc
  have hflag : c₁.isDestination = c.isDestination := congrArg ClockPart.isDestination hpart
  rw [← hflag] at hlistens
  refine ⟨c₁, hc₁, congrArg ClockPart.handle hpart, (ho₁.clock id c₁ hc₁).servo, hlistens, ?_⟩
  rintro wait m₁ rfl
  rw [← hlistens, Bool.not_eq_true]
  exact cycle_portless ho₁ ((topology_of_setup_eq hsetup).trans (hports hnone))
    ((reference_of_setup_eq hsetup).trans ho.reference) hc₁ wait

/-! ### Another name of the reference clock -/

/-- The first clock is the reference, and one source listens to the clock of this name. -/
def disciplined (source : String) : Config where
  reference := .phc "/dev/ptp0"
  sources := [{ device := source }]

/-- The host on which time stands still, with one more clock.  All other paths lead to
    the first one. -/
def twoClocks : Host Unit Unit :=
  { readable with
    clocks := { Still.clocks with
      realPath := fun path => return .ok (if path = "/dev/ptp1" then path else "/dev/ptp0") } }

def clockNumber (path : String) : UInt32 := if path = "/dev/ptp1" then 1 else 0

theorem locate_twoClocks {name : String} {m m' : Machine Unit} {located : Located}
    (h : Returns (locate twoClocks.clocks name) m (.ok located) m') :
    located.index = clockNumber name := by
  unfold locate at h
  split at h
  · unfold locatePath Kernel.withPath at h
    split at h
    · simp at h
    · have hfirst : indexOfPath? "/dev/ptp0" = some 0 := by decide
      have hsecond : indexOfPath? "/dev/ptp1" = some 1 := by decide
      simp only [twoClocks, pure_bind, Except.mapError] at h
      by_cases hname : name = "/dev/ptp1"
      · rw [if_pos hname, hname] at h
        simp only [hsecond, returns_pure, Except.ok.injEq] at h
        rw [hname, h.1]
        rfl
      · rw [if_neg hname] at h
        simp only [hfirst, returns_pure, Except.ok.injEq] at h
        rw [clockNumber, if_neg hname, h.1]
  · simp [locateInterface, twoClocks, Still.clocks] at h

theorem twoClocks_resolves (servo : ServoConfig) :
    (twoClocks.environment servo).Resolves clockNumber := by
  intro name m handle index m' h
  have hopen : Returns (Phc.openClock twoClocks.clocks name) m (.ok (handle, index)) m' := h
  simp only [Phc.openClock, returns_bind] at hopen
  obtain ⟨found, m₁, hlocate, hopen⟩ := hopen
  cases found with
  | error e => simp at hopen
  | ok located =>
    rw [← locate_twoClocks hlocate]
    simp only [returns_bind, returns_pure] at hopen
    obtain ⟨opened, m₂, -, hopened, -⟩ := hopen
    cases opened with
    | error e => cases hopened
    | ok file =>
      cases hopened
      rfl

/-- The orchestrator that is put together on this host, and the machine after that. -/
def assembledOnRecord (config : Config) :
    Option (Orchestrator (Numbered Unit) (Numbered PiServo) ×
      Machine (Unit × Record PhcError)) :=
  match (assemble (twoClocks.environment config.servo).recorded config).outcome
    ⟨((), []), #[]⟩ with
  | (.ok (.ok o), m) => some (o, m)
  | _ => none

theorem returns_of_assembledOnRecord {config : Config}
    (h : (assembledOnRecord config).isSome = true) :
    ∃ o m, Returns (assemble (twoClocks.environment config.servo).recorded config)
      ⟨((), []), #[]⟩ (.ok o) m := by
  unfold assembledOnRecord at h
  split at h
  · next o m hrun => exact ⟨o, m, hrun⟩
  · cases h

/-- The reference clock is corrected through a link to it, and not through the other
    clock. -/
theorem reference_corrected_iff_twoClocks :
    (∃ o m id c, Returns (assemble (twoClocks.environment {}).recorded (disciplined "/dev/pps"))
        ⟨((), []), #[]⟩ (.ok o) m ∧
      o.reference = .phc id ∧ o.clocks.get? id = some c ∧ c.isDestination = true) ∧
    ∃ o m id c, Returns (assemble (twoClocks.environment {}).recorded (disciplined "/dev/ptp1"))
        ⟨((), []), #[]⟩ (.ok o) m ∧
      o.reference = .phc id ∧ o.clocks.get? id = some c ∧ c.isDestination = false := by
  have hlink : (assembledOnRecord (disciplined "/dev/pps")).isSome = true := by decide +kernel
  have hother : (assembledOnRecord (disciplined "/dev/ptp1")).isSome = true := by decide +kernel
  constructor
  · obtain ⟨o, m, h⟩ := returns_of_assembledOnRecord hlink
    obtain ⟨id, c, hreference, hc, -, hlistens, -⟩ :=
      reference_corrected_iff (twoClocks_resolves _) rfl rfl h
    exact ⟨o, m, id, c, h, hreference, hc, hlistens.mpr ⟨_, List.mem_singleton_self _, rfl⟩⟩
  · obtain ⟨o, m, h⟩ := returns_of_assembledOnRecord hother
    obtain ⟨id, c, hreference, hc, -, hlistens, -⟩ :=
      reference_corrected_iff (twoClocks_resolves _) rfl rfl h
    refine ⟨o, m, id, c, h, hreference, hc, ?_⟩
    rw [Bool.eq_false_iff, ne_eq, hlistens]
    rintro ⟨source, hsource, hdevice⟩
    rw [List.mem_singleton.mp hsource] at hdevice
    cases hdevice

/-- Whether the reference is a clock that is a destination. -/
def correctsReference (config : Config) : Bool :=
  match assembled config with
  | none => false
  | some (o, _) =>
    match o.reference with
    | .generic _ => false
    | .phc id => (o.clocks.get? id).any (·.isDestination)

/-- With settings that pass the check, the reference clock can be a destination. -/
theorem not_forall_reference_apart : ¬∀ (host : Host Unit Unit) (config : Config)
    (name : String), config.isSound = true → config.reference = .phc name →
    ∀ o m m', Returns (assemble (host.environment config.servo) config) m (.ok o) m' →
      ∀ id c, o.reference = .phc id → o.clocks.get? id = some c → c.isDestination = false := by
  intro hapart
  have hsound : (disciplined "/dev/pps").isSound = true := by decide +kernel
  have hcorrects : correctsReference (disciplined "/dev/pps") = true := by decide +kernel
  unfold correctsReference at hcorrects
  split at hcorrects
  · cases hcorrects
  · next o m hassembled =>
    split at hcorrects
    · cases hcorrects
    · next id hreference =>
      obtain ⟨c, hc, hset⟩ := (Option.any_eq_true _ _).mp hcorrects
      have hreturns := returns_of_assembled hassembled
      have hfalse := hapart readable _ _ hsound rfl o _ m hreturns id c hreference hc
      rw [hset] at hfalse
      cases hfalse

end Daemon

end ClockDiscipline
