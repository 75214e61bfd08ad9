/-
  ClockDiscipline/Proofs/Observing.lean
  =====================================
  **Where offsets are only measured, every clock that could be corrected is
  marked.**

  A source and a port both get their clock from `Orchestrator.openClock`, which
  marks it, and a clock that was opened before the orchestrator was made is no
  destination until one of them asks for it.  So no servo is fed, none leaves
  its first state, and there is none to be reset either.  `Observed` says so of
  one orchestrator, and every operation keeps it (`Operates.observed`).
-/
import ClockDiscipline.Proofs.Operations

namespace ClockDiscipline

open ClockDiscipline.Action

variable {W H S ε α : Type} {env : Environment W H S ε}

/-! ### Marked clocks -/

theorem exists_state_of_destination {policy : FallbackPolicy}
    {clocks : List (ClockId × PortState)} {id : ClockId}
    (h : id ∈ (select policy clocks).1.destinations?.getD []) : ∃ state, (id, state) ∈ clocks := by
  cases hdest : (select policy clocks).1.destinations? with
  | none =>
    rw [hdest] at h
    cases h
  | some destinations =>
    rw [hdest, Option.getD_some] at h
    have hfollowing : id ∈ inState clocks PortState.isFollowing := by
      rcases select_cases rfl hdest with ⟨_, -, -, -, rfl⟩ | ⟨_, -, -, -, rfl⟩
      · exact h
      · exact List.dropLast_subset _ h
    obtain ⟨state, hstate, -⟩ := mem_inState.mp hfollowing
    exact ⟨state, hstate⟩

namespace Orchestrator

variable {o o' : Orchestrator H S} {m m' : Machine W} {id : ClockId}

/-- Offsets are measured and that is all: no servo has been fed, and every clock
    that is a destination, or could become one, is marked. -/
structure Observed (o : Orchestrator H S) : Prop where
  free : o.config.freeRunning = true
  unfed : ∀ id c, o.clocks.get? id = some c → c.servoState = .unlocked
  destination : ∀ id c, o.clocks.get? id = some c → c.isDestination = true → c.freeRunning = true
  port : ∀ p ∈ o.knownPorts.ports, ∀ c, o.clocks.get? p.clock = some c → c.freeRunning = true

namespace Observed

/-- Clocks that are as they were, or have been marked, keep it so. -/
theorem mono (ho : o.Observed) (hconfig : o'.config = o.config)
    (hports : o'.knownPorts.ports = o.knownPorts.ports)
    (hclocks : ∀ id c, o'.clocks.get? id = some c → o.clocks.get? id = some c ∨
      c.servoState = .unlocked ∧ c.freeRunning = true) : o'.Observed where
  free := by rw [hconfig, ho.free]
  unfed id c hc := by
    rcases hclocks id c hc with hc | ⟨hstate, -⟩
    · exact ho.unfed id c hc
    · exact hstate
  destination id c hc hset := by
    rcases hclocks id c hc with hc | ⟨-, hfree⟩
    · exact ho.destination id c hc hset
    · exact hfree
  port p hp c hc := by
    rw [hports] at hp
    rcases hclocks p.clock c hc with hc | ⟨-, hfree⟩
    · exact ho.port p hp c hc
    · exact hfree

/-- A phase of a cycle keeps it so as long as it feeds no servo. -/
theorem phase (ho : o.Observed) (hsetup : o'.setup = o.setup)
    (hunfed : ∀ id c', o'.clocks.get? id = some c' →
      ∃ c, o.clocks.get? id = some c ∧ c'.servoState = c.servoState) : o'.Observed := by
  have hpart : ∀ id c', o'.clocks.get? id = some c' →
      ∃ c, o.clocks.get? id = some c ∧ c'.part = c.part := by
    intro id c' hc'
    obtain ⟨c, hc, hpart⟩ := Registry.get?_of_parts_eq (parts_of_setup_eq hsetup).symm hc'
    exact ⟨c, hc, hpart.symm⟩
  refine ⟨by rw [config_of_setup_eq hsetup, ho.free], ?_, ?_, ?_⟩
  · intro id c' hc'
    obtain ⟨c, hc, hstate⟩ := hunfed id c' hc'
    rw [hstate, ho.unfed id c hc]
  · intro id c' hc' hset
    obtain ⟨c, hc, hsame⟩ := hpart id c' hc'
    have hfree : c'.freeRunning = c.freeRunning := congrArg ClockPart.freeRunning hsame
    rw [hfree]
    exact ho.destination id c hc ((congrArg ClockPart.isDestination hsame).symm.trans hset)
  · intro p hp c' hc'
    rw [(undisturbed_of_setup_eq hsetup).knownPorts] at hp
    obtain ⟨c, hc, hsame⟩ := hpart p.clock c' hc'
    exact (congrArg ClockPart.freeRunning hsame).trans (ho.port p hp c hc)

/-! ### Opening, adding and selecting -/

theorem openClock {name : String} {result : Except (SyncError ε) ClockId} (ho : o.Observed)
    (h : Returns (o.openClock env name) m (result, o') m') :
    o'.Observed ∧ ∀ id c, result = .ok id → o'.clocks.get? id = some c → c.freeRunning = true := by
  obtain ⟨opened, clocks, hcreate, ⟨e, rfl, rfl, rfl⟩ | ⟨id, rfl, rfl, rfl⟩⟩ := openClock_cases h
  · refine ⟨ho.mono rfl rfl fun id c hc => ?_, fun id c hid => by cases hid⟩
    rcases Registry.getOrCreate_clock hcreate hc with hc | ⟨-, hid, -⟩
    · exact .inl hc
    · cases hid
  · have hmarked : ∀ other c, (({ o with clocks := clocks } : Orchestrator H S).noteFreeRunning
        id).clocks.get? other = some c → ∃ c₀, clocks.get? other = some c₀ ∧
          c = if other = id then { c₀ with freeRunning := true } else c₀ := by
      intro other c hc
      rw [noteFreeRunning, modifyClock_get?] at hc
      obtain ⟨c₀, hc₀, rfl⟩ := Option.map_eq_some_iff.mp hc
      exact ⟨c₀, hc₀, by rw [← ho.free]⟩
    constructor
    · refine ho.mono rfl rfl fun other c hc => ?_
      obtain ⟨c₀, hc₀, rfl⟩ := hmarked other c hc
      by_cases hother : other = id
      · rw [if_pos hother]
        refine .inr ⟨?_, rfl⟩
        rcases Registry.getOrCreate_clock hcreate hc₀ with hc₀ | ⟨-, -, _, _, _, rfl⟩
        · exact ho.unfed other c₀ hc₀
        · rfl
      · rw [if_neg hother]
        rcases Registry.getOrCreate_clock hcreate hc₀ with hc₀ | ⟨-, hid, -⟩
        · exact .inl hc₀
        · exact absurd (Except.ok.inj hid).symm hother
    · intro other c hid hc
      obtain ⟨c₀, -, rfl⟩ := hmarked other c hc
      rw [if_pos (Except.ok.inj hid).symm]

theorem addSource {config : SourceConfig} {result : Except (SyncError ε) ClockId}
    (ho : o.Observed) (h : Returns (o.addSource env config) m (result, o') m') : o'.Observed := by
  rcases addSource_cases h with ⟨_, -, -, -, rfl, -⟩ | ⟨-, opened, o₁, m₁, hopen, hrest⟩
  · exact ho
  · obtain ⟨hopened, hmarked⟩ := ho.openClock hopen
    rcases hrest with ⟨e, -, -, rfl, -⟩ | ⟨source, c, ready, m₂, rfl, -, -, -, hrest⟩
    · exact hopened
    · rcases hrest with ⟨e, -, -, habandon⟩ | ⟨-, -, rfl, -⟩
      · obtain ⟨-, rfl | ⟨-, taken, clocks, hdestroy, rfl⟩⟩ := abandonSource_cases habandon
        · exact hopened
        · refine hopened.mono rfl rfl fun id c hc => .inl ?_
          obtain ⟨-, -, hget⟩ := Registry.destroy_cases hdestroy
          rw [hget] at hc
          split at hc
          · cases hc
          · exact hc
      -- the clock of the source becomes a destination, and has just been opened
      · refine hopened.mono rfl rfl fun id c hc => ?_
        simp only [listen, modifyClock_get?] at hc
        obtain ⟨c₀, hc₀, rfl⟩ := Option.map_eq_some_iff.mp hc
        split
        · next hid =>
          subst hid
          exact .inr ⟨hopened.unfed _ c₀ hc₀, hmarked _ c₀ rfl hc₀⟩
        · exact .inl hc₀

theorem addPort {number : UInt16} {device : String} {state : PortState}
    {result : Except (SyncError ε) ClockId} (ho : o.Observed)
    (h : Returns (o.addPort env number device state) m (result, o') m') : o'.Observed := by
  obtain ⟨o₁, m₁, hopen, hrest⟩ := addPort_cases h
  obtain ⟨hopened, hmarked⟩ := ho.openClock hopen
  rcases hrest with ⟨e, -, rfl, -⟩ | ⟨id, t, rfl, hadd, rfl⟩
  · exact hopened
  · refine ⟨hopened.free, hopened.unfed, hopened.destination, fun p hp c hc => ?_⟩
    rcases Topology.addPort_clock hadd p hp with hid | ⟨q, hq, hclock⟩
    · exact hmarked _ c rfl (hid ▸ hc)
    · exact hopened.port q hq c (by rw [hclock]; exact hc)

theorem portStateChanged {number : UInt16} {state : PortState} {known : Bool} (ho : o.Observed)
    (h : Returns (o.portStateChanged number state) m (known, o') m') : o'.Observed := by
  rcases portStateChanged_cases h with ⟨rfl, -⟩ | ⟨t, t', htop, hchanged, rfl⟩
  · exact ho
  · refine ⟨ho.free, ho.unfed, ho.destination, fun p hp c hc => ?_⟩
    obtain ⟨q, hq, hclock⟩ := Topology.portStateChanged_clock hchanged p hp
    refine ho.port q ?_ c (by rw [hclock]; exact hc)
    rwa [knownPorts, htop]

/-- Only clocks of ports become destinations. -/
theorem reconfigure {selection : Option Selection} (ho : o.Observed)
    (h : Returns o.reconfigure m (selection, o') m') : o'.Observed := by
  have hconfig : o'.config = o.config := by
    rcases reconfigure_ends h with ⟨-, rfl, -⟩ | ⟨t, _, o₁, _, _, -, -, -, -, hdest, rfl⟩
    · rfl
    · rw [selectSource_eq, selectDestinations_eq hdest]
      rfl
  rcases reconfigure_cases h with ⟨-, rfl⟩ | ⟨t, selected, htop, -, hselect, htop', hclocks⟩
  · exact ho
  · have hport : ∀ id c, o.clocks.get? id = some c → (∃ p ∈ t.ports, p.clock = id) →
        c.freeRunning = true := by
      rintro _ c hc ⟨p, hp, rfl⟩
      refine ho.port p ?_ c hc
      rwa [knownPorts, htop]
    refine ⟨hconfig ▸ ho.free, fun id c hc => ?_, fun id c hc hset => ?_, fun p hp c hc => ?_⟩
    · rw [hclocks] at hc
      obtain ⟨c₀, hc₀, rfl⟩ := Option.map_eq_some_iff.mp hc
      exact ho.unfed id c₀ hc₀
    · rw [hclocks] at hc
      obtain ⟨c₀, hc₀, rfl⟩ := Option.map_eq_some_iff.mp hc
      simp only [Clock.selected, Bool.and_eq_true, Bool.or_eq_true, List.contains_iff_mem] at hset
      rcases hset.1 with hset | hset
      · exact ho.destination id c₀ hc₀ hset
      · rw [← hselect] at hset
        obtain ⟨state, hstate⟩ := exists_state_of_destination hset
        exact hport id c₀ hc₀
          (Topology.aggregate_isSome_iff.mp ⟨state, Topology.mem_clockStates.mp hstate⟩)
    · rw [hclocks] at hc
      obtain ⟨c₀, hc₀, rfl⟩ := Option.map_eq_some_iff.mp hc
      rw [knownPorts, htop'] at hp
      exact hport _ c₀ hc₀ ⟨p, hp, rfl⟩

/-! ### Cycles -/

theorem flushTimestamps (ho : o.Observed) : o.flushTimestamps.Observed := by
  refine ho.phase (setup_flushTimestamps o) fun id c' hc' => ?_
  rw [Orchestrator.flushTimestamps, Registry.get?_map] at hc'
  obtain ⟨c, hc, rfl⟩ := Option.map_eq_some_iff.mp hc'
  exact ⟨c, hc, rfl⟩

theorem unlockClocks (ho : o.Observed) (ids : List ClockId) : o.unlockClocks env ids = pure o := by
  induction ids with
  | nil => rfl
  | cons id ids ih =>
    unfold Orchestrator.unlockClocks
    cases hc : o.clocks.get? id with
    | none => exact ih
    | some c => simp [ho.unfed id c hc, ih]

/-- Polling collects events, and has nothing to unlock even if they stay away. -/
theorem poll {wait : Waiter W ε} {result : Except (SyncError ε) PollOutcome} (ho : o.Observed)
    (h : Returns (o.poll env wait) m (result, o') m') :
    o'.Observed ∧ ∃ samples, Collecting env wait o m samples o' m' := by
  have hcollecting {samples : List Sample} {o₁ : Orchestrator H S} {m₁ : Machine W}
      (hchain : Collecting env wait o m samples o₁ m₁) : o₁.Observed := by
    refine ho.phase hchain.setup fun id c' hc' => ?_
    obtain ⟨c, hc, -⟩ := Registry.get?_of_parts_eq (parts_of_setup_eq hchain.setup).symm hc'
    obtain rfl := Option.some.inj ((hchain.get? hc).symm.trans hc')
    exact ⟨c, hc, rfl⟩
  obtain ⟨samples, o₁, m₁, hchain, ⟨rfl, rfl⟩ | ⟨-, hunlock⟩⟩ := poll_cases h
  · exact ⟨hcollecting hchain, samples, hchain⟩
  · rw [unlockDestinations, (hcollecting hchain).unlockClocks] at hunlock
    obtain ⟨rfl, rfl⟩ := returns_pure.mp hunlock
    exact ⟨hcollecting hchain, samples, hchain⟩

theorem collectReference {result : Except (SyncError ε) Unit} (ho : o.Observed)
    (h : Returns (o.collectReference env) m (result, o') m') : o'.Observed := by
  refine ho.phase (collectReference_setup h) fun id c' hc' => ?_
  cases result with
  | error e =>
    rw [collectReference_error h] at hc'
    exact ⟨c', hc', rfl⟩
  | ok =>
    rcases collectReference_cases h with ⟨-, rfl⟩ | ⟨own, c, t, edge, m₁, -, hc, -, -, rfl⟩
    · exact ⟨c', hc', rfl⟩
    · by_cases hid : id = own
      · subst hid
        obtain rfl := Option.some.inj ((Registry.get?_set_self _ hc).symm.trans hc')
        exact ⟨c, hc, rfl⟩
      · exact ⟨c', (Registry.get?_set_of_ne _ hid).symm.trans hc', rfl⟩

theorem sourceTimestamp {edge : Option Instant} (ho : o.Observed)
    (h : Returns (o.sourceTimestamp env) m (edge, o') m') : o'.Observed := by
  by_cases hports : o.topology = none
  · rwa [(sourceTimestamp_free hports h).1]
  · refine ho.phase (sourceTimestamp_setup h) fun id c' hc' => ?_
    rw [(sourceTimestamp_ports hports h).2] at hc'
    obtain ⟨c, hc, rfl⟩ := Option.map_eq_some_iff.mp hc'
    refine ⟨c, hc, ?_⟩
    split <;> rfl

/-- An offset of a marked clock is written down, and the world is not asked for
    anything. -/
theorem synchronizeClock {c c' : Clock H S} {t sourceTime : Instant} {weight : Float}
    {report : ClockReport} (hfree : c.freeRunning = true)
    (h : Returns (synchronizeClock env id c t sourceTime weight) m (report, c') m') :
    m'.world = m.world ∧ c'.servoState = c.servoState := by
  simp only [Orchestrator.synchronizeClock, hfree, if_true, returns_bind, returns_checked,
    returns_log, returns_pure, Prod.mk.injEq] at h
  obtain ⟨offset, _, ⟨-, rfl⟩, _, _, rfl, ⟨-, rfl⟩, rfl⟩ := h
  exact ⟨rfl, rfl⟩

theorem correctOne {sourceTime : Instant} {reports : List ClockReport} (ho : o.Observed)
    (h : Returns (o.correctOne env sourceTime id) m (reports, o') m') :
    o'.Observed ∧ m'.world = m.world := by
  have hsetup := correctOne_setup h
  unfold Orchestrator.correctOne at h
  cases hc : o.clocks.get? id with
  | none =>
    simp only [hc, returns_pure, Prod.mk.injEq] at h
    obtain ⟨⟨-, rfl⟩, rfl⟩ := h
    exact ⟨ho, rfl⟩
  | some c =>
    simp only [hc] at h
    split at h
    · simp only [returns_pure, Prod.mk.injEq] at h
      obtain ⟨⟨-, rfl⟩, rfl⟩ := h
      exact ⟨ho, rfl⟩
    · next hset =>
      have hfree := ho.destination id c hc (by simpa using hset)
      cases ht : c.timestamp with
      | none =>
        simp only [ht, returns_bind, returns_log, returns_pure, Prod.mk.injEq] at h
        obtain ⟨_, _, rfl, ⟨-, rfl⟩, rfl⟩ := h
        exact ⟨ho, rfl⟩
      | some t =>
        simp only [ht, returns_bind, returns_pure, Prod.mk.injEq] at h
        obtain ⟨⟨report, c'⟩, m₁, hsync, ⟨-, rfl⟩, rfl⟩ := h
        obtain ⟨hworld, hstate⟩ := synchronizeClock (c := c.flushTimestamp) hfree hsync
        refine ⟨ho.phase hsetup fun other own hown => ?_, hworld⟩
        by_cases hid : other = id
        · subst hid
          obtain rfl := Option.some.inj ((Registry.get?_set_self c' hc).symm.trans hown)
          exact ⟨c, hc, hstate⟩
        · exact ⟨own, (Registry.get?_set_of_ne c' hid).symm.trans hown, rfl⟩

theorem synchronizeClocks {sourceTime : Instant} {ids : List ClockId}
    {reports : List ClockReport} (ho : o.Observed)
    (h : Returns (o.synchronizeClocks env sourceTime ids) m (reports, o') m') :
    o'.Observed ∧ m'.world = m.world := by
  induction ids generalizing o m reports with
  | nil =>
    simp only [Orchestrator.synchronizeClocks, returns_pure, Prod.mk.injEq] at h
    obtain ⟨⟨-, rfl⟩, rfl⟩ := h
    exact ⟨ho, rfl⟩
  | cons id ids ih =>
    obtain ⟨first, rest, o₁, m₁, -, hfirst, hrest⟩ := returns_synchronizeClocks_cons.mp h
    obtain ⟨ho₁, hworld₁⟩ := ho.correctOne hfirst
    obtain ⟨ho', hworld⟩ := ih ho₁ hrest
    exact ⟨ho', hworld.trans hworld₁⟩

theorem synchronize {reports : List ClockReport} (ho : o.Observed)
    (h : Returns (o.synchronize env) m (reports, o') m') :
    o'.Observed ∧ ∃ edge o₁ m₁, Returns (o.sourceTimestamp env) m (edge, o₁) m₁ ∧
      m'.world = m₁.world := by
  simp only [Orchestrator.synchronize, returns_bind] at h
  obtain ⟨⟨edge, o₁⟩, m₁, hsource, h⟩ := h
  have ho₁ := ho.sourceTimestamp hsource
  cases edge with
  | none =>
    simp only [returns_pure, Prod.mk.injEq] at h
    obtain ⟨⟨-, rfl⟩, rfl⟩ := h
    exact ⟨ho₁, none, o', m', hsource, rfl⟩
  | some t =>
    obtain ⟨ho', hworld⟩ := ho₁.synchronizeClocks h
    exact ⟨ho', some t, o₁, m₁, hsource, hworld⟩

theorem runCycle {wait : Waiter W ε} {result : Except (SyncError ε) (List ClockReport)}
    (ho : o.Observed) (h : Returns (o.runCycle env wait) m (result, o') m') : o'.Observed := by
  obtain ⟨selection, o₁, m₁, outcome, o₂, m₂, hselect, hpoll, h⟩ := runCycle_cases h
  have ho₂ := ((ho.reconfigure hselect).flushTimestamps.poll hpoll).1
  rcases h with ⟨rfl, -⟩ | ⟨-, stamped, o₃, m₃, hstamp, h⟩
  · exact ho₂
  · have ho₃ := ho₂.collectReference hstamp
    rcases h with ⟨rfl, -⟩ | ⟨-, reports, -, hsync⟩
    · exact ho₃
    · exact (ho₃.synchronize hsync).1

end Observed

/-- All operations keep it so, whatever their results. -/
theorem Operates.observed {Waits : Waiter W ε → Prop} (h : Operates env Waits o m o' m')
    (ho : o.Observed) : o'.Observed := by
  cases h with
  | openClock h => exact (ho.openClock h).1
  | addSource h => exact ho.addSource h
  | addPort h => exact ho.addPort h
  | portStateChanged h => exact ho.portStateChanged h
  | reconfigure h => exact ho.reconfigure h
  | arm h => exact ho
  | flushTimestamps => exact ho.flushTimestamps
  | poll _ h => exact (ho.poll h).1
  | collectReference h => exact ho.collectReference h
  | synchronize h => exact (ho.synchronize h).1
  | runCycle _ h => exact ho.runCycle h

end Orchestrator

end ClockDiscipline
