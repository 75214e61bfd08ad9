/-
  ClockDiscipline/Proofs/Reachable.lean
  =====================================
  **The states that an orchestrator can get into.**

  `Step` is any one operation that returns, against a machine that may have
  changed in any way since the last one; `Reachable` is what such steps lead
  to from a fresh orchestrator.  The clocks of all ports are there in every
  reachable state: clocks are opened before a port is bound to them, and the
  only clocks that are ever given up are those of a source that could not be
  set up, if they were opened for it (`Reachable.portsLive`).
-/
import ClockDiscipline.Proofs.Cycle
import ClockDiscipline.Proofs.Reconfiguring
import ClockDiscipline.Proofs.Selection

namespace ClockDiscipline

open ClockDiscipline.Action

variable {W H S ε : Type} {env : Environment W H S ε}

/-! ### Ports -/

namespace Topology

variable {t t' : Topology} {number : UInt16} {state : PortState} {m m' : Machine W}

/-- No port changes its clock. -/
theorem portStateChanged_clock {known : Bool}
    (h : Returns (t.portStateChanged number state) m (known, t') m') :
    ∀ p ∈ t'.ports, ∃ q ∈ t.ports, q.clock = p.clock := by
  have hsame : ∀ p ∈ t.ports, ∃ q ∈ t.ports, q.clock = p.clock := fun p hp => ⟨p, hp, rfl⟩
  rcases portStateChanged_cases h with ⟨-, rfl, -⟩ | ⟨-, -, -, -, ⟨-, rfl⟩ | rfl⟩
  · exact hsame
  · exact hsame
  · intro p hp
    obtain ⟨q, hq, rfl⟩ := List.mem_map.mp hp
    refine ⟨q, hq, ?_⟩
    split <;> rfl

theorem addPort_clock {id : ClockId} (h : Returns (t.addPort number id state) m t' m') :
    ∀ p ∈ t'.ports, p.clock = id ∨ ∃ q ∈ t.ports, q.clock = p.clock := by
  simp only [addPort, returns_bind] at h
  obtain ⟨⟨known, t₁⟩, m₁, hchanged, h⟩ := h
  have hsame := portStateChanged_clock hchanged
  split at h
  · simp only [returns_pure] at h
    obtain ⟨rfl, -⟩ := h
    exact fun p hp => .inr (hsame p hp)
  · simp only [returns_pure] at h
    obtain ⟨rfl, -⟩ := h
    intro p hp
    rcases List.mem_append.mp hp with hp | hp
    · exact .inr (hsame p hp)
    · obtain rfl := List.mem_singleton.mp hp
      exact .inl rfl

end Topology

/-! ### Clocks -/

/-- Either the clock was there, or exactly it is new. -/
theorem Registry.getOrCreate_ids {r r' : Registry H S} {name : String} {m m' : Machine W}
    {result : Except (RegistryError ε) ClockId}
    (h : Returns (r.getOrCreate env name) m (result, r') m') :
    (r'.ids = r.ids ∧ ∀ id, result = .ok id → id ∈ r.ids) ∨
    ∃ id, result = .ok id ∧ id ∉ r.ids ∧ r'.ids = r.ids ++ [id] := by
  have hknown {id : ClockId} {c : Clock H S} (hc : r.get? id = some c) :
      ∀ id', (Except.ok id : Except (RegistryError ε) ClockId) = .ok id' → id' ∈ r.ids := by
    intro id' hid
    cases hid
    exact mem_ids.mpr ⟨c, hc⟩
  rcases getOrCreate_cases h with ⟨id, c, rfl, rfl, hc, -⟩ | ⟨-, ⟨e, rfl, rfl⟩ | hrest⟩
  · exact .inl ⟨rfl, hknown hc⟩
  · exact .inl ⟨rfl, fun id hid => by cases hid⟩
  · obtain ⟨handle, index, m₁, -, ⟨id, c, rfl, rfl, hc, -⟩ | ⟨-, servo, rfl, rfl⟩⟩ := hrest
    · exact .inl ⟨rfl, hknown hc⟩
    · obtain ⟨hids, hnew⟩ := r.ids_push (.opened name index handle servo)
      exact .inr ⟨_, rfl, hnew, hids⟩

namespace Orchestrator

variable {o o' : Orchestrator H S} {m m' : Machine W}

/-- The ports and the source that was selected from them are as before. -/
structure Undisturbed (o o' : Orchestrator H S) : Prop where
  config : o'.config = o.config
  topology : o'.topology = o.topology
  sourceClock : o'.sourceClock = o.sourceClock

theorem Undisturbed.refl (o : Orchestrator H S) : o.Undisturbed o := ⟨rfl, rfl, rfl⟩

theorem Undisturbed.trans {o₁ o₂ o₃ : Orchestrator H S} (h₁ : o₁.Undisturbed o₂)
    (h₂ : o₂.Undisturbed o₃) : o₁.Undisturbed o₃ :=
  ⟨h₂.config.trans h₁.config, h₂.topology.trans h₁.topology,
    h₂.sourceClock.trans h₁.sourceClock⟩

theorem openClock_ids {name : String} {result : Except (SyncError ε) ClockId}
    (h : Returns (o.openClock env name) m (result, o') m') :
    o.Undisturbed o' ∧
    ((o'.clocks.ids = o.clocks.ids ∧ ∀ id, result = .ok id → id ∈ o.clocks.ids) ∨
      ∃ id, result = .ok id ∧ id ∉ o.clocks.ids ∧ o'.clocks.ids = o.clocks.ids ++ [id]) := by
  simp only [openClock, returns_bind] at h
  obtain ⟨⟨opened, clocks⟩, m₁, hcreate, h⟩ := h
  have hids := Registry.getOrCreate_ids hcreate
  cases opened with
  | error e =>
    simp only [returns_pure, Prod.mk.injEq] at h
    obtain ⟨⟨rfl, rfl⟩, -⟩ := h
    refine ⟨⟨rfl, rfl, rfl⟩, ?_⟩
    rcases hids with ⟨hsame, -⟩ | ⟨id, hid, -⟩
    · exact .inl ⟨hsame, fun id hid => by cases hid⟩
    · cases hid
  | ok id =>
    simp only [returns_pure, Prod.mk.injEq] at h
    obtain ⟨⟨rfl, rfl⟩, -⟩ := h
    refine ⟨⟨rfl, rfl, rfl⟩, ?_⟩
    simp only [modifyClock, Registry.ids_modify]
    simpa using hids

/-- After opening a clock all others are still there. -/
theorem openClock_grows {name : String} {result : Except (SyncError ε) ClockId}
    (h : Returns (o.openClock env name) m (result, o') m') :
    o.clocks.ids ⊆ o'.clocks.ids ∧ ∀ id, result = .ok id → id ∈ o'.clocks.ids := by
  rcases (openClock_ids h).2 with ⟨hids, hlive⟩ | ⟨id, rfl, -, hids⟩
  · rw [hids]
    exact ⟨List.Subset.refl _, hlive⟩
  · rw [hids]
    refine ⟨List.subset_append_left _ _, fun id' hid' => ?_⟩
    cases hid'
    simp

/-- Giving up a source takes at most the clock that was opened for it. -/
theorem abandonSource_keeps {device : String} {id : ClockId} {clocksBefore : Nat} {error : ε}
    (h : Returns (o.abandonSource env device id clocksBefore error) m o' m') :
    o.Undisturbed o' ∧
    ∀ other ∈ o.clocks.ids, (clocksBefore < o.clocks.size → other ≠ id) →
      other ∈ o'.clocks.ids := by
  simp only [abandonSource, returns_bind, returns_log] at h
  obtain ⟨_, _, -, h⟩ := h
  split at h
  · next hgrown =>
    cases hdestroy : (o.clocks.destroy id o.sourceClock : Except (RegistryError ε) _) with
    | error e =>
      simp only [hdestroy, returns_bind, returns_log, returns_pure] at h
      obtain ⟨_, _, -, rfl, -⟩ := h
      exact ⟨.refl _, fun other hmem _ => hmem⟩
    | ok taken =>
      simp only [hdestroy, returns_pure] at h
      obtain ⟨rfl, -⟩ := h
      refine ⟨⟨rfl, rfl, rfl⟩, fun other hmem hne => ?_⟩
      exact Registry.mem_ids_destroy hdestroy (hne hgrown) hmem
  · simp only [returns_pure] at h
    obtain ⟨rfl, -⟩ := h
    exact ⟨.refl _, fun other hmem _ => hmem⟩

/-- Adding a source keeps all clocks that were there before. -/
theorem addSource_keeps {config : SourceConfig} {result : Except (SyncError ε) ClockId}
    (h : Returns (o.addSource env config) m (result, o') m') :
    o.Undisturbed o' ∧ o.clocks.ids ⊆ o'.clocks.ids := by
  unfold addSource at h
  split at h
  · simp only [returns_bind, returns_log, returns_pure, Prod.mk.injEq] at h
    obtain ⟨_, _, -, ⟨-, rfl⟩, -⟩ := h
    exact ⟨.refl _, List.Subset.refl _⟩
  · simp only [returns_bind] at h
    obtain ⟨⟨opened, o₁⟩, m₁, hopen, h⟩ := h
    have hsame := (openClock_ids hopen).1
    have hgrows := (openClock_grows hopen).1
    cases opened with
    | error e =>
      simp only [returns_pure, Prod.mk.injEq] at h
      obtain ⟨⟨-, rfl⟩, -⟩ := h
      exact ⟨hsame, hgrows⟩
    | ok id =>
      simp only [returns_bind, returns_checked] at h
      obtain ⟨source, _, -, h⟩ := h
      split at h
      · simp only [returns_pure, Prod.mk.injEq] at h
        obtain ⟨⟨-, rfl⟩, -⟩ := h
        exact ⟨hsame, hgrows⟩
      · simp only [returns_bind] at h
        obtain ⟨ready, m₂, -, h⟩ := h
        cases ready with
        | error e =>
          simp only [returns_bind, returns_pure, Prod.mk.injEq] at h
          obtain ⟨o₂, m₃, habandon, ⟨-, rfl⟩, -⟩ := h
          obtain ⟨hsame', hkeeps⟩ := abandonSource_keeps habandon
          refine ⟨hsame.trans hsame', fun other hother => ?_⟩
          refine hkeeps other (hgrows hother) fun hgrown => ?_
          -- the number of clocks has grown only if the clock is new
          rcases (openClock_ids hopen).2 with ⟨hids, -⟩ | ⟨new, hnew, hfresh, -⟩
          · rw [Registry.size_eq, Registry.size_eq, hids] at hgrown
            exact absurd hgrown (Nat.lt_irrefl _)
          · cases hnew
            rintro rfl
            exact hfresh hother
        | ok u =>
          simp only [returns_bind, returns_log, returns_pure, Prod.mk.injEq] at h
          obtain ⟨_, _, -, ⟨-, rfl⟩, -⟩ := h
          refine ⟨hsame.trans ⟨rfl, rfl, rfl⟩, ?_⟩
          simpa [modifyClock] using hgrows

theorem reconfigure_keeps {result : Option Selection}
    (h : Returns o.reconfigure m (result, o') m') : o.clocks.ids ⊆ o'.clocks.ids := by
  rcases reconfigure_cases h with ⟨-, rfl⟩ | ⟨t, selection, -, -, -, -, hclocks⟩
  · exact List.Subset.refl _
  · intro id hid
    obtain ⟨c, hc⟩ := Registry.mem_ids.mp hid
    refine Registry.mem_ids.mpr ⟨c.selected t selection id, ?_⟩
    rw [hclocks, hc, Option.map_some]

/-! ### Steps -/

/-- The clocks of all ports are there. -/
def PortsLive (o : Orchestrator H S) : Prop :=
  ∀ t, o.topology = some t → ∀ p ∈ t.ports, p.clock ∈ o.clocks.ids

/-- Clocks that stay where they are stay the clocks of the ports. -/
theorem PortsLive.mono (hlive : o.PortsLive)
    (htop : ∀ t', o'.topology = some t' → ∀ p ∈ t'.ports,
      p.clock ∈ o'.clocks.ids ∨ ∃ t, o.topology = some t ∧ ∃ q ∈ t.ports, q.clock = p.clock)
    (hkeeps : o.clocks.ids ⊆ o'.clocks.ids) : o'.PortsLive := by
  intro t' ht' p hp
  rcases htop t' ht' p hp with hnew | ⟨t, ht, q, hq, hclock⟩
  · exact hnew
  · rw [← hclock]
    exact hkeeps (hlive t ht q hq)

theorem PortsLive.of_topology_eq (hlive : o.PortsLive) (htop : o'.topology = o.topology)
    (hkeeps : o.clocks.ids ⊆ o'.clocks.ids) : o'.PortsLive := by
  refine hlive.mono (fun t' ht' p hp => .inr ⟨t', ?_, p, hp, rfl⟩) hkeeps
  rw [← htop, ht']

/-- One operation of an orchestrator that returns, whatever its result. -/
inductive Step (env : Environment W H S ε) : Orchestrator H S → Orchestrator H S → Prop where
  | openClock {o o' : Orchestrator H S} {m m' : Machine W} {name : String}
      {result : Except (SyncError ε) ClockId} :
      Returns (o.openClock env name) m (result, o') m' → Step env o o'
  | addSource {o o' : Orchestrator H S} {m m' : Machine W} {config : SourceConfig}
      {result : Except (SyncError ε) ClockId} :
      Returns (o.addSource env config) m (result, o') m' → Step env o o'
  | addPort {o o' : Orchestrator H S} {m m' : Machine W} {number : UInt16} {device : String}
      {state : PortState} {result : Except (SyncError ε) ClockId} :
      Returns (o.addPort env number device state) m (result, o') m' → Step env o o'
  | portStateChanged {o o' : Orchestrator H S} {m m' : Machine W} {number : UInt16}
      {state : PortState} {known : Bool} :
      Returns (o.portStateChanged number state) m (known, o') m' → Step env o o'
  | reconfigure {o o' : Orchestrator H S} {m m' : Machine W} {result : Option Selection} :
      Returns o.reconfigure m (result, o') m' → Step env o o'
  | runCycle {o o' : Orchestrator H S} {m m' : Machine W} {wait : Waiter W ε}
      {result : Except (SyncError ε) (List ClockReport)} :
      Returns (o.runCycle env wait) m (result, o') m' → Step env o o'

theorem addPort_portsLive {number : UInt16} {device : String} {state : PortState}
    {result : Except (SyncError ε) ClockId} (hlive : o.PortsLive)
    (h : Returns (o.addPort env number device state) m (result, o') m') : o'.PortsLive := by
  simp only [addPort, returns_bind] at h
  obtain ⟨⟨opened, o₁⟩, m₁, hopen, h⟩ := h
  have htop := (openClock_ids hopen).1.topology
  obtain ⟨hgrows, hopened⟩ := openClock_grows hopen
  cases opened with
  | error e =>
    simp only [returns_pure, Prod.mk.injEq] at h
    obtain ⟨⟨-, rfl⟩, -⟩ := h
    exact hlive.of_topology_eq htop hgrows
  | ok id =>
    simp only [returns_bind, returns_pure, Prod.mk.injEq] at h
    obtain ⟨t', m₂, hadd, ⟨-, rfl⟩, -⟩ := h
    refine hlive.mono (fun t ht p hp => ?_) hgrows
    cases ht
    rcases Topology.addPort_clock hadd p hp with hid | ⟨q, hq, hclock⟩
    · exact .inl (hid ▸ hopened id rfl)
    · rw [htop] at hq
      cases ht : o.topology with
      | none =>
        rw [ht] at hq
        cases hq
      | some t =>
        rw [ht] at hq
        exact .inr ⟨t, rfl, q, hq, hclock⟩

theorem portStateChanged_portsLive {number : UInt16} {state : PortState} {known : Bool}
    (hlive : o.PortsLive) (h : Returns (o.portStateChanged number state) m (known, o') m') :
    o'.PortsLive := by
  unfold portStateChanged at h
  split at h
  · simp only [returns_pure, Prod.mk.injEq] at h
    obtain ⟨⟨-, rfl⟩, -⟩ := h
    exact hlive
  · next t ht =>
    simp only [returns_bind, returns_pure, Prod.mk.injEq] at h
    obtain ⟨⟨known, t'⟩, m₁, hchanged, ⟨-, rfl⟩, -⟩ := h
    refine hlive.mono (fun t'' ht'' p hp => ?_) (List.Subset.refl _)
    cases ht''
    obtain ⟨q, hq, hclock⟩ := Topology.portStateChanged_clock hchanged p hp
    exact .inr ⟨t, ht, q, hq, hclock⟩

theorem reconfigure_portsLive {result : Option Selection} (hlive : o.PortsLive)
    (h : Returns o.reconfigure m (result, o') m') : o'.PortsLive := by
  refine hlive.mono (fun t' ht' p hp => ?_) (reconfigure_keeps h)
  rcases reconfigure_cases h with ⟨-, rfl⟩ | ⟨t, selection, ht, -, -, htop, -⟩
  · exact .inr ⟨t', ht', p, hp, rfl⟩
  · rw [htop, Option.some.injEq] at ht'
    subst ht'
    exact .inr ⟨t, ht, p, hp, rfl⟩

theorem Step.portsLive (h : Step env o o') (hlive : o.PortsLive) : o'.PortsLive := by
  cases h with
  | openClock h => exact hlive.of_topology_eq (openClock_ids h).1.topology (openClock_grows h).1
  | addSource h => exact hlive.of_topology_eq (addSource_keeps h).1.topology (addSource_keeps h).2
  | addPort h => exact addPort_portsLive hlive h
  | portStateChanged h => exact portStateChanged_portsLive hlive h
  | reconfigure h => exact reconfigure_portsLive hlive h
  | runCycle h =>
    obtain ⟨selection, o₁, m₁, hselect, hsame⟩ := runCycle_setup h
    refine (reconfigure_portsLive hlive hselect).of_topology_eq (topology_of_setup_eq hsame) ?_
    rw [Registry.ids_of_parts_eq (parts_of_setup_eq hsame)]
    exact List.Subset.refl _

/-! ### Runs -/

/-- What a fresh orchestrator can get into. -/
inductive Reachable (env : Environment W H S ε) : Orchestrator H S → Prop where
  | start (config : SyncConfig) (clocks : Registry H S) (reference : Reference) :
      Reachable env (start config clocks reference)
  | step {o o' : Orchestrator H S} : Reachable env o → Step env o o' → Reachable env o'

theorem Reachable.portsLive (h : Reachable env o) : o.PortsLive := by
  induction h with
  | start =>
    intro t ht
    cases ht
  | step _ hstep ih => exact hstep.portsLive ih

end Orchestrator

end ClockDiscipline
