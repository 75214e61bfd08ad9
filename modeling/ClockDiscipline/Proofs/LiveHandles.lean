/-
  ClockDiscipline/Proofs/LiveHandles.lean
  =======================================
  **The handles that an orchestrator holds denote the clocks they were given
  out for.**

  Sources, ports and the selected source hold handles of clocks.  A source gets
  its handle when it is added and a port when it is bound, each from the
  registry; after that no operation takes a clock away that was there before,
  not even one that fails and destroys the clock it has opened.  So a handle
  that is held never dangles (`held_handles`), and the branches for a clock
  that is not there are not taken for any of them.
-/
import ClockDiscipline.Bench.Environment
import ClockDiscipline.Proofs.Operations

namespace ClockDiscipline

open ClockDiscipline.Action

variable {W H S ε : Type} {env : Environment W H S ε}

/-! ### Which port is bound to which clock -/

namespace Topology

variable {t t' : Topology} {number : UInt16} {state : PortState} {m m' : Machine W}
  {id : ClockId}

/-- The numbers of the ports and the handles of their clocks. -/
def bindings (t : Topology) : List (UInt16 × ClockId) := t.ports.map fun p => (p.number, p.clock)

theorem portStateChanged_bindings {known : Bool}
    (h : Returns (t.portStateChanged number state) m (known, t') m') :
    t'.bindings = t.bindings := by
  rcases portStateChanged_cases h with ⟨-, rfl, -⟩ | ⟨-, -, -, -, ⟨-, rfl⟩ | rfl⟩
  · rfl
  · rfl
  · simp only [bindings, setState, List.map_map]
    refine List.map_congr_left fun p _ => ?_
    simp only [Function.comp_apply]
    split <;> rfl

/-- A port that is known stays where it is, a new one is bound to the clock. -/
theorem addPort_bindings (h : Returns (t.addPort number id state) m t' m') :
    t'.bindings = t.bindings ∨
      (∀ p ∈ t.ports, p.number ≠ number) ∧ t'.bindings = t.bindings ++ [(number, id)] := by
  simp only [addPort, returns_bind] at h
  obtain ⟨⟨known, t₁⟩, m₁, hchanged, h⟩ := h
  have hsame := portStateChanged_bindings hchanged
  split at h
  · simp only [returns_pure] at h
    obtain ⟨rfl, -⟩ := h
    exact .inl hsame
  · next hunknown =>
    simp only [returns_pure] at h
    obtain ⟨rfl, -⟩ := h
    rcases portStateChanged_cases hchanged with ⟨-, -, hnone⟩ | ⟨_, -, -, hknown, -⟩
    · refine .inr ⟨hnone, ?_⟩
      rw [← hsame]
      simp [bindings]
    · exact absurd hknown hunknown

end Topology

theorem exists_state_of_source? {policy : FallbackPolicy} {clocks : List (ClockId × PortState)}
    {id : ClockId} (h : (select policy clocks).1.source? = some id) :
    ∃ state, (id, state) ∈ clocks := by
  have hmem {p : PortState → Bool} (hlast : (inState clocks p).getLast? = some id) :
      ∃ state, (id, state) ∈ clocks := by
    obtain ⟨state, hstate, -⟩ := mem_inState.mp (List.mem_of_getLast? hlast)
    exact ⟨state, hstate⟩
  rw [source?_select] at h
  split at h
  · cases h
  · rcases Option.or_eq_some_iff.mp h with hslave | ⟨-, hrest⟩
    · exact hmem hslave
    · split at hrest
      · cases hrest
      · split at hrest
        · exact hmem hrest
        · cases hrest

namespace Orchestrator

variable {o₀ o o' : Orchestrator H S} {m m' : Machine W} {id : ClockId}
  {Waits : Waiter W ε → Prop}

/-! ### Where a handle comes from -/

/-- Any operations, against a world that may have changed in any way before each
    of them. -/
def Leads (env : Environment W H S ε) (o o' : Orchestrator H S) : Prop :=
  Course env (fun _ => True) (fun _ => ()) () o () o'

theorem Leads.next (h : Leads env o₀ o) (hop : Operates env (fun _ => True) o m o' m') :
    Leads env o₀ o' :=
  Course.next (m := m) h hop

/-- A kind of request for the clock of a device, by the orchestrators and
    machines before and after it. -/
abbrev ClockDemand (W H S : Type) :=
  String → Orchestrator H S → Machine W → Orchestrator H S → Machine W → Prop

/-- Between `o₀` and `o` the handle was given out on such a request, for the
    clock that answered to the name of the device; and in `o` the handle still
    denotes that clock. -/
inductive GivenOut (env : Environment W H S ε) (o₀ : Orchestrator H S)
    (Demand : ClockDemand W H S) (id : ClockId) (o : Orchestrator H S) : Prop where
  | intro {device : String} {before after : Orchestrator H S} {m m' : Machine W}
      {c c' : Clock H S} :
      Leads env o₀ before → Demand device before m after m' →
      Registry.AnswersTo env before.clocks device m c → after.clocks.get? id = some c →
      Leads env after o → o.clocks.get? id = some c' → c'.identity = c.identity →
      GivenOut env o₀ Demand id o

theorem GivenOut.live {Demand : ClockDemand W H S} (h : GivenOut env o₀ Demand id o) :
    ∃ c, o.clocks.get? id = some c := by
  obtain ⟨-, -, -, -, -, hc, -⟩ := h
  exact ⟨_, hc⟩

theorem GivenOut.next {Demand : ClockDemand W H S} (h : GivenOut env o₀ Demand id o)
    (hop : Operates env (fun _ => True) o m o' m') : GivenOut env o₀ Demand id o' := by
  obtain ⟨hbefore, hdemand, hanswers, hgiven, hafter, hc, hsame⟩ := h
  obtain ⟨c', hc', hkept⟩ := hop.keeps id _ hc
  exact .intro hbefore hdemand hanswers hgiven (hafter.next hop) hc' (hkept.trans hsame)

/-- The request that adds the source, of whose name there was none before. -/
def AddsSource (env : Environment W H S ε) (s : EdgeSource) : ClockDemand W H S :=
  fun device o m o' m' => device = s.name ∧ (∀ other ∈ o.sources, other.name ≠ s.name) ∧
    ∃ config : SourceConfig, config.device = device ∧
      Returns (o.addSource env config) m (.ok s.clock, o') m'

/-- The request that binds a port of this number, which there was not before, to
    the clock. -/
def BindsPort (env : Environment W H S ε) (number : UInt16) (id : ClockId) :
    ClockDemand W H S :=
  fun device o m o' m' => (∀ p ∈ o.knownPorts.ports, p.number ≠ number) ∧
    ∃ state, Returns (o.addPort env number device state) m (.ok id, o') m'

/-! ### What an operation does to the holders of handles -/

/-- The sources are those before, or one more, which was added for the clock that
    answers to its name. -/
theorem Operates.sources_cases (h : Operates env Waits o m o' m') :
    o'.sources = o.sources ∨ ∃ s, o'.sources = o.sources ++ [s] ∧
      AddsSource env s s.name o m o' m' ∧
      ∃ c, Registry.AnswersTo env o.clocks s.name m c ∧
        ∃ c', o'.clocks.get? s.clock = some c' ∧ c'.identity = c.identity := by
  have hopen {name : String} {o₁ : Orchestrator H S} {m₁ : Machine W}
      {result : Except (SyncError ε) ClockId}
      (h : Returns (o.openClock env name) m (result, o₁) m₁) : o₁.sources = o.sources := by
    obtain ⟨_, _, -, ⟨_, -, -, rfl⟩ | ⟨_, -, -, rfl⟩⟩ := openClock_cases h
    · rfl
    · rfl
  cases h with
  | openClock h => exact .inl (hopen h)
  | @addSource _ _ _ config _ h =>
    rcases addSource_cases h with ⟨_, -, -, -, rfl, -⟩ | ⟨hnone, opened, o₁, m₁, hopened, hrest⟩
    · exact .inl rfl
    · have hbefore := hopen hopened
      rcases hrest with ⟨e, -, -, rfl, -⟩ | ⟨source, c, ready, m₂, rfl, hname, hc, -, hrest⟩
      · exact .inl hbefore
      · rcases hrest with ⟨e, -, -, habandon⟩ | ⟨-, rfl, rfl, -⟩
        · refine .inl ?_
          rw [← hbefore]
          obtain ⟨-, rfl | ⟨-, _, _, -, rfl⟩⟩ := abandonSource_cases habandon
          · rfl
          · rfl
        · obtain ⟨c, hc, hanswers⟩ := openClock_answers hopened
          rw [← hname] at hnone hanswers
          exact .inr ⟨source, congrArg (· ++ [source]) hbefore, ⟨rfl, hnone, config, hname.symm, h⟩,
            c, hanswers, listen_keeps o₁ source _ c hc⟩
  | addPort h =>
    obtain ⟨o₁, m₁, hopened, hrest⟩ := addPort_cases h
    refine .inl ?_
    rw [← hopen hopened]
    rcases hrest with ⟨e, -, rfl, -⟩ | ⟨id, t, -, -, rfl⟩
    · rfl
    · rfl
  | portStateChanged h =>
    rcases portStateChanged_cases h with ⟨rfl, -⟩ | ⟨t, t', -, -, rfl⟩
    · exact .inl rfl
    · exact .inl rfl
  | reconfigure h => exact .inl (reconfigure_sources h)
  | arm h => exact .inl rfl
  | flushTimestamps => exact .inl rfl
  | poll _ h => exact .inl (sources_of_setup_eq (poll_setup h))
  | collectReference h => exact .inl (sources_of_setup_eq (collectReference_setup h))
  | synchronize h => exact .inl (sources_of_setup_eq (synchronize_setup h))
  | runCycle _ h =>
    obtain ⟨selection, o₁, m₁, hselect, hsame⟩ := runCycle_setup h
    rw [sources_of_setup_eq hsame, reconfigure_sources hselect]
    exact .inl rfl

/-- A source that has come in was added for the clock that answers to its
    name. -/
theorem Operates.source_cases (h : Operates env Waits o m o' m') {s : EdgeSource}
    (hs : s ∈ o'.sources) :
    s ∈ o.sources ∨ AddsSource env s s.name o m o' m' ∧
      ∃ c, Registry.AnswersTo env o.clocks s.name m c ∧
        ∃ c', o'.clocks.get? s.clock = some c' ∧ c'.identity = c.identity := by
  rcases h.sources_cases with hsame | ⟨new, hadded, hnew⟩
  · exact .inl (hsame ▸ hs)
  · rw [hadded] at hs
    rcases List.mem_append.mp hs with hs | hs
    · exact .inl hs
    · obtain rfl := List.mem_singleton.mp hs
      exact .inr hnew

theorem reconfigure_bindings {selection : Option Selection}
    (h : Returns o.reconfigure m (selection, o') m') :
    o'.knownPorts.bindings = o.knownPorts.bindings := by
  rcases reconfigure_cases h with ⟨-, rfl⟩ | ⟨t, selection, htop, -, -, htop', -⟩
  · rfl
  · rw [knownPorts, knownPorts, htop, htop']
    rfl

/-- The source is selected from the clocks of the ports. -/
theorem reconfigure_sourceClock {selection : Option Selection}
    (h : Returns o.reconfigure m (selection, o') m') (hid : o'.sourceClock = some id) :
    o.sourceClock = some id ∨ ∃ p ∈ o.knownPorts.ports, p.clock = id := by
  rcases reconfigure_ends h with ⟨-, rfl, -⟩ |
    ⟨t, selected, o₁, _, _, htop, -, -, hselect, -, rfl⟩
  · exact .inl hid
  · rw [selectSource_eq, ← hselect] at hid
    obtain ⟨state, hstate⟩ := exists_state_of_source? hid
    have hbound := Topology.aggregate_isSome_iff.mp ⟨state, Topology.mem_clockStates.mp hstate⟩
    rw [knownPorts, htop]
    exact .inr hbound

/-- A port that has come in was bound to the clock that answers to the name of its
    device, and all others are bound as before. -/
theorem Operates.bindings_cases (h : Operates env Waits o m o' m') :
    o'.knownPorts.bindings = o.knownPorts.bindings ∨ ∃ number id device,
      o'.knownPorts.bindings = o.knownPorts.bindings ++ [(number, id)] ∧
      BindsPort env number id device o m o' m' ∧
      ∃ c, Registry.AnswersTo env o.clocks device m c ∧ o'.clocks.get? id = some c := by
  have hsame (h : o.Undisturbed o') : o'.knownPorts.bindings = o.knownPorts.bindings := by
    rw [h.knownPorts]
  cases h with
  | openClock h => exact .inl (hsame (openClock_ids h).1)
  | addSource h => exact .inl (hsame (addSource_keeps h).1)
  | @addPort _ _ _ number device state _ h =>
    obtain ⟨o₁, m₁, hopen, hrest⟩ := addPort_cases h
    have hports := (openClock_ids hopen).1.knownPorts
    rcases hrest with ⟨e, -, rfl, -⟩ | ⟨id, t, rfl, hadd, rfl⟩
    · exact .inl (by rw [hports])
    · rcases Topology.addPort_bindings hadd with hkept | ⟨hnone, hadded⟩
      · exact .inl (hkept.trans (congrArg Topology.bindings hports))
      · obtain ⟨c, hc, hanswers⟩ := openClock_answers hopen
        refine .inr ⟨number, id, device, ?_, ⟨?_, state, h⟩, c, hanswers, hc⟩
        · exact hadded.trans (congrArg (· ++ _) (congrArg Topology.bindings hports))
        · intro p hp
          rw [← hports] at hp
          exact hnone p hp
  | portStateChanged h =>
    exact .inl (Topology.portStateChanged_bindings (knownPorts_portStateChanged h).1)
  | reconfigure h => exact .inl (reconfigure_bindings h)
  | arm h => exact .inl rfl
  | flushTimestamps => exact .inl rfl
  | poll _ h => exact .inl (hsame (undisturbed_of_setup_eq (poll_setup h)))
  | collectReference h => exact .inl (hsame (undisturbed_of_setup_eq (collectReference_setup h)))
  | synchronize h => exact .inl (hsame (undisturbed_of_setup_eq (synchronize_setup h)))
  | runCycle _ h =>
    obtain ⟨selection, o₁, m₁, hselect, hsetup⟩ := runCycle_setup h
    rw [(undisturbed_of_setup_eq hsetup).knownPorts]
    exact .inl (reconfigure_bindings hselect)

theorem Operates.sourceClock_cases (h : Operates env Waits o m o' m')
    (hid : o'.sourceClock = some id) :
    o.sourceClock = some id ∨ ∃ p ∈ o.knownPorts.ports, p.clock = id := by
  have hsame (h : o.Undisturbed o') : o.sourceClock = some id := by rwa [← h.sourceClock]
  cases h with
  | openClock h => exact .inl (hsame (openClock_ids h).1)
  | addSource h => exact .inl (hsame (addSource_keeps h).1)
  | addPort h =>
    obtain ⟨o₁, m₁, hopen, hrest⟩ := addPort_cases h
    refine .inl ?_
    rw [← (openClock_ids hopen).1.sourceClock]
    rcases hrest with ⟨e, -, rfl, -⟩ | ⟨_, t, -, -, rfl⟩
    · exact hid
    · exact hid
  | portStateChanged h => exact .inl ((knownPorts_portStateChanged h).2.2 ▸ hid)
  | reconfigure h => exact reconfigure_sourceClock h hid
  | arm h => exact .inl hid
  | flushTimestamps => exact .inl hid
  | poll _ h => exact .inl (hsame (undisturbed_of_setup_eq (poll_setup h)))
  | collectReference h => exact .inl (hsame (undisturbed_of_setup_eq (collectReference_setup h)))
  | synchronize h => exact .inl (hsame (undisturbed_of_setup_eq (synchronize_setup h)))
  | runCycle _ h =>
    obtain ⟨selection, o₁, m₁, hselect, hsetup⟩ := runCycle_setup h
    rw [sourceClock_of_setup_eq hsetup] at hid
    exact reconfigure_sourceClock hselect hid

/-! ### What holds after any operations -/

/-- All handles that are held were given out in the course from `o₀` on, and the
    selected source is the clock of a port. -/
structure Held (env : Environment W H S ε) (o₀ o : Orchestrator H S) : Prop where
  leads : Leads env o₀ o
  source : ∀ s ∈ o.sources, GivenOut env o₀ (AddsSource env s) s.clock o
  port : ∀ number id, (number, id) ∈ o.knownPorts.bindings →
    GivenOut env o₀ (BindsPort env number id) id o
  selected : ∀ id, o.sourceClock = some id → ∃ number, (number, id) ∈ o.knownPorts.bindings

theorem Held.next (h : Held env o₀ o) (hop : Operates env (fun _ => True) o m o' m') :
    Held env o₀ o' where
  leads := h.leads.next hop
  source s hs := by
    rcases hop.source_cases hs with hs | ⟨hadds, c, hanswers, c', hc', hsame⟩
    · exact (h.source s hs).next hop
    · have hanswers' : Registry.AnswersTo env o.clocks s.name m c' := by
        simp only [Clock.identity, ClockIdentity.mk.injEq] at hsame
        unfold Registry.AnswersTo
        rwa [hsame.1, hsame.2.1]
      exact .intro h.leads hadds hanswers' hc' .start hc' rfl
  port number id hbound := by
    rcases hop.bindings_cases with hkept | ⟨number', id', device, hadded, hbinds, c, hanswers, hc⟩
    · rw [hkept] at hbound
      exact (h.port number id hbound).next hop
    · rw [hadded] at hbound
      rcases List.mem_append.mp hbound with hbound | hbound
      · exact (h.port number id hbound).next hop
      · obtain ⟨rfl, rfl⟩ := Prod.mk.inj (List.mem_singleton.mp hbound)
        exact .intro h.leads hbinds hanswers hc .start hc rfl
  selected id hid := by
    -- the ports that were bound before are so still
    have hgrows : ∀ b ∈ o.knownPorts.bindings, b ∈ o'.knownPorts.bindings := by
      intro b hb
      rcases hop.bindings_cases with hkept | ⟨_, _, _, hadded, -⟩
      · rwa [hkept]
      · rw [hadded]
        exact List.mem_append_left _ hb
    rcases hop.sourceClock_cases hid with hid | ⟨p, hp, rfl⟩
    · obtain ⟨number, hbound⟩ := h.selected id hid
      exact ⟨number, hgrows _ hbound⟩
    · exact ⟨p.number, hgrows _ (List.mem_map.mpr ⟨p, hp, rfl⟩)⟩

theorem held_start (config : SyncConfig) (clocks : Registry H S) (reference : Reference) :
    Held env (start config clocks reference) (start config clocks reference) where
  leads := .start
  source s hs := by cases hs
  port number id hbound := by cases hbound
  selected id hid := by cases hid

theorem Held.course {seen seen' : Unit} (hstart : Held env o₀ o₀)
    (h : Course env (fun _ => True) (fun _ => ()) seen o₀ seen' o) : Held env o₀ o := by
  induction h with
  | start => exact hstart
  | next _ hop ih => exact ih.next hop

/-- The clock of the selected source is there. -/
theorem Held.selected_live (h : Held env o₀ o) (hid : o.sourceClock = some id) :
    ∃ c, o.clocks.get? id = some c := by
  obtain ⟨number, hbound⟩ := h.selected id hid
  exact (h.port number id hbound).live

/-- Without ports no source is selected. -/
theorem Held.topology_ne_none (h : Held env o₀ o) (hid : o.sourceClock = some id) :
    o.topology ≠ none := by
  obtain ⟨number, hbound⟩ := h.selected id hid
  intro hnone
  rw [knownPorts, hnone] at hbound
  cases hbound

/-! ### Clocks that are looked up -/

theorem armSources_unknownClock {sources : List EdgeSource}
    (h : Returns (o.armSources env sources) m (.error (.unknownClock id)) m') :
    ∃ s ∈ sources, o.clocks.get? s.clock = none := by
  induction sources generalizing m with
  | nil => simp [armSources] at h
  | cons source sources ih =>
    unfold armSources at h
    split at h
    · next hnone => exact ⟨source, List.mem_cons_self, hnone⟩
    · simp only [returns_bind] at h
      obtain ⟨armed, m₁, -, h⟩ := h
      cases armed with
      | error e => simp at h
      | ok =>
        obtain ⟨s, hs, hnone⟩ := ih h
        exact ⟨s, List.mem_cons_of_mem _ hs, hnone⟩

/-- After any operations, each of which may have failed, on any registry:

    every source has the handle of the clock that answered to its name when it
    was added, every port that of the clock it was bound to, and the selected
    source is the clock of a port; each of these handles still denotes its
    clock.  Arming finds the clocks of all sources, and so does polling at any
    point that it comes to. -/
theorem held_handles {config : SyncConfig} {clocks : Registry H S} {reference : Reference}
    (h : Leads env (start config clocks reference) o) :
    (∀ s ∈ o.sources,
      GivenOut env (start config clocks reference) (AddsSource env s) s.clock o) ∧
    (∀ t, o.topology = some t → ∀ p ∈ t.ports,
      GivenOut env (start config clocks reference) (BindsPort env p.number p.clock) p.clock o) ∧
    (∀ id, o.sourceClock = some id → (∃ c, o.clocks.get? id = some c) ∧
      ∃ t, o.topology = some t ∧ ∃ p ∈ t.ports, p.clock = id) ∧
    (∀ m m' id, ¬Returns (o.arm env) m (.error (.unknownClock id)) m') ∧
    ∀ wait m samples o' p ready m', Polling env wait o m samples o' p ready m' →
      ∀ s ∈ o'.sources, ∃ c, o'.clocks.get? s.clock = some c := by
  have hheld := (held_start config clocks reference).course h
  have hport : ∀ t, o.topology = some t → ∀ p ∈ t.ports, GivenOut env
      (start config clocks reference) (BindsPort env p.number p.clock) p.clock o := by
    intro t ht p hp
    refine hheld.port p.number p.clock (List.mem_map.mpr ⟨p, ?_, rfl⟩)
    rwa [knownPorts, ht]
  refine ⟨hheld.source, hport, ?_, ?_, ?_⟩
  · intro id hid
    obtain ⟨number, hbound⟩ := hheld.selected id hid
    obtain ⟨p, hp, heq⟩ := List.mem_map.mp hbound
    obtain ⟨rfl, rfl⟩ := Prod.mk.inj heq
    cases ht : o.topology with
    | none =>
      rw [knownPorts, ht] at hp
      cases hp
    | some t =>
      rw [knownPorts, ht] at hp
      exact ⟨(hport t ht p hp).live, t, rfl, p, hp, rfl⟩
  · intro m m' id harm
    obtain ⟨s, hs, hnone⟩ := armSources_unknownClock harm
    obtain ⟨c, hc⟩ := (hheld.source s hs).live
    rw [hnone] at hc
    cases hc
  · intro wait m samples o' p ready m' hpoint s hs
    rw [sources_of_setup_eq hpoint.setup] at hs
    obtain ⟨c, hc⟩ := (hheld.source s hs).live
    obtain ⟨c', hc', -⟩ := setup_keeps hpoint.setup _ c hc
    exact ⟨c', hc'⟩

/-! ### A clock that is given up -/

/-- The second of these devices can not be set up as a source. -/
def faultyInput : Bench.World where
  devices := [{ name := "eth0" }, { name := "eth1", index := 1, failing := [.pinCount] },
    { name := "eth2", index := 2 }]

/-- Between two clocks that are put to use, one is opened and destroyed. -/
def giveUpOne : Action Bench.World (Orchestrator Nat Bench.Servo) := do
  let env := Bench.environment .prepared faultyInput
  let (_, o) ← (start {} .empty (.generic .zero)).addSource env { device := "eth0" }
  let (_, o) ← o.addSource env { device := "eth1" }
  let (_, o) ← o.addPort env 1 "eth2" .slave
  let (_, o) ← o.reconfigure
  return o

/-- Whether the second slot is empty, the clock in the first one has a source
    and that in the third one is selected. -/
def holdsTwo : Except Fault (Orchestrator Nat Bench.Servo) → Bool
  | .ok o => (o.clocks.get? ⟨1⟩).isNone && o.sources.any (·.clock == ⟨0⟩) &&
      o.sourceClock == some ⟨2⟩
  | .error _ => false

theorem leads_giveUpOne :
    ∃ o, Leads (Bench.environment .prepared faultyInput) (start {} .empty (.generic .zero)) o ∧
      holdsTwo (.ok o) = true := by
  have hcheck : holdsTwo (giveUpOne.outcome ⟨faultyInput, #[]⟩).1 = true := by decide +kernel
  cases hrun : (giveUpOne.outcome ⟨faultyInput, #[]⟩).1 with
  | error e =>
    rw [hrun] at hcheck
    cases hcheck
  | ok o =>
    rw [hrun] at hcheck
    refine ⟨o, ?_, hcheck⟩
    have hreturns := returns_of_outcome hrun
    simp only [giveUpOne, returns_bind, returns_pure] at hreturns
    obtain ⟨⟨_, o₁⟩, _, h₁, ⟨_, o₂⟩, _, h₂, ⟨_, o₃⟩, _, h₃, ⟨_, o₄⟩, _, h₄, rfl, -⟩ := hreturns
    have hstart : Leads (Bench.environment .prepared faultyInput)
        (start {} .empty (.generic .zero)) (start {} .empty (.generic .zero)) := .start
    exact (((hstart.next (.addSource h₁)).next (.addSource h₂)).next (.addPort h₃)).next
      (.reconfigure h₄)

/-- The clock that was destroyed leaves its handle behind, and nobody holds it. -/
theorem held_handles_giveUpOne :
    ∃ o, Leads (Bench.environment .prepared faultyInput) (start {} .empty (.generic .zero)) o ∧
      o.clocks.get? ⟨1⟩ = none ∧ (∃ s ∈ o.sources, s.clock = ⟨0⟩) ∧
      (∀ s ∈ o.sources, s.clock ≠ ⟨1⟩) ∧ ∃ c, o.clocks.get? ⟨2⟩ = some c := by
  obtain ⟨o, hleads, hcheck⟩ := leads_giveUpOne
  obtain ⟨hsource, -, hselected, -⟩ := held_handles hleads
  simp only [holdsTwo, Bool.and_eq_true, Option.isNone_iff_eq_none, List.any_eq_true,
    beq_iff_eq] at hcheck
  obtain ⟨⟨hempty, hheld⟩, hid⟩ := hcheck
  refine ⟨o, hleads, hempty, hheld, fun s hs heq => ?_, (hselected _ hid).1⟩
  obtain ⟨c, hc⟩ := (hsource s hs).live
  rw [heq, hempty] at hc
  cases hc

end Orchestrator

end ClockDiscipline
