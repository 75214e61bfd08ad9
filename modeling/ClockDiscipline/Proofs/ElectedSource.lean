/-
  ClockDiscipline/Proofs/ElectedSource.lean
  =========================================
  **While a cycle waits, its source is the one that the ports elect.**

  The source is selected anew only if the flag of the ports is set.  `History`
  keeps all that was said about the ports meanwhile, whatever else happened,
  and `Current` is what holds after each step of it: the ports are those of
  the history, and a flag that is clear means that the source is, too.  So it
  makes no difference that a selection was skipped (`source_of_history`).
-/
import ClockDiscipline.Proofs.DestinationFlag
import ClockDiscipline.Proofs.Polling
import ClockDiscipline.Proofs.PortHistory

namespace ClockDiscipline

open ClockDiscipline.Action
open PortEvent (boundClock? electedSource)

variable {W H S ε : Type} {env : Environment W H S ε}

namespace Orchestrator

variable {o o' : Orchestrator H S} {m m' : Machine W} {config : SyncConfig}
  {events : List PortEvent} {number : UInt16} {state : PortState}

/-- All that was said about the ports of an orchestrator since its start.  A
    call that returned may have had any result, and the world may have changed
    in any way before it. -/
inductive History (env : Environment W H S ε) (config : SyncConfig) :
    List PortEvent → Orchestrator H S → Prop where
  | start (clocks : Registry H S) (reference : Reference) :
      History env config [] (start config clocks reference)
  | addPort {events : List PortEvent} {o o' : Orchestrator H S} {m m' : Machine W}
      {number : UInt16} {device : String} {state : PortState} {id : ClockId} :
      History env config events o →
      Returns (o.addPort env number device state) m (.ok id, o') m' →
      History env config (events ++ [⟨number, state, some id⟩]) o'
  | addPortRefused {events : List PortEvent} {o o' : Orchestrator H S} {m m' : Machine W}
      {number : UInt16} {device : String} {state : PortState} {e : SyncError ε} :
      History env config events o →
      Returns (o.addPort env number device state) m (.error e, o') m' →
      History env config events o'
  | portStateChanged {events : List PortEvent} {o o' : Orchestrator H S} {m m' : Machine W}
      {number : UInt16} {state : PortState} {known : Bool} :
      History env config events o →
      Returns (o.portStateChanged number state) m (known, o') m' →
      History env config (events ++ [⟨number, state, none⟩]) o'
  | openClock {events : List PortEvent} {o o' : Orchestrator H S} {m m' : Machine W}
      {name : String} {result : Except (SyncError ε) ClockId} :
      History env config events o → Returns (o.openClock env name) m (result, o') m' →
      History env config events o'
  | addSource {events : List PortEvent} {o o' : Orchestrator H S} {m m' : Machine W}
      {source : SourceConfig} {result : Except (SyncError ε) ClockId} :
      History env config events o → Returns (o.addSource env source) m (result, o') m' →
      History env config events o'
  | reconfigure {events : List PortEvent} {o o' : Orchestrator H S} {m m' : Machine W}
      {result : Option Selection} :
      History env config events o → Returns o.reconfigure m (result, o') m' →
      History env config events o'
  | runCycle {events : List PortEvent} {o o' : Orchestrator H S} {m m' : Machine W}
      {wait : Waiter W ε} {result : Except (SyncError ε) (List ClockReport)} :
      History env config events o → Returns (o.runCycle env wait) m (result, o') m' →
      History env config events o'

/-! ### What holds after each step -/

/-- The ports, of which there are none at first. -/
def knownPorts (o : Orchestrator H S) : Topology :=
  o.topology.getD (.empty o.config.fallback)

/-- The ports are those of the history, and as long as their flag is clear the
    source is the elected one. -/
structure Current (config : SyncConfig) (events : List PortEvent) (o : Orchestrator H S) :
    Prop where
  sameConfig : o.config = config
  policy : o.knownPorts.policy = config.fallback
  follows : o.knownPorts.Follows events
  source : o.knownPorts.changed = false → o.sourceClock = electedSource config.fallback events

theorem Undisturbed.knownPorts (h : o.Undisturbed o') : o'.knownPorts = o.knownPorts := by
  rw [Orchestrator.knownPorts, h.topology, h.config]
  rfl

theorem undisturbed_of_setup_eq (h : o'.setup = o.setup) : o.Undisturbed o' :=
  ⟨config_of_setup_eq h, topology_of_setup_eq h, sourceClock_of_setup_eq h⟩

theorem current_start (config : SyncConfig) (clocks : Registry H S) (reference : Reference) :
    Current config [] (start config clocks reference) where
  sameConfig := rfl
  policy := rfl
  follows := rfl
  source _ := by cases config.fallback <;> rfl

theorem Current.undisturbed (h : Current config events o) (hsame : o.Undisturbed o') :
    Current config events o' where
  sameConfig := hsame.config.trans h.sameConfig
  policy := hsame.knownPorts ▸ h.policy
  follows := hsame.knownPorts ▸ h.follows
  source hclear := hsame.sourceClock.trans (h.source (hsame.knownPorts ▸ hclear))

/-- Ports that stay as they are elect the same source, whatever was said about
    them. -/
theorem Current.noted {e : PortEvent} (h : Current config events o)
    (hnoted : o.knownPorts.Noted o'.knownPorts (events ++ [e])) (hconfig : o'.config = o.config)
    (hsource : o'.sourceClock = o.sourceClock) : Current config (events ++ [e]) o' where
  sameConfig := hconfig.trans h.sameConfig
  policy := hnoted.policy.trans h.policy
  follows := hnoted.follows
  source hclear := by
    have hsame := hnoted.clear hclear
    have hfollows := hnoted.follows
    rw [hsame] at hclear hfollows
    rw [hsource, h.source hclear, ← h.policy, ← source?_select_of_history h.follows,
      source?_select_of_history hfollows]

theorem knownPorts_portStateChanged {known : Bool}
    (h : Returns (o.portStateChanged number state) m (known, o') m') :
    Returns (o.knownPorts.portStateChanged number state) m (known, o'.knownPorts) m' ∧
      o'.config = o.config ∧ o'.sourceClock = o.sourceClock := by
  unfold portStateChanged at h
  split at h
  · next htop =>
    simp only [returns_pure, Prod.mk.injEq] at h
    obtain ⟨⟨rfl, rfl⟩, rfl⟩ := h
    refine ⟨?_, rfl, rfl⟩
    rw [knownPorts, htop]
    rfl
  · next t htop =>
    simp only [returns_bind, returns_pure, Prod.mk.injEq] at h
    obtain ⟨⟨known, t'⟩, m₁, hchanged, ⟨rfl, rfl⟩, rfl⟩ := h
    refine ⟨?_, rfl, rfl⟩
    rw [knownPorts, htop]
    exact hchanged

theorem Current.portStateChanged {known : Bool} (h : Current config events o)
    (hreturns : Returns (o.portStateChanged number state) m (known, o') m') :
    Current config (events ++ [⟨number, state, none⟩]) o' := by
  obtain ⟨hports, hconfig, hsource⟩ := knownPorts_portStateChanged hreturns
  exact h.noted (h.follows.portStateChanged hports) hconfig hsource

theorem Current.portStateChanged_of_unbound (h : Current config events o)
    (hunbound : boundClock? events number = none) (state : PortState) (m : Machine W) :
    Returns (o.portStateChanged number state) m (false, o) m := by
  have hfollows := h.follows
  unfold Orchestrator.portStateChanged
  cases htop : o.topology with
  | none => rfl
  | some t =>
    rw [knownPorts, htop, Option.getD_some] at hfollows
    have hsame : ({ o with topology := some t } : Orchestrator H S) = o := by rw [← htop]
    have hreport := hfollows.portStateChanged_of_unbound hunbound state m
    exact returns_bind.mpr ⟨(false, t), m, hreport, returns_pure.mpr ⟨by rw [hsame], rfl⟩⟩

/-- Binding a port opens a clock first, and then it is left to the ports. -/
theorem addPort_cases {device : String} {result : Except (SyncError ε) ClockId}
    (h : Returns (o.addPort env number device state) m (result, o') m') :
    ∃ o₁ m₁, Returns (o.openClock env device) m (result, o₁) m₁ ∧
      ((∃ e, result = .error e ∧ o' = o₁ ∧ m' = m₁) ∨
        ∃ id t, result = .ok id ∧
          Returns ((o₁.topology.getD (.empty o₁.config.fallback)).addPort number id state) m₁ t m' ∧
          o' = { o₁ with topology := some t }) := by
  simp only [addPort, returns_bind] at h
  obtain ⟨⟨opened, o₁⟩, m₁, hopen, h⟩ := h
  cases opened with
  | error e =>
    simp only [returns_pure, Prod.mk.injEq] at h
    obtain ⟨⟨rfl, rfl⟩, rfl⟩ := h
    exact ⟨_, _, hopen, .inl ⟨e, rfl, rfl, rfl⟩⟩
  | ok id =>
    simp only [returns_bind, returns_pure, Prod.mk.injEq] at h
    obtain ⟨t, m₂, hadd, ⟨rfl, rfl⟩, rfl⟩ := h
    exact ⟨o₁, m₁, hopen, .inr ⟨id, t, rfl, hadd, rfl⟩⟩

theorem Current.addPort {device : String} {id : ClockId} (h : Current config events o)
    (hreturns : Returns (o.addPort env number device state) m (.ok id, o') m') :
    Current config (events ++ [⟨number, state, some id⟩]) o' := by
  obtain ⟨o₁, m₁, hopen, ⟨e, he, -⟩ | ⟨id', t, hid, hadd, rfl⟩⟩ := addPort_cases hreturns
  · cases he
  · cases hid
    have hopened := h.undisturbed (openClock_ids hopen).1
    exact hopened.noted (hopened.follows.addPort hadd) rfl rfl

theorem Current.addPortRefused {device : String} {e : SyncError ε} (h : Current config events o)
    (hreturns : Returns (o.addPort env number device state) m (.error e, o') m') :
    Current config events o' := by
  obtain ⟨o₁, m₁, hopen, ⟨e', -, rfl, -⟩ | ⟨id, t, hid, -⟩⟩ := addPort_cases hreturns
  · exact h.undisturbed (openClock_ids hopen).1
  · cases hid

/-- After a selection the flag is clear, so that the source is the elected
    one. -/
theorem Current.reconfigure {result : Option Selection} (h : Current config events o)
    (hreturns : Returns o.reconfigure m (result, o') m') :
    Current config events o' ∧ o'.sourceClock = electedSource config.fallback events := by
  rcases reconfigure_ends hreturns with ⟨-, rfl, hclear⟩ |
    ⟨t, selection, o₁, m₁, m₂, htop, -, -, hselect, hdest, rfl⟩
  · refine ⟨h, h.source ?_⟩
    rw [knownPorts]
    cases htop : o'.topology with
    | none => rfl
    | some t => exact hclear t htop
  · have hports : o.knownPorts = t := by rw [knownPorts, htop, Option.getD_some]
    have hpolicy := h.policy
    have hfollows := h.follows
    rw [hports] at hpolicy hfollows
    have hsource : selection.source? = electedSource config.fallback events := by
      rw [← hselect, source?_select_of_history hfollows, hpolicy]
    rw [selectSource_eq, selectDestinations_eq hdest]
    exact ⟨⟨h.sameConfig, hpolicy, hfollows, fun _ => hsource⟩, hsource⟩

theorem History.current (h : History env config events o) : Current config events o := by
  induction h with
  | start clocks reference => exact current_start config clocks reference
  | addPort _ hreturns ih => exact ih.addPort hreturns
  | addPortRefused _ hreturns ih => exact ih.addPortRefused hreturns
  | portStateChanged _ hreturns ih => exact ih.portStateChanged hreturns
  | openClock _ hreturns ih => exact ih.undisturbed (openClock_ids hreturns).1
  | addSource _ hreturns ih => exact ih.undisturbed (addSource_keeps hreturns).1
  | reconfigure _ hreturns ih => exact (ih.reconfigure hreturns).1
  | runCycle _ hreturns ih =>
    obtain ⟨selection, o₁, m₁, hselect, hsame⟩ := runCycle_setup hreturns
    exact (ih.reconfigure hselect).1.undisturbed (undisturbed_of_setup_eq hsame)

/-! ### The wait of a cycle -/

/-- What a cycle does once it has polled. -/
def conclude (env : Environment W H S ε) :
    Except (SyncError ε) PollOutcome × Orchestrator H S →
      Action W (Except (SyncError ε) (List ClockReport) × Orchestrator H S)
  | (.error e, o) => return (.error e, o)
  | (.ok .collected, o) => do
    let (result, o) ← o.collectReference env
    match result with
    | .error e => return (.error e, o)
    | .ok () =>
      let (reports, o) ← o.synchronize env
      return (.ok reports, o)
  | (.ok .ambiguous, o) | (.ok .timeout, o) => return (.ok [], o)

/-- A cycle goes on from the selection with its wait. -/
theorem outcome_runCycle {wait : Waiter W ε} {selection : Option Selection}
    (h : Returns o.reconfigure m (selection, o') m') :
    (o.runCycle env wait).outcome m =
      (o'.flushTimestamps.poll env wait >>= conclude env).outcome m' := by
  unfold runCycle
  rw [h.outcome_bind]
  dsimp only
  congr 1
  refine bind_congr fun polled => ?_
  rcases polled with ⟨e | (_ | _ | _), o₁⟩ <;> rfl

theorem Polling.setup {wait : Waiter W ε} {o₀ : Orchestrator H S} {m₀ : Machine W}
    {samples : List Sample} {p : Progress} {ready : List Nat}
    (h : Polling env wait o₀ m₀ samples o p ready m) : o.setup = o₀.setup := by
  induction h with
  | start => rfl
  | answered _ _ _ _ ih => exact ih
  | kept _ hsource haccepts ih =>
    exact (handleReady_setup (handleReady_of_accepts (p := p) hsource haccepts)).trans ih
  | passed _ _ hrun ih => exact (handleReady_setup hrun).trans ih

/-- Whatever was said about the ports, each cycle comes to its wait, with the
    source that all of it elects, and keeps it as long as it waits.  What is
    said about a port that was never bound changes nothing. -/
theorem source_of_history (h : History env config events o) :
    (∀ m, ∃ selection o₁ m₁, Returns o.reconfigure m (selection, o₁) m₁ ∧
      ∀ wait, (o.runCycle env wait).outcome m =
          (o₁.flushTimestamps.poll env wait >>= conclude env).outcome m₁ ∧
        ∀ samples o₂ p ready m₂,
          Polling env wait o₁.flushTimestamps m₁ samples o₂ p ready m₂ →
          o₂.sourceClock = electedSource config.fallback events) ∧
    ∀ number state (m : Machine W), boundClock? events number = none →
      Returns (o.portStateChanged number state) m (false, o) m := by
  have hcurrent := h.current
  constructor
  · intro m
    obtain ⟨selection, o₁, m₁, hselect⟩ := exists_reconfigure o m
    obtain ⟨-, hsource⟩ := hcurrent.reconfigure hselect
    refine ⟨selection, o₁, m₁, hselect, fun wait => ⟨outcome_runCycle hselect, ?_⟩⟩
    intro samples o₂ p ready m₂ hpolling
    have hsame := hpolling.setup.trans (setup_flushTimestamps o₁)
    exact (sourceClock_of_setup_eq hsame).trans hsource
  · intro number state m hunbound
    exact hcurrent.portStateChanged_of_unbound hunbound state m

/-! ### A selection that is skipped -/

/-- The port of the first clock is a master and the second one a slave.  After
    a cycle that waits in vain the first is a master once more. -/
def reportAgain : Action Bench.World
    (Except (SyncError Bench.Failure) ClockId × Except (SyncError Bench.Failure) ClockId ×
      Orchestrator Nat Bench.Servo) := do
  let env := Bench.environment .prepared noDevices.world
  let (first, o) ← twoPorts.addPort env 1 "eth0" .master
  let (second, o) ← o.addPort env 2 "eth1" .slave
  let (_, o) ← o.runCycle env fun _ => pure (.ok [])
  let (_, o) ← o.portStateChanged 1 .master
  return (first, second, o)

/-- What was said about the two ports. -/
def saidAgain : List PortEvent :=
  [⟨1, .master, some ⟨0⟩⟩, ⟨2, .slave, some ⟨1⟩⟩, ⟨1, .master, none⟩]

/-- Whether the ports were bound to these clocks and nothing is to be selected
    anew. -/
def bindsAndRests : Except Fault
    (Except (SyncError Bench.Failure) ClockId × Except (SyncError Bench.Failure) ClockId ×
      Orchestrator Nat Bench.Servo) → Bool
  | .ok (.ok ⟨0⟩, .ok ⟨1⟩, o) => !o.knownPorts.changed
  | _ => false

theorem history_reportAgain :
    ∃ o, History (Bench.environment .prepared noDevices.world) {} saidAgain o ∧
      o.knownPorts.changed = false := by
  have hcheck : bindsAndRests (reportAgain.outcome noDevices).1 = true := by decide +kernel
  unfold bindsAndRests at hcheck
  split at hcheck
  · next o hrun =>
    have hreturns := returns_of_outcome hrun
    simp only [reportAgain, returns_bind, returns_pure, Prod.mk.injEq] at hreturns
    obtain ⟨⟨first, o₁⟩, _, h₁, ⟨second, o₂⟩, _, h₂, ⟨_, o₃⟩, _, h₃, ⟨_, o₄⟩, _, h₄,
      ⟨rfl, rfl, rfl⟩, -⟩ := hreturns
    have hbound := ((History.start _ _).addPort h₁).addPort h₂
    exact ⟨o, (hbound.runCycle h₃).portStateChanged h₄, by simpa using hcheck⟩
  · cases hcheck

/-- The flag is clear, and the source is still the slave. -/
theorem source_of_history_reportAgain :
    ∃ o, History (Bench.environment .prepared noDevices.world) {} saidAgain o ∧
      o.knownPorts.changed = false ∧
      (∀ m : Machine Bench.World, ∃ selection o₁ m₁, Returns o.reconfigure m (selection, o₁) m₁ ∧
        o₁.flushTimestamps.sourceClock = some ⟨1⟩) ∧
      ∀ m : Machine Bench.World, Returns (o.portStateChanged 3 .slave) m (false, o) m := by
  obtain ⟨o, hhistory, hclear⟩ := history_reportAgain
  obtain ⟨hcycle, hunbound⟩ := source_of_history hhistory
  refine ⟨o, hhistory, hclear, ?_, fun m => hunbound 3 .slave m (by decide)⟩
  intro m
  obtain ⟨selection, o₁, m₁, hselect, hwaits⟩ := hcycle m
  obtain ⟨-, hsource⟩ := hwaits fun _ => pure (.ok [])
  have helected : electedSource .lastDestination saidAgain = some ⟨1⟩ := by decide
  exact ⟨selection, o₁, m₁, hselect, (hsource _ _ _ _ _ .start).trans helected⟩

end Orchestrator

end ClockDiscipline
