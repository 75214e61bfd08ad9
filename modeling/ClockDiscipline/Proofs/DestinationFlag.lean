/-
  ClockDiscipline/Proofs/DestinationFlag.lean
  ===========================================
  **Whether a clock with ports is corrected after the source was selected.**

  Right after a selection that decides on destinations, the flag of a clock
  with ports agrees with the selection, with one exception.  A clock whose
  ports are all disabled is in neither part of the selection, and what flag it
  had before it keeps (`destination_flag_iff`).
-/
import ClockDiscipline.Bench.Environment
import ClockDiscipline.Proofs.Reachable
import ClockDiscipline.Proofs.Selection

namespace ClockDiscipline

open ClockDiscipline.Action

variable {W H S ε : Type} {env : Environment W H S ε}

namespace Orchestrator

variable {o o' : Orchestrator H S} {m m' : Machine W} {selection : Selection}
  {destinations : List ClockId} {t : Topology} {id : ClockId}

/-- The flag after a selection, by the states of the ports. -/
theorem selected_isDestination {c : Clock H S}
    (hselect : (select t.policy t.clockStates).1 = selection)
    (hdest : selection.destinations? = some destinations) (hbound : ∃ p ∈ t.ports, p.clock = id) :
    (t.AllDisabled id → (id ∉ destinations ∧
      (c.selected t selection id).isDestination = c.isDestination)) ∧
    (¬t.AllDisabled id →
      ((c.selected t selection id).isDestination = true ↔ id ∈ destinations)) := by
  obtain ⟨state, hstate⟩ := Topology.aggregate_isSome_iff.mpr hbound
  have hclock := Topology.mem_clockStates.mpr hstate
  have hmem := mem_destinations_iff t.nodup_clockStates hselect hdest hclock
  have henabled := source_enabled t.nodup_clockStates hselect hdest hclock
  rw [ne_eq, Topology.aggregate_disabled_iff hstate] at hmem henabled
  simp only [Clock.selected, hdest, Option.getD_some]
  constructor
  · intro hdisabled
    have hsource : selection.source? ≠ some id := fun hsource => henabled hsource hdisabled
    have hother : id ∉ destinations := fun hin => (hmem.mp hin).1 hdisabled
    exact ⟨hother, by simp [hsource, hother]⟩
  · intro hdisabled
    rw [hmem]
    by_cases hsource : selection.source? = some id
    · simp [hsource]
    · have hin : id ∈ destinations := hmem.mpr ⟨hdisabled, hsource⟩
      simp [hsource, hin, hdisabled]

/-- In every reachable state, right after a selection of a source or of one
    that stands in, a clock with ports is a destination exactly if it has been
    selected as one, unless all its ports are disabled and it was a destination
    before. -/
theorem destination_flag_iff (hreach : Reachable env o)
    (h : Returns o.reconfigure m (some selection, o') m')
    (hdest : selection.destinations? = some destinations) (htop : o'.topology = some t)
    (hbound : ∃ p ∈ t.ports, p.clock = id) :
    ∃ c c', o.clocks.get? id = some c ∧ o'.clocks.get? id = some c' ∧
      ((c'.isDestination = true ↔ id ∈ destinations) ↔
        ¬(t.AllDisabled id ∧ c.isDestination = true)) := by
  rcases reconfigure_cases h with ⟨hnone, -⟩ | ⟨t₀, selected, ht₀, hsome, hselect, htop', hclocks⟩
  · cases hnone
  · cases hsome
    obtain rfl : { t₀ with changed := false } = t := Option.some.inj (htop'.symm.trans htop)
    obtain ⟨p, hp, rfl⟩ := hbound
    obtain ⟨c, hc⟩ := Registry.mem_ids.mp (hreach.portsLive t₀ ht₀ p hp)
    refine ⟨c, c.selected t₀ selection p.clock, hc, by rw [hclocks, hc, Option.map_some], ?_⟩
    obtain ⟨hdisabled, henabled⟩ := selected_isDestination (c := c) hselect hdest ⟨p, hp, rfl⟩
    by_cases hall : t₀.AllDisabled p.clock
    · obtain ⟨hother, hkept⟩ := hdisabled hall
      have hall' : Topology.AllDisabled { t₀ with changed := false } p.clock := hall
      simp [hkept, hother, hall']
    · have hall' : ¬Topology.AllDisabled { t₀ with changed := false } p.clock := hall
      simp [henabled hall, hall']

/-! ### A destination that loses its port -/

def twoPorts : Orchestrator Nat Bench.Servo :=
  start {} ⟨[some (.opened "eth0" 0 0 .prepared), some (.opened "eth1" 1 1 .prepared)]⟩
    (.generic .zero)

def noDevices : Machine Bench.World := ⟨{ devices := [] }, #[]⟩

/-- The port of the first clock is a master and the second one a slave, so
    that the first clock becomes a destination.  Then its port is disabled. -/
def losePort : Action Bench.World (Orchestrator Nat Bench.Servo) := do
  let env := Bench.environment .prepared noDevices.world
  let (_, o) ← twoPorts.addPort env 1 "eth0" .master
  let (_, o) ← o.addPort env 2 "eth1" .slave
  let (_, o) ← o.reconfigure
  let (_, o) ← o.portStateChanged 1 .disabled
  return o

theorem losePort_reachable {o : Orchestrator Nat Bench.Servo} {m m' : Machine Bench.World}
    (h : Returns losePort m o m') : Reachable (Bench.environment .prepared noDevices.world) o := by
  simp only [losePort, returns_bind, returns_pure] at h
  obtain ⟨⟨_, o₁⟩, _, h₁, ⟨_, o₂⟩, _, h₂, ⟨_, o₃⟩, _, h₃, ⟨_, o₄⟩, _, h₄, rfl, -⟩ := h
  exact .step (.step (.step (.step (.start _ _ _) (.addPort h₁)) (.addPort h₂)) (.reconfigure h₃))
    (.portStateChanged h₄)

/-- Whether a selection of a source and of no destinations has left the first
    clock a destination. -/
def keepsDestination : Except Fault (Option Selection × Orchestrator Nat Bench.Servo) → Bool
  | .ok (some (.source _ []), o) => (o.clocks.get? ⟨0⟩).any (·.isDestination) &&
      o.topology.any fun t => t.ports.any (·.clock == ⟨0⟩)
  | _ => false

/-- After the next selection the first clock is still a destination, although
    none has been selected. -/
theorem losePort_keeps_destination :
    ∃ o m₁ o' m₂ source t c', Returns losePort noDevices o m₁ ∧
      Returns o.reconfigure m₁ (some (.source source []), o') m₂ ∧ o'.topology = some t ∧
      (∃ p ∈ t.ports, p.clock = ⟨0⟩) ∧ o'.clocks.get? ⟨0⟩ = some c' ∧
      c'.isDestination = true := by
  have h : keepsDestination ((losePort >>= reconfigure).outcome noDevices).1 = true := by
    decide +kernel
  unfold keepsDestination at h
  split at h
  · next source o' hrun =>
    obtain ⟨o, m₁, hlose, hselect⟩ := returns_bind.mp (returns_of_outcome hrun)
    rw [Bool.and_eq_true, Option.any_eq_true, Option.any_eq_true] at h
    obtain ⟨⟨c', hclock, hset⟩, t, htop, hbound⟩ := h
    exact ⟨o, m₁, o', _, source, t, c', hlose, hselect, htop, by simpa using hbound, hclock, hset⟩
  · cases h

/-- It is not so that in every reachable state a selection leaves the flag with
    exactly those clocks with ports that it has made destinations. -/
theorem not_forall_destination_flag :
    ¬ ∀ (env : Environment Bench.World Nat Bench.Servo Bench.Failure)
      (o o' : Orchestrator Nat Bench.Servo) (m m' : Machine Bench.World) (selection : Selection)
      (destinations : List ClockId) (t : Topology) (id : ClockId) (c' : Clock Nat Bench.Servo),
      Reachable env o → Returns o.reconfigure m (some selection, o') m' →
      selection.destinations? = some destinations → o'.topology = some t →
      (∃ p ∈ t.ports, p.clock = id) → o'.clocks.get? id = some c' →
      (c'.isDestination = true ↔ id ∈ destinations) := by
  intro hflag
  obtain ⟨o, m₁, o', m₂, source, t, c', hlose, hselect, htop, hbound, hclock, hset⟩ :=
    losePort_keeps_destination
  have hiff := hflag _ _ _ _ _ _ _ _ _ _ (losePort_reachable hlose) hselect rfl htop hbound hclock
  exact List.not_mem_nil (hiff.mp hset)

theorem destination_flag_iff_losePort :
    ∃ (o o' : Orchestrator Nat Bench.Servo) (m₁ m₂ : Machine Bench.World) (source : ClockId)
      (t : Topology),
      Reachable (Bench.environment .prepared noDevices.world) o ∧
      Returns o.reconfigure m₁ (some (.source source []), o') m₂ ∧
      (Selection.source source []).destinations? = some [] ∧ o'.topology = some t ∧
      (∃ p ∈ t.ports, p.clock = ⟨0⟩) ∧
      t.AllDisabled ⟨0⟩ ∧ ∃ c, o.clocks.get? ⟨0⟩ = some c ∧ c.isDestination = true := by
  obtain ⟨o, m₁, o', m₂, source, t, c', hlose, hselect, htop, hbound, hclock, hset⟩ :=
    losePort_keeps_destination
  have hreach := losePort_reachable hlose
  obtain ⟨c, c₁, hc, hc₁, hiff⟩ := destination_flag_iff hreach hselect rfl htop hbound
  obtain rfl : c₁ = c' := Option.some.inj (hc₁.symm.trans hclock)
  have hexception : t.AllDisabled ⟨0⟩ ∧ c.isDestination = true := by
    refine Classical.byContradiction fun hnot => ?_
    exact List.not_mem_nil ((hiff.mpr hnot).mp hset)
  exact ⟨o, o', m₁, m₂, source, t, hreach, hselect, rfl, htop, hbound, hexception.1, c, hc,
    hexception.2⟩

end Orchestrator

end ClockDiscipline
