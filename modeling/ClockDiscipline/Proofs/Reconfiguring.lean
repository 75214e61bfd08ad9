/-
  ClockDiscipline/Proofs/Reconfiguring.lean
  =========================================
  **What selecting the source anew does to each clock.**

  The flag of a destination is set where the selection says so and cleared
  for the source alone, `Clock.selected`; every clock takes part in this in
  its own slot.
-/
import ClockDiscipline.Proofs.Action
import ClockDiscipline.Proofs.Registry
import ClockDiscipline.Sync.Orchestrator

namespace ClockDiscipline

open ClockDiscipline.Action

variable {W H S ε : Type}

/-- A clock after the source has been selected. -/
def Clock.selected (t : Topology) (selection : Selection) (id : ClockId) (c : Clock H S) :
    Clock H S :=
  { c with
    portState := t.aggregate id
    isDestination := (c.isDestination || (selection.destinations?.getD []).contains id) &&
      decide (selection.source? ≠ some id) }

namespace Orchestrator

variable {o o' : Orchestrator H S} {m m' : Machine W}

theorem notePortStates_get? (o : Orchestrator H S) (t : Topology) (id : ClockId) :
    (o.notePortStates t).clocks.get? id =
      (o.clocks.get? id).map fun c => { c with portState := t.aggregate id } := by
  simp only [notePortStates, Registry.get?, List.getElem?_mapIdx]
  rcases o.clocks.slots[id.slot]? with _ | _ | c <;> rfl

theorem modifyClock_get? (o : Orchestrator H S) (id other : ClockId)
    (f : Clock H S → Clock H S) :
    (o.modifyClock id f).clocks.get? other =
      (o.clocks.get? other).map fun c => if other = id then f c else c := by
  rw [modifyClock, Registry.get?_modify]
  split <;> simp

theorem selectSource_get? (o : Orchestrator H S) (source : Option ClockId) (id : ClockId) :
    (o.selectSource source).clocks.get? id =
      (o.clocks.get? id).map fun c =>
        { c with isDestination := c.isDestination && decide (source ≠ some id) } := by
  cases source with
  | none => simp [selectSource]
  | some source =>
    simp only [selectSource, modifyClock_get?]
    congr 1
    funext c
    by_cases h : id = source
    · simp [h]
    · have hne : ¬source = id := fun heq => h heq.symm
      simp [h, hne]

theorem selectDestinations_get? {ids : List ClockId}
    (h : Returns (o.selectDestinations ids) m o' m') (id : ClockId) :
    o'.clocks.get? id = (o.clocks.get? id).map fun c =>
      { c with isDestination := c.isDestination || ids.contains id } := by
  induction ids generalizing o m with
  | nil =>
    simp only [selectDestinations, returns_pure] at h
    simp [h.1]
  | cons first ids ih =>
    unfold selectDestinations at h
    cases hc : o.clocks.get? first with
    | none =>
      simp only [hc] at h
      rw [ih h]
      cases hid : o.clocks.get? id with
      | none => rfl
      | some c =>
        have hne : id ≠ first := by
          rintro rfl
          rw [hc] at hid
          cases hid
        simp [hne]
    | some own =>
      simp only [hc] at h
      split at h
      · next hset =>
        rw [ih h]
        cases hid : o.clocks.get? id with
        | none => rfl
        | some c =>
          by_cases heq : id = first
          · subst heq
            obtain rfl : own = c := by simpa [hc] using hid
            simp [hset]
          · simp [heq]
      · simp only [returns_bind, returns_log] at h
        obtain ⟨_, _, -, h⟩ := h
        rw [ih h, modifyClock_get?, Option.map_map]
        congr 1
        funext c
        by_cases heq : id = first
        · simp [heq]
        · simp [heq]

/-- Nothing but clocks is touched. -/
theorem selectDestinations_eq {ids : List ClockId}
    (h : Returns (o.selectDestinations ids) m o' m') : o' = { o with clocks := o'.clocks } := by
  induction ids generalizing o m with
  | nil =>
    simp only [selectDestinations, returns_pure] at h
    rw [h.1]
  | cons first ids ih =>
    unfold selectDestinations at h
    split at h
    · exact ih h
    · split at h
      · exact ih h
      · simp only [returns_bind, returns_log] at h
        obtain ⟨_, _, -, h⟩ := h
        exact (ih h).trans rfl

theorem exists_selectDestinations (o : Orchestrator H S) (ids : List ClockId) (m : Machine W) :
    ∃ o' m', Returns (o.selectDestinations ids) m o' m' := by
  induction ids generalizing o m with
  | nil => exact ⟨o, m, rfl⟩
  | cons first ids ih =>
    unfold selectDestinations
    split
    · exact ih o m
    · split
      · exact ih o m
      · obtain ⟨o', m', h⟩ := ih (o.modifyClock first fun c => { c with isDestination := true }) _
        exact ⟨o', m', returns_bind.mpr ⟨(), _, returns_log.mpr rfl, h⟩⟩

theorem selectSource_eq (o : Orchestrator H S) (source : Option ClockId) :
    o.selectSource source =
      { o with clocks := (o.selectSource source).clocks, sourceClock := source } := by
  cases source <;> rfl

/-- What is noted before a selection is carried out. -/
def noteTopology (o : Orchestrator H S) (t : Topology) : Orchestrator H S :=
  ({ o with topology := some { t with changed := false } } : Orchestrator H S).notePortStates
    { t with changed := false }

/-- The source is selected anew exactly if the flag is set, from the states of
    the ports alone. -/
theorem reconfigure_ends {result : Option Selection}
    (h : Returns o.reconfigure m (result, o') m') :
    (result = none ∧ o' = o ∧ ∀ t, o.topology = some t → t.changed = false) ∨
    ∃ (t : Topology) (selection : Selection) (o₁ : Orchestrator H S) (m₁ m₂ : Machine W),
      o.topology = some t ∧ t.changed = true ∧ result = some selection ∧
      (select t.policy t.clockStates).1 = selection ∧
      Returns ((o.noteTopology t).selectDestinations (selection.destinations?.getD [])) m₁ o₁ m₂ ∧
      o' = o₁.selectSource selection.source? := by
  unfold reconfigure at h
  split at h
  · next htop =>
    simp only [returns_pure, Prod.mk.injEq] at h
    refine .inl ⟨h.1.1, h.1.2, ?_⟩
    rw [htop]
    intro t ht
    cases ht
  · next t htop =>
    split at h
    · next hchanged =>
      simp only [Topology.reconfigure, Topology.selectFrom, returns_bind, returns_log,
        returns_pure] at h
      obtain ⟨_, _, ⟨_, _, -, selection, _, ⟨_, _, -, rfl, -⟩, rfl, -⟩, o₁, _, hdest, h, -⟩ := h
      simp only [Prod.mk.injEq] at h
      obtain ⟨rfl, rfl⟩ := h
      exact .inr ⟨t, _, o₁, _, _, htop, hchanged, rfl, rfl, hdest, rfl⟩
    · next hclear =>
      simp only [returns_pure, Prod.mk.injEq] at h
      refine .inl ⟨h.1.1, h.1.2, ?_⟩
      rw [htop]
      intro t' ht'
      cases ht'
      exact Bool.eq_false_iff.mpr hclear

/-- Selecting the source anew always returns. -/
theorem exists_reconfigure (o : Orchestrator H S) (m : Machine W) :
    ∃ result o' m', Returns o.reconfigure m (result, o') m' := by
  unfold reconfigure
  split
  · exact ⟨none, o, m, rfl⟩
  · next t htop =>
    split
    · obtain ⟨o₁, m₁, hdest⟩ := exists_selectDestinations (o.noteTopology t)
        ((select t.policy t.clockStates).1.destinations?.getD []) _
      exact ⟨_, _, m₁, returns_bind.mpr ⟨(_, _), _, rfl, returns_bind.mpr ⟨o₁, m₁, hdest, rfl⟩⟩⟩
    · exact ⟨none, o, m, rfl⟩

theorem reconfigure_sources {selection : Option Selection}
    (h : Returns o.reconfigure m (selection, o') m') : o'.sources = o.sources := by
  rcases reconfigure_ends h with ⟨-, rfl, -⟩ | ⟨t, selection, o₁, _, _, -, -, -, -, hdest, rfl⟩
  · rfl
  · rw [selectSource_eq, selectDestinations_eq hdest]
    rfl

/-- Nothing happens unless a port state has changed; then every clock is put
    into the part that the selection gives it. -/
theorem reconfigure_cases {result : Option Selection}
    (h : Returns o.reconfigure m (result, o') m') :
    (result = none ∧ o' = o) ∨
    ∃ t selection, o.topology = some t ∧ result = some selection ∧
      (select t.policy t.clockStates).1 = selection ∧
      o'.topology = some { t with changed := false } ∧
      ∀ id, o'.clocks.get? id = (o.clocks.get? id).map (Clock.selected t selection id) := by
  rcases reconfigure_ends h with ⟨hnone, hsame, -⟩ |
    ⟨t, selection, o₁, _, _, htop, -, hsome, hselect, hdest, rfl⟩
  · exact .inl ⟨hnone, hsame⟩
  · refine .inr ⟨t, selection, htop, hsome, hselect, ?_, fun id => ?_⟩
    · rw [selectSource_eq, selectDestinations_eq hdest]
      rfl
    · rw [selectSource_get?, selectDestinations_get? hdest, noteTopology, notePortStates_get?]
      simp only [Option.map_map]
      rfl

end Orchestrator

end ClockDiscipline
