/-
  ClockDiscipline/Proofs/Registry.lean
  ====================================
  **The registry as a map from handles to clocks.**

  Everything that is done to a registry is known by what it does to
  `Registry.get?`.  A cycle works on the servo of a clock, on its timestamp
  and on what was last measured; the rest, `Clock.part`, says what the clock
  is and which part it has.  `Registry.parts` collects it over all slots, so
  that "the same clocks in the same parts" is an equation.
-/
import ClockDiscipline.Clock.Registry
import ClockDiscipline.Proofs.Action

namespace ClockDiscipline

open ClockDiscipline.Action

variable {W H S ε : Type}

/-! ### What a cycle does not change -/

/-- What a clock is, and its part in the synchronization. -/
structure ClockPart (H : Type) where
  name : String
  index : UInt32
  handle : H
  portState : Option PortState
  isDestination : Bool
  freeRunning : Bool

def Clock.part (c : Clock H S) : ClockPart H where
  name := c.name
  index := c.index
  handle := c.handle
  portState := c.portState
  isDestination := c.isDestination
  freeRunning := c.freeRunning

@[simp] theorem Clock.part_flushTimestamp (c : Clock H S) : c.flushTimestamp.part = c.part := rfl

namespace Registry

/-- The parts of the clocks, slot by slot. -/
def parts (r : Registry H S) : List (Option (ClockPart H)) := r.slots.map (Option.map Clock.part)

/-! ### Looking a clock up -/

theorem get?_modify (r : Registry H S) (id other : ClockId) (f : Clock H S → Clock H S) :
    (r.modify id f).get? other = if other = id then (r.get? other).map f else r.get? other := by
  obtain ⟨slot⟩ := id
  obtain ⟨otherSlot⟩ := other
  simp only [get?, modify, List.getElem?_modify, ClockId.mk.injEq]
  by_cases h : slot = otherSlot
  · subst h
    rcases r.slots[slot]? with _ | _ | c <;> simp
  · have h' : ¬otherSlot = slot := fun heq => h heq.symm
    simp [h, h']

theorem get?_set_self {r : Registry H S} {id : ClockId} {old : Clock H S} (c : Clock H S)
    (h : r.get? id = some old) : (r.set id c).get? id = some c := by
  simp [set, get?_modify, h]

theorem get?_set_of_ne {r : Registry H S} {id other : ClockId} (c : Clock H S) (h : other ≠ id) :
    (r.set id c).get? other = r.get? other := by
  simp [set, get?_modify, h]

theorem get?_map (r : Registry H S) (f : Clock H S → Clock H S) (id : ClockId) :
    (r.map f).get? id = (r.get? id).map f := by
  simp only [get?, map, List.getElem?_map]
  rcases r.slots[id.slot]? with _ | _ | c <;> rfl

theorem get?_push {r : Registry H S} {id : ClockId} (c : Clock H S) :
    (r.push c).2.get? id = if id = (r.push c).1 then some c else r.get? id := by
  obtain ⟨slot⟩ := id
  simp only [push, get?, ClockId.mk.injEq]
  rcases Nat.lt_trichotomy slot r.slots.length with hlt | heq | hgt
  · rw [List.getElem?_append_left hlt, if_neg (Nat.ne_of_lt hlt)]
  · simp [heq]
  · have hbeyond : (r.slots ++ [some c])[slot]? = none := by
      rw [List.getElem?_eq_none_iff, List.length_append]
      exact hgt
    have hnone : r.slots[slot]? = none := List.getElem?_eq_none (Nat.le_of_lt hgt)
    rw [hbeyond, hnone, if_neg (Nat.ne_of_gt hgt)]

theorem slot_lt_of_get? {r : Registry H S} {id : ClockId} {c : Clock H S}
    (h : r.get? id = some c) : id.slot < r.slots.length := by
  refine Nat.lt_of_not_le fun hle => ?_
  simp [get?, hle] at h

/-! ### The handles in use -/

theorem mem_entries {r : Registry H S} {id : ClockId} {c : Clock H S} :
    (id, c) ∈ r.entries ↔ r.get? id = some c := by
  obtain ⟨slot⟩ := id
  simp only [entries, List.mem_filterMap, Prod.exists, get?, Option.join_eq_some_iff,
    Option.map_eq_some_iff, Prod.mk.injEq, ClockId.mk.injEq]
  constructor
  · rintro ⟨o, i, hmem, c', rfl, rfl, rfl⟩
    exact List.mk_mem_zipIdx_iff_getElem?.mp hmem
  · intro h
    exact ⟨some c, slot, List.mk_mem_zipIdx_iff_getElem?.mpr h, c, rfl, rfl, rfl⟩

theorem mem_ids {r : Registry H S} {id : ClockId} : id ∈ r.ids ↔ ∃ c, r.get? id = some c := by
  simp only [ids, List.mem_map, Prod.exists, exists_and_right, exists_eq_right]
  exact exists_congr fun c => mem_entries

/-- Handles are listed in the order of their slots. -/
theorem pairwise_ids (r : Registry H S) :
    r.ids.Pairwise fun earlier later => earlier.slot < later.slot := by
  have hslots : r.slots.zipIdx.Pairwise fun a b => a.2 < b.2 := by
    rw [← List.pairwise_map (f := Prod.snd)]
    simpa [List.zipIdx_map_snd] using List.pairwise_lt_range' (s := 0) (n := r.slots.length)
  rw [ids, entries, List.map_filterMap]
  refine hslots.filterMap _ ?_
  rintro ⟨o, i⟩ ⟨o', j⟩ hlt id hid id' hid'
  simp only [Option.map_map, Option.map_eq_some_iff, Function.comp_apply] at hid hid'
  obtain ⟨_, -, rfl⟩ := hid
  obtain ⟨_, -, rfl⟩ := hid'
  exact hlt

theorem nodup_ids (r : Registry H S) : r.ids.Nodup := by
  refine r.pairwise_ids.imp ?_
  intro earlier later hlt heq
  rw [heq] at hlt
  exact Nat.lt_irrefl _ hlt

theorem ids_eq_of_isSome (r : Registry H S) :
    r.ids = (r.slots.map Option.isSome).zipIdx.filterMap fun (used, i) =>
      if used then some ⟨i⟩ else none := by
  simp only [ids, entries, List.map_filterMap, List.zipIdx_map, List.filterMap_map]
  congr 1
  funext ⟨o, i⟩
  cases o <;> rfl

/-- The handles in use depend only on which slots are filled. -/
theorem ids_of_isSome_eq {r r' : Registry H S}
    (h : r'.slots.map Option.isSome = r.slots.map Option.isSome) : r'.ids = r.ids := by
  rw [ids_eq_of_isSome, ids_eq_of_isSome, h]

theorem size_eq (r : Registry H S) : r.size = r.ids.length := (List.length_map _).symm

@[simp] theorem ids_modify (r : Registry H S) (id : ClockId) (f : Clock H S → Clock H S) :
    (r.modify id f).ids = r.ids := by
  refine ids_of_isSome_eq (List.ext_getElem? fun i => ?_)
  simp only [modify, List.getElem?_map, List.getElem?_modify]
  split <;> rcases r.slots[i]? with _ | _ | c <;> rfl

/-- A new slot gets a handle that has not been in use. -/
theorem ids_push (r : Registry H S) (c : Clock H S) :
    (r.push c).2.ids = r.ids ++ [(r.push c).1] ∧ (r.push c).1 ∉ r.ids := by
  constructor
  · simp [push, ids_eq_of_isSome, List.zipIdx_append]
  · rw [mem_ids]
    simp [push, get?]

/-- Destroying a clock empties its slot and no other. -/
theorem destroy_cases {r r' : Registry H S} {id : ClockId} {c : Clock H S} {source : Option ClockId}
    (h : (r.destroy id source : Except (RegistryError ε) _) = .ok (c, r')) :
    r.get? id = some c ∧ r'.slots.length = r.slots.length ∧
      ∀ other, r'.get? other = if other = id then none else r.get? other := by
  unfold destroy at h
  split at h
  · cases h
  · next own hc =>
    split at h
    · cases h
    · cases h
      refine ⟨hc, List.length_set, fun other => ?_⟩
      obtain ⟨slot⟩ := id
      obtain ⟨otherSlot⟩ := other
      simp only [get?, List.getElem?_set, ClockId.mk.injEq]
      by_cases hslot : slot = otherSlot
      · subst hslot
        by_cases hlt : slot < r.slots.length <;> simp [hlt]
      · have hne : ¬otherSlot = slot := fun heq => hslot heq.symm
        simp [hslot, hne]

/-- All other clocks are still there. -/
theorem mem_ids_destroy {r r' : Registry H S} {id other : ClockId} {c : Clock H S}
    {source : Option ClockId} (h : (r.destroy id source : Except (RegistryError ε) _) = .ok (c, r'))
    (hne : other ≠ id) (hmem : other ∈ r.ids) : other ∈ r'.ids := by
  obtain ⟨-, -, hget⟩ := destroy_cases h
  rw [mem_ids, hget, if_neg hne]
  exact mem_ids.mp hmem

/-! ### Asking for a clock -/

section Ask

variable {env : Environment W H S ε} {r r' : Registry H S} {m m' : Machine W} {id : ClockId}
  {name : String}

theorem get?_of_findBy {p : Clock H S → Bool} (h : r.findBy p = some id) :
    ∃ c, r.get? id = some c ∧ p c = true := by
  obtain ⟨⟨found, c⟩, hfind, rfl⟩ := Option.map_eq_some_iff.mp h
  have hp := List.find?_some hfind
  exact ⟨c, mem_entries.mp (List.mem_of_find?_eq_some hfind), hp⟩

theorem findBy_eq_none_iff {p : Clock H S → Bool} :
    r.findBy p = none ↔ ∀ id c, r.get? id = some c → p c = false := by
  simp only [findBy, Option.map_eq_none_iff, List.find?_eq_none, Bool.not_eq_true, Prod.forall,
    mem_entries]

/-- A clock is found under its name, found by the index that the opener gives,
    or put into a new slot; and a failure changes nothing. -/
theorem getOrCreate_cases {result : Except (RegistryError ε) ClockId}
    (h : Returns (r.getOrCreate env name) m (result, r') m') :
    (∃ id c, result = .ok id ∧ r' = r ∧ r.get? id = some c ∧ c.name = name) ∨
    (∀ id c, r.get? id = some c → c.name ≠ name) ∧
      ((∃ e, result = .error e ∧ r' = r) ∨
      ∃ handle index m₁, Returns (env.openClock name) m (.ok (handle, index)) m₁ ∧
        ((∃ id c, result = .ok id ∧ r' = r ∧ r.get? id = some c ∧ c.index = index) ∨
        (∀ id c, r.get? id = some c → c.index ≠ index) ∧
          ∃ servo, result = .ok (r.push (.opened name index handle servo)).1 ∧
            r' = (r.push (.opened name index handle servo)).2)) := by
  unfold getOrCreate at h
  split at h
  · next id hfound =>
    simp only [returns_pure, Prod.mk.injEq] at h
    obtain ⟨⟨rfl, rfl⟩, -⟩ := h
    obtain ⟨c, hc, hname⟩ := get?_of_findBy hfound
    exact .inl ⟨id, c, rfl, rfl, hc, by simpa using hname⟩
  · next hnone =>
    have hunnamed : ∀ id c, r.get? id = some c → c.name ≠ name := by
      intro id c hc
      simpa using findBy_eq_none_iff.mp hnone id c hc
    refine .inr ⟨hunnamed, ?_⟩
    simp only [returns_bind] at h
    obtain ⟨opened, m₁, hopen, h⟩ := h
    rcases opened with e | ⟨handle, index⟩
    · simp only [returns_pure, Prod.mk.injEq] at h
      obtain ⟨⟨rfl, rfl⟩, -⟩ := h
      exact .inl ⟨_, rfl, rfl⟩
    · dsimp only at h
      split at h
      · next id hfound =>
        simp only [returns_bind, returns_log, returns_pure, Prod.mk.injEq] at h
        obtain ⟨_, _, -, ⟨rfl, rfl⟩, -⟩ := h
        obtain ⟨c, hc, hindex⟩ := get?_of_findBy hfound
        exact .inr ⟨handle, index, m₁, hopen, .inl ⟨id, c, rfl, rfl, hc, by simpa using hindex⟩⟩
      · next hnoindex =>
        simp only [returns_bind] at h
        obtain ⟨made, m₂, -, h⟩ := h
        rcases made with e | servo
        · simp only [returns_pure, Prod.mk.injEq] at h
          obtain ⟨⟨rfl, rfl⟩, -⟩ := h
          exact .inl ⟨_, rfl, rfl⟩
        · simp only [returns_bind, returns_log, returns_pure, Prod.mk.injEq] at h
          obtain ⟨_, _, -, ⟨rfl, rfl⟩, -⟩ := h
          have hunindexed : ∀ id c, r.get? id = some c → c.index ≠ index := by
            intro id c hc
            simpa using findBy_eq_none_iff.mp hnoindex id c hc
          exact .inr ⟨handle, index, m₁, hopen, .inr ⟨hunindexed, servo, rfl, rfl⟩⟩

/-- A clock that is there afterwards was there before, or is the one that was put into a
    new slot. -/
theorem getOrCreate_clock {result : Except (RegistryError ε) ClockId} {c : Clock H S}
    (h : Returns (r.getOrCreate env name) m (result, r') m') (hc : r'.get? id = some c) :
    r.get? id = some c ∨ r.get? id = none ∧
      result = .ok id ∧ ∃ index handle servo, c = .opened name index handle servo := by
  rcases getOrCreate_cases h with ⟨_, _, -, rfl, -⟩ | ⟨-, ⟨_, -, rfl⟩ | hrest⟩
  · exact .inl hc
  · exact .inl hc
  · obtain ⟨handle, index, m₁, -, ⟨_, _, -, rfl, -⟩ | ⟨-, servo, rfl, rfl⟩⟩ := hrest
    · exact .inl hc
    · rw [get?_push] at hc
      split at hc
      · next hid =>
        subst hid
        refine .inr ⟨?_, rfl, index, handle, servo, (Option.some.inj hc).symm⟩
        simp [push, get?]
      · exact .inl hc

end Ask

/-! ### The parts of the clocks -/

/-- Something that is read off every clock, slot by slot. -/
theorem map_get? {α : Type} (r : Registry H S) (f : Clock H S → α) (id : ClockId) :
    (r.get? id).map f = (r.slots.map (Option.map f))[id.slot]?.join := by
  simp only [get?, List.getElem?_map]
  rcases r.slots[id.slot]? with _ | _ | c <;> rfl

/-- It tells which slots are filled. -/
theorem isSome_of_map_eq {α : Type} {r r' : Registry H S} {f : Clock H S → α}
    (h : r'.slots.map (Option.map f) = r.slots.map (Option.map f)) :
    r'.slots.map Option.isSome = r.slots.map Option.isSome := by
  have hmap : ∀ q : Registry H S,
      q.slots.map Option.isSome = (q.slots.map (Option.map f)).map Option.isSome := by
    intro q
    rw [List.map_map]
    congr 1
    funext o
    cases o <;> rfl
  rw [hmap, hmap, h]

theorem map_part_get? (r : Registry H S) (id : ClockId) :
    (r.get? id).map Clock.part = r.parts[id.slot]?.join :=
  r.map_get? Clock.part id

/-- Registries with the same parts have the same clocks in the same parts. -/
theorem get?_of_parts_eq {r r' : Registry H S} (h : r'.parts = r.parts) {id : ClockId}
    {c : Clock H S} (hc : r.get? id = some c) : ∃ c', r'.get? id = some c' ∧ c'.part = c.part := by
  have hpart : (r'.get? id).map Clock.part = some c.part := by
    rw [map_part_get?, h, ← map_part_get?, hc, Option.map_some]
  exact Option.map_eq_some_iff.mp hpart

theorem ids_of_parts_eq {r r' : Registry H S} (h : r'.parts = r.parts) : r'.ids = r.ids :=
  ids_of_isSome_eq (isSome_of_map_eq h)

theorem parts_modify {r : Registry H S} {id : ClockId} {f : Clock H S → Clock H S}
    (h : ∀ c, r.get? id = some c → (f c).part = c.part) : (r.modify id f).parts = r.parts := by
  refine List.ext_getElem? fun i => ?_
  simp only [parts, modify, List.getElem?_map, List.getElem?_modify]
  by_cases hi : id.slot = i
  · subst hi
    cases hslot : r.slots[id.slot]? with
    | none => simp
    | some o =>
      cases o with
      | none => simp
      | some c =>
        have hc : r.get? id = some c := by simp [get?, hslot]
        simp [h c hc]
  · simp [hi]

theorem parts_set {r : Registry H S} {id : ClockId} {old c : Clock H S}
    (hold : r.get? id = some old) (h : c.part = old.part) : (r.set id c).parts = r.parts := by
  refine parts_modify fun c' hc' => ?_
  rw [hold] at hc'
  cases hc'
  exact h

theorem parts_map {r : Registry H S} {f : Clock H S → Clock H S} (h : ∀ c, (f c).part = c.part) :
    (r.map f).parts = r.parts := by
  simp only [parts, map, List.map_map]
  congr 1
  funext o
  cases o <;> simp [h]

end Registry

end ClockDiscipline
