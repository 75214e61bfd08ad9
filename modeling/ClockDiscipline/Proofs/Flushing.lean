/-
  ClockDiscipline/Proofs/Flushing.lean
  ====================================
  **A cycle does not see the timestamps it finds.**

  Selecting the source looks at ports and at the flags of destinations only,
  and it comes before the timestamps are flushed.  So a cycle ends in the same
  way whatever an earlier one has left on the clocks.
-/
import ClockDiscipline.Proofs.Registry
import ClockDiscipline.Sync.Cycle

namespace ClockDiscipline

variable {W H S ε : Type} {env : Environment W H S ε} {wait : Waiter W ε}

namespace Orchestrator

variable {o : Orchestrator H S}

theorem flushTimestamps_flushTimestamps :
    o.flushTimestamps.flushTimestamps = o.flushTimestamps := by
  simp only [flushTimestamps, Registry.map, List.map_map]
  congr 3
  funext slot
  cases slot <;> rfl

theorem flushTimestamps_modifyClock {id : ClockId} {f : Clock H S → Clock H S}
    (hf : ∀ c, (f c).flushTimestamp = f c.flushTimestamp) :
    (o.modifyClock id f).flushTimestamps = o.flushTimestamps.modifyClock id f := by
  have hslots : ((o.clocks.modify id f).map Clock.flushTimestamp) =
      (o.clocks.map Clock.flushTimestamp).modify id f := by
    refine congrArg Registry.mk (List.ext_getElem? fun i => ?_)
    simp only [Registry.modify, Registry.map, List.getElem?_map, List.getElem?_modify]
    rcases o.clocks.slots[i]? with _ | _ | c <;> by_cases hi : id.slot = i <;> simp [hi, hf]
  simp only [flushTimestamps, modifyClock, hslots]

theorem flushTimestamps_notePortStates (t : Topology) :
    (o.notePortStates t).flushTimestamps = o.flushTimestamps.notePortStates t := by
  have hslots : ∀ slots : List (Option (Clock H S)),
      (slots.mapIdx fun i slot => slot.map fun c => { c with portState := t.aggregate ⟨i⟩ }).map
          (Option.map Clock.flushTimestamp) =
        (slots.map (Option.map Clock.flushTimestamp)).mapIdx fun i slot =>
          slot.map fun c => { c with portState := t.aggregate ⟨i⟩ } := by
    intro slots
    refine List.ext_getElem? fun i => ?_
    simp only [List.getElem?_map, List.getElem?_mapIdx]
    rcases slots[i]? with _ | _ | c <;> rfl
  simp only [flushTimestamps, notePortStates, Registry.map, hslots]

theorem flushTimestamps_selectSource (source : Option ClockId) :
    (o.selectSource source).flushTimestamps = o.flushTimestamps.selectSource source := by
  cases source with
  | none => rfl
  | some id => exact flushTimestamps_modifyClock fun _ => rfl

theorem flushTimestamps_selectDestinations (ids : List ClockId) :
    (o.flushTimestamps.selectDestinations ids : Action W (Orchestrator H S)) =
      flushTimestamps <$> o.selectDestinations ids := by
  induction ids generalizing o with
  | nil => simp [selectDestinations]
  | cons first ids ih =>
    have hget : o.flushTimestamps.clocks.get? first =
        (o.clocks.get? first).map Clock.flushTimestamp := Registry.get?_map _ _ _
    unfold selectDestinations
    cases hc : o.clocks.get? first with
    | none =>
      rw [hc, Option.map_none] at hget
      simp only [hget]
      exact ih
    | some c =>
      rw [hc, Option.map_some] at hget
      simp only [hget, Clock.flushTimestamp]
      split
      · exact ih
      · have hmodify := @flushTimestamps_modifyClock _ _ o first
          (fun c => { c with isDestination := true }) fun _ => rfl
        rw [map_bind]
        refine bind_congr fun _ => ?_
        rw [← ih, hmodify]

theorem flushTimestamps_reconfigure :
    (o.flushTimestamps.reconfigure : Action W (Option Selection × Orchestrator H S)) =
      Prod.map id flushTimestamps <$> o.reconfigure := by
  have htopology : o.flushTimestamps.topology = o.topology := rfl
  unfold reconfigure
  rw [htopology]
  cases htop : o.topology with
  | none => simp
  | some t =>
    dsimp only
    split
    · rw [map_bind]
      refine bind_congr fun ⟨selection, t'⟩ => ?_
      have hnote :
          ({ o.flushTimestamps with topology := some t' } : Orchestrator H S).notePortStates t' =
            (({ o with topology := some t' } : Orchestrator H S).notePortStates
              t').flushTimestamps := by
        rw [flushTimestamps_notePortStates]
        rfl
      dsimp only
      rw [hnote, flushTimestamps_selectDestinations]
      simp [flushTimestamps_selectSource]
    · simp

/-- A cycle goes as if the clocks had no timestamps before it. -/
theorem runCycle_flushTimestamps : o.flushTimestamps.runCycle env wait = o.runCycle env wait := by
  unfold runCycle
  rw [flushTimestamps_reconfigure]
  simp [flushTimestamps_flushTimestamps]

end Orchestrator

end ClockDiscipline
