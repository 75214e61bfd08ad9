/-
  ClockDiscipline/Proofs/FailedSource.lean
  ========================================
  **A source that can not be added leaves nothing behind.**

  Adding a source opens a clock, sets up its input, and only then lets the
  orchestrator listen to it.  Whether the clock was opened for this source is
  told by the number of clocks before and after, and a clock that was may be
  released: it is fresh, hence no destination, and not the selected source,
  whose clock was there before.  So whatever failed, every clock that was there
  is as it was, up to the note whether it runs free, and there is no other
  (`addSource_failed`).
-/
import ClockDiscipline.Proofs.LiveHandles

namespace ClockDiscipline

open ClockDiscipline.Action

variable {W H S ε : Type} {env : Environment W H S ε}

/-! ### Releasing a clock -/

theorem Registry.destroy_eq_ok {r : Registry H S} {id : ClockId} {c : Clock H S}
    {source : Option ClockId} (hc : r.get? id = some c) (hidle : c.isDestination = false)
    (hsource : source ≠ some id) :
    (r.destroy id source : Except (RegistryError ε) _) = .ok (c, ⟨r.slots.set id.slot none⟩) := by
  simp [destroy, hc, hidle, hsource]

namespace Orchestrator

variable {o o₁ o' : Orchestrator H S} {m m' : Machine W} {id : ClockId}

theorem noteFreeRunning_get? (o : Orchestrator H S) (id other : ClockId) :
    (o.noteFreeRunning id).clocks.get? other = if other = id then
      (o.clocks.get? other).map fun c => { c with freeRunning := o.config.freeRunning }
    else o.clocks.get? other :=
  o.clocks.get?_modify id other _

/-- A clock is opened by a note on one that was there, or by a fresh one in a new
    slot. -/
theorem openClock_ok_cases {name : String}
    (h : Returns (o.openClock env name) m (.ok id, o₁) m') :
    (id ∈ o.clocks.ids ∧ o₁ = o.noteFreeRunning id) ∨
    ∃ index handle servo, id = (o.clocks.push (.opened name index handle servo)).1 ∧
      o₁ = ({ o with clocks := (o.clocks.push (.opened name index handle servo)).2 } :
        Orchestrator H S).noteFreeRunning id := by
  obtain ⟨opened, clocks, hcreate, ⟨e, -, hid, -⟩ | ⟨own, rfl, hid, rfl⟩⟩ := openClock_cases h
  · cases hid
  · cases hid
    rcases Registry.getOrCreate_cases hcreate with ⟨_, c, hid, rfl, hc, -⟩ | ⟨-, hrest⟩
    · cases hid
      exact .inl ⟨Registry.mem_ids.mpr ⟨c, hc⟩, rfl⟩
    · rcases hrest with ⟨e, hfailed, -⟩ | ⟨handle, index, m₁, -, hrest⟩
      · cases hfailed
      · rcases hrest with ⟨_, c, hid, rfl, hc, -⟩ | ⟨-, servo, hid, rfl⟩
        · cases hid
          exact .inl ⟨Registry.mem_ids.mpr ⟨c, hc⟩, rfl⟩
        · cases hid
          exact .inr ⟨index, handle, servo, rfl, rfl⟩

theorem openClock_error {name : String} {e : SyncError ε}
    (h : Returns (o.openClock env name) m (.error e, o₁) m') : o₁ = o := by
  obtain ⟨opened, clocks, hcreate, ⟨e', rfl, -, rfl⟩ | ⟨own, -, hid, -⟩⟩ := openClock_cases h
  · rw [Registry.getOrCreate_error hcreate]
  · cases hid

/-! ### Giving up a source -/

/-- Nothing has been done but, at most, to note on a clock whether it runs free. -/
structure AsNoted (o : Orchestrator H S) (id : ClockId) (o' : Orchestrator H S) : Prop where
  undisturbed : o.Undisturbed o'
  sources : o'.sources = o.sources
  reference : o'.reference = o.reference
  ids : o'.clocks.ids = o.clocks.ids
  get? : ∀ other, o'.clocks.get? other = (o.noteFreeRunning id).clocks.get? other

theorem asNoted_noteFreeRunning (o : Orchestrator H S) (id : ClockId) :
    o.AsNoted id (o.noteFreeRunning id) where
  undisturbed := ⟨rfl, rfl, rfl⟩
  sources := rfl
  reference := rfl
  ids := Registry.ids_modify _ _ _
  get? _ := rfl

theorem abandonSource_eq_of_not_grown {device : String} {clocksBefore : Nat} {error : ε}
    (h : Returns (o.abandonSource env device id clocksBefore error) m o' m')
    (hsize : ¬clocksBefore < o.clocks.size) : o' = o := by
  obtain ⟨-, rfl | ⟨hgrown, -⟩⟩ := abandonSource_cases h
  · rfl
  · exact absurd hgrown hsize

theorem abandonSource_eq_of_destroyed {device : String} {clocksBefore : Nat} {error : ε}
    {c : Clock H S} {clocks : Registry H S}
    (h : Returns (o.abandonSource env device id clocksBefore error) m o' m')
    (hgrown : clocksBefore < o.clocks.size)
    (hdestroy : (o.clocks.destroy id o.sourceClock : Except (RegistryError ε) _) =
      .ok (c, clocks)) : o' = { o with clocks := clocks } := by
  simp only [abandonSource, returns_bind, returns_log, if_pos hgrown, hdestroy, returns_pure] at h
  obtain ⟨_, _, -, rfl, -⟩ := h
  rfl

/-- What was opened is given up again, and what was there is kept. -/
theorem abandonSource_openClock {name : String} {m₁ m₂ : Machine W} {error : ε}
    (hopen : Returns (o.openClock env name) m (.ok id, o₁) m₁)
    (habandon : Returns (o₁.abandonSource env name id o.clocks.size error) m₂ o' m')
    (hselected : ∀ own, o.sourceClock = some own → own ∈ o.clocks.ids) : o.AsNoted id o' := by
  rcases openClock_ok_cases hopen with ⟨-, rfl⟩ | ⟨index, handle, servo, hid, rfl⟩
  · have hsize : (o.noteFreeRunning id).clocks.size = o.clocks.size := by
      rw [Registry.size_eq, (asNoted_noteFreeRunning o id).ids, Registry.size_eq]
    obtain rfl := abandonSource_eq_of_not_grown habandon (by rw [hsize]; exact Nat.lt_irrefl _)
    exact asNoted_noteFreeRunning o id
  · obtain ⟨hids, hnew⟩ := o.clocks.ids_push (.opened name index handle servo)
    rw [← hid] at hids hnew
    have hget : ∀ other, (o.clocks.push (.opened name index handle servo)).2.get? other =
        if other = id then some (.opened name index handle servo) else o.clocks.get? other := by
      intro other
      rw [Registry.get?_push, ← hid]
    generalize (o.clocks.push (.opened name index handle servo)).2 = clocks at *
    -- the clock is fresh, so nothing keeps it from being destroyed
    have hfresh := noteFreeRunning_get? { o with clocks := clocks } id id
    rw [if_pos rfl, hget, if_pos rfl, Option.map_some] at hfresh
    have hsource : o.sourceClock ≠ some id := fun hsource => hnew (hselected id hsource)
    have hdestroy := Registry.destroy_eq_ok (ε := ε) hfresh rfl hsource
    have hgrown : o.clocks.size <
        (({ o with clocks := clocks } : Orchestrator H S).noteFreeRunning id).clocks.size := by
      rw [Registry.size_eq, Registry.size_eq, (asNoted_noteFreeRunning _ id).ids, hids,
        List.length_append]
      exact Nat.lt_succ_self _
    obtain rfl := abandonSource_eq_of_destroyed habandon hgrown hdestroy
    refine ⟨⟨rfl, rfl, rfl⟩, rfl, rfl, ?_, fun other => ?_⟩
    · rw [Registry.ids_destroy hdestroy, (asNoted_noteFreeRunning _ id).ids, hids]
      have hother : ∀ other ∈ o.clocks.ids, other ≠ id := by
        rintro _ hmem rfl
        exact hnew hmem
      simpa using hother
    · obtain ⟨-, -, hrest⟩ := Registry.destroy_cases hdestroy
      have hnone : o.clocks.get? id = none := by
        rw [Registry.mem_ids, not_exists] at hnew
        exact Option.eq_none_iff_forall_ne_some.mpr hnew
      rw [hrest, noteFreeRunning_get?, noteFreeRunning_get?]
      by_cases hother : other = id
      · simp [hother, hnone]
      · simp [hother, hget]

/-- Either the clock could not be opened, and nothing has been done; or the input
    of the clock could not be set up. -/
theorem addSource_error {config : SourceConfig} {e : SyncError ε}
    (h : Returns (o.addSource env config) m (.error e, o') m')
    (hselected : ∀ own, o.sourceClock = some own → own ∈ o.clocks.ids) :
    (Returns (o.openClock env config.device) m (.error e, o) m' ∧ o' = o) ∨
    ∃ id o₁ m₁, Returns (o.openClock env config.device) m (.ok id, o₁) m₁ ∧ o.AsNoted id o' := by
  rcases addSource_cases h with ⟨_, -, -, hresult, -⟩ | ⟨-, opened, o₁, m₁, hopen, hrest⟩
  · cases hresult
  · rcases hrest with ⟨_, rfl, hresult, rfl, rfl⟩ | ⟨source, c, ready, m₂, rfl, -, -, -, hrest⟩
    · cases hresult
      obtain rfl := openClock_error hopen
      exact .inl ⟨hopen, rfl⟩
    · rcases hrest with ⟨_, -, -, habandon⟩ | ⟨-, hresult, -⟩
      · exact .inr ⟨_, _, _, hopen, abandonSource_openClock hopen habandon hselected⟩
      · cases hresult

/-! ### After any operations -/

/-- After any operations, a source that can not be added, at whatever point it
    fails, leaves the sources, the ports, the selected source and the clocks as
    they were; of a clock at most the note whether it runs free has been made
    anew.  The clock that was opened for the source is there in the end exactly
    if it was there before. -/
theorem addSource_failed {config : SyncConfig} {clocks : Registry H S} {reference : Reference}
    {source : SourceConfig} {e : SyncError ε} (h : Leads env (start config clocks reference) o)
    (hfail : Returns (o.addSource env source) m (.error e, o') m') :
    o'.sources = o.sources ∧ o'.topology = o.topology ∧ o'.sourceClock = o.sourceClock ∧
    o'.config = o.config ∧ o'.reference = o.reference ∧ o'.clocks.ids = o.clocks.ids ∧
    (∀ id c, o.clocks.get? id = some c → ∃ free ∈ [c.freeRunning, o.config.freeRunning],
      o'.clocks.get? id = some { c with freeRunning := free }) ∧
    ∀ id o₁ m₁, Returns (o.openClock env source.device) m (.ok id, o₁) m₁ →
      id ∈ o₁.clocks.ids ∧ (id ∈ o'.clocks.ids ↔ id ∈ o.clocks.ids) := by
  have hheld := (held_start config clocks reference).course h
  have hopened : ∀ id o₁ m₁, Returns (o.openClock env source.device) m (.ok id, o₁) m₁ →
      id ∈ o₁.clocks.ids := by
    intro id o₁ m₁ hopen
    obtain ⟨c, hc, -⟩ := openClock_answers hopen
    exact Registry.mem_ids.mpr ⟨c, hc⟩
  have hselected : ∀ own, o.sourceClock = some own → own ∈ o.clocks.ids :=
    fun _ hid => Registry.mem_ids.mpr (hheld.selected_live hid)
  rcases addSource_error hfail hselected with ⟨-, rfl⟩ | ⟨id, o₁, m₁, -, hnoted⟩
  · refine ⟨rfl, rfl, rfl, rfl, rfl, rfl, fun id c hc => ?_, fun id o₁ m₁ hopen => ?_⟩
    · exact ⟨c.freeRunning, List.mem_cons_self, hc⟩
    · exact ⟨hopened id o₁ m₁ hopen, .rfl⟩
  · refine ⟨hnoted.sources, hnoted.undisturbed.topology, hnoted.undisturbed.sourceClock,
      hnoted.undisturbed.config, hnoted.reference, hnoted.ids, fun other c hc => ?_,
      fun other o₂ m₂ hopen => ?_⟩
    · rw [hnoted.get?, noteFreeRunning_get?, hc]
      by_cases hother : other = id
      · exact ⟨o.config.freeRunning, by simp, by rw [if_pos hother, Option.map_some]⟩
      · exact ⟨c.freeRunning, by simp, by rw [if_neg hother]⟩
    · rw [hnoted.ids]
      exact ⟨hopened other o₂ m₂ hopen, .rfl⟩

/-! ### A clock of its own, and one that is shared -/

/-- The second device fails as a source.  Then it is bound to a port, so that its
    clock is selected as the source. -/
def selectFaulty : Action Bench.World (Orchestrator Nat Bench.Servo) := do
  let env := Bench.environment .prepared faultyInput
  let (_, o) ← (start {} .empty (.generic .zero)).addSource env { device := "eth1" }
  let (_, o) ← o.addPort env 1 "eth1" .slave
  let (_, o) ← o.reconfigure
  return o

/-- After that it fails again. -/
def failAgain : Action Bench.World (Orchestrator Nat Bench.Servo ×
    Except (SyncError Bench.Failure) ClockId × Orchestrator Nat Bench.Servo) := do
  let o ← selectFaulty
  let (result, o') ← o.addSource (Bench.environment .prepared faultyInput) { device := "eth1" }
  return (o, result, o')

/-- Whether the source has failed, and the clock in the second slot, the only one
    that is left, is selected. -/
def failsSelected : Except Fault (Orchestrator Nat Bench.Servo ×
    Except (SyncError Bench.Failure) ClockId × Orchestrator Nat Bench.Servo) → Bool
  | .ok (o, .error _, _) => o.clocks.ids == [⟨1⟩] && o.sourceClock == some ⟨1⟩
  | _ => false

/-- The first clock was released, the second one is kept. -/
theorem addSource_failed_failAgain :
    ∃ o m e o' m', Leads (Bench.environment .prepared faultyInput)
        (start {} .empty (.generic .zero)) o ∧
      Returns (o.addSource (Bench.environment .prepared faultyInput) { device := "eth1" }) m
        (.error e, o') m' ∧
      o'.sources = o.sources ∧ o'.clocks.ids = [⟨1⟩] ∧ o'.sourceClock = some ⟨1⟩ := by
  have hcheck : failsSelected (failAgain.outcome ⟨faultyInput, #[]⟩).1 = true := by
    decide +kernel
  unfold failsSelected at hcheck
  split at hcheck
  · next o e o' hrun =>
    simp only [Bool.and_eq_true, beq_iff_eq] at hcheck
    have hreturns := returns_of_outcome hrun
    simp only [failAgain, selectFaulty, returns_bind, returns_pure, Prod.mk.injEq] at hreturns
    obtain ⟨_, m, ⟨⟨_, o₁⟩, _, h₁, ⟨_, o₂⟩, _, h₂, ⟨_, o₃⟩, _, h₃, rfl, rfl⟩, ⟨_, _⟩, m', hfail,
      ⟨rfl, rfl, rfl⟩, -⟩ := hreturns
    have hstart : Leads (Bench.environment .prepared faultyInput)
        (start {} .empty (.generic .zero)) (start {} .empty (.generic .zero)) := .start
    have hleads := ((hstart.next (.addSource h₁)).next (.addPort h₂)).next (.reconfigure h₃)
    obtain ⟨hsources, -, hsource, -, -, hids, -⟩ := addSource_failed hleads hfail
    exact ⟨o, m, e, o', m', hleads, hfail, hsources, hids.trans hcheck.1, hsource.trans hcheck.2⟩
  · cases hcheck

end Orchestrator

end ClockDiscipline
