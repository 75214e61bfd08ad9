/-
  ClockDiscipline/Proofs/SharedClocks.lean
  ========================================
  **Which sources share a clock.**

  A source is known by the name it was added under, a clock by the index of its
  device.  A device has as many names as one likes to give it, so a device that
  is added under two of them becomes two sources that take the events of one
  queue from each other (`not_forall_clocks_nodup`).  That is the only way to
  get two sources on one clock: the clocks of all sources differ exactly as long
  as all their names lead to different devices (`sources_share_iff`).
-/
import ClockDiscipline.Proofs.LiveHandles

namespace ClockDiscipline

open ClockDiscipline.Action

variable {W H S ε β : Type} {env : Environment W H S ε}

/-! ### What is done with a registry -/

namespace Registry

variable {r r' : Registry H S}

theorem identities_of_parts_eq (h : r'.parts = r.parts) : r'.identities = r.identities := by
  have hread : ∀ q : Registry H S, q.identities = q.parts.map (Option.map fun p =>
      (⟨p.name, p.index, p.handle⟩ : ClockIdentity H)) := by
    intro q
    simp only [identities, parts, List.map_map]
    congr 1
    funext slot
    cases slot <;> rfl
  rw [hread, hread, h]

theorem identities_modify (r : Registry H S) (id : ClockId) {f : Clock H S → Clock H S}
    (h : ∀ c, (f c).identity = c.identity) : (r.modify id f).identities = r.identities := by
  refine List.ext_getElem? fun i => ?_
  simp only [identities, modify, List.getElem?_map, List.getElem?_modify]
  split
  · rcases r.slots[i]? with _ | _ | c <;> simp [h]
  · rcases r.slots[i]? with _ | _ | c <;> rfl

end Registry

theorem Handling.append {r₀ r r' : Registry H S} {events new : List HandleEvent}
    (h : Handling env r₀ events r) (h' : Handling env r new r') :
    Handling env r₀ (events ++ new) r' := by
  induction h' with
  | start => rwa [List.append_nil]
  | step _ hstep ih =>
    rw [← List.append_assoc]
    exact ih.step hstep

namespace Orchestrator

variable {o o' : Orchestrator H S} {m m' : Machine W} {id : ClockId} {Waits : Waiter W ε → Prop}
  {view : W → β}

theorem openClock_handling {name : String} {result : Except (SyncError ε) ClockId}
    (h : Returns (o.openClock env name) m (result, o') m') :
    ∃ events, Handling env o.clocks events o'.clocks := by
  obtain ⟨opened, clocks, hcreate, ⟨e, rfl, -, rfl⟩ | ⟨own, rfl, -, rfl⟩⟩ := openClock_cases h
  · exact ⟨_, .step .start (.failed hcreate)⟩
  · refine ⟨_, .step (.step .start (.given hcreate)) (.worked ?_)⟩
    exact clocks.identities_modify own fun _ => rfl

theorem selectDestinations_identities {ids : List ClockId}
    (h : Returns (o.selectDestinations ids) m o' m') :
    o'.clocks.identities = o.clocks.identities := by
  induction ids generalizing o m with
  | nil =>
    simp only [selectDestinations, returns_pure] at h
    rw [h.1]
  | cons first ids ih =>
    unfold selectDestinations at h
    split at h
    · exact ih h
    · split at h
      · exact ih h
      · simp only [returns_bind, returns_log] at h
        obtain ⟨_, _, -, h⟩ := h
        exact (ih h).trans (o.clocks.identities_modify first fun _ => rfl)

theorem reconfigure_identities {selection : Option Selection}
    (h : Returns o.reconfigure m (selection, o') m') :
    o'.clocks.identities = o.clocks.identities := by
  rcases reconfigure_ends h with ⟨-, rfl, -⟩ | ⟨t, selected, o₁, _, _, -, -, -, -, hdest, rfl⟩
  · rfl
  · have hsource : (o₁.selectSource selected.source?).clocks.identities =
        o₁.clocks.identities := by
      cases selected.source? with
      | none => rfl
      | some id => exact o₁.clocks.identities_modify id fun _ => rfl
    rw [hsource, selectDestinations_identities hdest]
    refine List.ext_getElem? fun i => ?_
    simp only [noteTopology, notePortStates, Registry.identities, List.getElem?_map,
      List.getElem?_mapIdx]
    rcases o.clocks.slots[i]? with _ | _ | c <;> rfl

theorem addSource_handling {config : SourceConfig} {result : Except (SyncError ε) ClockId}
    (h : Returns (o.addSource env config) m (result, o') m') :
    ∃ events, Handling env o.clocks events o'.clocks := by
  rcases addSource_cases h with ⟨_, -, -, -, rfl, -⟩ | ⟨-, opened, o₁, m₁, hopen, hrest⟩
  · exact ⟨_, .start⟩
  · obtain ⟨events, hopened⟩ := openClock_handling hopen
    rcases hrest with ⟨e, -, -, rfl, -⟩ | ⟨source, c, ready, m₂, rfl, -, -, -, hrest⟩
    · exact ⟨_, hopened⟩
    · rcases hrest with ⟨e, -, -, habandon⟩ | ⟨-, -, rfl, -⟩
      · obtain ⟨-, rfl | ⟨-, _, _, hdestroy, rfl⟩⟩ := abandonSource_cases habandon
        · exact ⟨_, hopened⟩
        · exact ⟨_, hopened.step (.destroyed hdestroy)⟩
      · refine ⟨_, hopened.step (.worked ?_)⟩
        exact o₁.clocks.identities_modify source.clock fun _ => rfl

/-- An operation asks the registry for clocks, destroys one that it has opened, and
    works on clocks that stay what they are. -/
theorem Operates.handling (h : Operates env Waits o m o' m') :
    ∃ events, Handling env o.clocks events o'.clocks := by
  -- the phases of a cycle leave names, indices and handles alone
  have hsame {o o' : Orchestrator H S} (h : o'.setup = o.setup) :
      ∃ events, Handling env o.clocks events o'.clocks :=
    ⟨_, .step .start (.worked (Registry.identities_of_parts_eq (parts_of_setup_eq h)))⟩
  cases h with
  | openClock h => exact openClock_handling h
  | addSource h => exact addSource_handling h
  | addPort h =>
    obtain ⟨o₁, m₁, hopen, ⟨_, -, rfl, -⟩ | ⟨_, t, -, -, rfl⟩⟩ := addPort_cases h
    · exact openClock_handling hopen
    · obtain ⟨events, hopened⟩ := openClock_handling hopen
      exact ⟨events, hopened⟩
  | portStateChanged h =>
    rcases portStateChanged_cases h with ⟨rfl, -⟩ | ⟨t, t', -, -, rfl⟩
    · exact ⟨_, .start⟩
    · exact ⟨_, .start⟩
  | reconfigure h => exact ⟨_, .step .start (.worked (reconfigure_identities h))⟩
  | arm h => exact ⟨_, .start⟩
  | flushTimestamps => exact hsame (setup_flushTimestamps o)
  | poll _ h => exact hsame (poll_setup h)
  | collectReference h => exact hsame (collectReference_setup h)
  | synchronize h => exact hsame (synchronize_setup h)
  | runCycle _ h =>
    obtain ⟨selection, o₁, m₁, hselect, hsetup⟩ := runCycle_setup h
    obtain ⟨events, hrest⟩ := hsame hsetup
    exact ⟨_, Handling.append (.step .start (.worked (reconfigure_identities hselect))) hrest⟩

theorem Course.handling {seen seen' : β} (h : Course env Waits view seen o seen' o') :
    ∃ events, Handling env o.clocks events o'.clocks := by
  induction h with
  | start => exact ⟨_, .start⟩
  | next _ hop ih =>
    obtain ⟨events, hbefore⟩ := ih
    obtain ⟨new, hnew⟩ := hop.handling
    exact ⟨_, hbefore.append hnew⟩

end Orchestrator

/-! ### One device for each name -/

/-- Every name leads to one device, whenever it is opened. -/
def Environment.Resolves (env : Environment W H S ε) (physical : String → UInt32) : Prop :=
  ∀ name m handle index m', Returns (env.openClock name) m (.ok (handle, index)) m' →
    index = physical name

/-- No two clocks have the same name or the same device, and each has the device
    that its name leads to. -/
structure Registry.Resolved (physical : String → UInt32) (r : Registry H S) : Prop where
  distinct : r.Distinct
  index : ∀ id c, r.get? id = some c → c.index = physical c.name

section Resolving

variable {physical : String → UInt32} {r r' : Registry H S} {events : List HandleEvent}

theorem Registry.resolved_empty : (Registry.empty : Registry H S).Resolved physical where
  distinct id id' c c' hc := by simp [Registry.empty, Registry.get?] at hc
  index id c hc := by simp [Registry.empty, Registry.get?] at hc

theorem Registry.Resolved.getOrCreate {name : String} {m m' : Machine W}
    {result : Except (RegistryError ε) ClockId} (hr : r.Resolved physical)
    (hresolves : env.Resolves physical)
    (h : Returns (r.getOrCreate env name) m (result, r') m') : r'.Resolved physical := by
  rcases Registry.getOrCreate_cases h with ⟨_, _, -, rfl, -⟩ | ⟨hunnamed, ⟨_, -, rfl⟩ | hrest⟩
  · exact hr
  · exact hr
  · obtain ⟨handle, index, m₁, hopen, ⟨_, _, -, rfl, -⟩ | ⟨hunindexed, servo, -, rfl⟩⟩ := hrest
    · exact hr
    · refine ⟨hr.distinct.push fun id c hc => ⟨hunnamed id c hc, hunindexed id c hc⟩, ?_⟩
      intro id c hc
      rw [Registry.get?_push] at hc
      split at hc
      · cases hc
        exact hresolves name m handle index m₁ hopen
      · exact hr.index id c hc

theorem HandleStep.resolved (h : HandleStep env r events r') (hresolves : env.Resolves physical)
    (hr : r.Resolved physical) : r'.Resolved physical := by
  cases h with
  | given h => exact hr.getOrCreate hresolves h
  | failed h => exact hr.getOrCreate hresolves h
  | destroyed h =>
    refine ⟨hr.distinct.destroy h, fun id c hc => ?_⟩
    obtain ⟨-, -, hget⟩ := Registry.destroy_cases h
    rw [hget] at hc
    split at hc
    · cases hc
    · exact hr.index id c hc
  | refused => exact hr
  | worked h =>
    refine ⟨hr.distinct.of_identities_eq h, fun id c hc => ?_⟩
    obtain ⟨c₀, hc₀, hsame⟩ := Registry.get?_of_identities_eq h hc
    simp only [Clock.identity, ClockIdentity.mk.injEq] at hsame
    rw [← hsame.1, ← hsame.2.1]
    exact hr.index id c₀ hc₀

theorem Handling.resolved (h : Handling env r events r') (hresolves : env.Resolves physical)
    (hr : r.Resolved physical) : r'.Resolved physical := by
  induction h with
  | start => exact hr
  | step _ hstep ih => exact hstep.resolved hresolves ih

/-- A clock that answers to a name has the device that the name leads to. -/
theorem Registry.AnswersTo.index {name : String} {m : Machine W} {c : Clock H S}
    (h : r.AnswersTo env name m c) (hresolves : env.Resolves physical)
    (hown : c.index = physical c.name) : c.index = physical name := by
  rcases h with hname | ⟨-, handle, m₁, hopen⟩
  · rw [hown, hname]
  · exact hresolves name m handle c.index m₁ hopen

end Resolving

/-! ### Sources and their devices -/

namespace Orchestrator

variable {physical : String → UInt32} {o o' : Orchestrator H S} {m m' : Machine W}
  {Waits : Waiter W ε → Prop} {view : W → β}

/-- No two sources have the same name, and each has a clock of the device that its
    name leads to. -/
structure Traced (physical : String → UInt32) (o : Orchestrator H S) : Prop where
  clocks : o.clocks.Resolved physical
  names : (o.sources.map (·.name)).Nodup
  device : ∀ s ∈ o.sources, ∃ c, o.clocks.get? s.clock = some c ∧ c.index = physical s.name

theorem traced_start {clocks : Registry H S} (config : SyncConfig) (reference : Reference)
    (hclocks : clocks.Resolved physical) : (start config clocks reference).Traced physical where
  clocks := hclocks
  names := List.nodup_nil
  device s hs := by cases hs

theorem Traced.next (h : o.Traced physical) (hresolves : env.Resolves physical)
    (hop : Operates env Waits o m o' m') : o'.Traced physical := by
  obtain ⟨events, hhandling⟩ := hop.handling
  have hclocks := hhandling.resolved hresolves h.clocks
  have hkept : ∀ s ∈ o.sources, ∃ c, o'.clocks.get? s.clock = some c ∧
      c.index = physical s.name := by
    intro s hs
    obtain ⟨c, hc, hindex⟩ := h.device s hs
    obtain ⟨c', hc', hsame⟩ := hop.keeps s.clock c hc
    exact ⟨c', hc', (congrArg ClockIdentity.index hsame).trans hindex⟩
  rcases hop.sources_cases with hsame | ⟨new, hadded, ⟨-, hfresh, -⟩, c, hanswers, c', hc', hsame⟩
  · exact ⟨hclocks, hsame ▸ h.names, fun s hs => hkept s (hsame ▸ hs)⟩
  · -- the source that was added has a new name, and its clock answers to that name
    refine ⟨hclocks, ?_, fun s hs => ?_⟩
    · rw [hadded, List.map_append, List.map_singleton, ← List.concat_eq_append]
      refine h.names.concat fun hmem => ?_
      obtain ⟨s, hs, hname⟩ := List.mem_map.mp hmem
      exact hfresh s hs hname
    · rw [hadded] at hs
      rcases List.mem_append.mp hs with hs | hs
      · exact hkept s hs
      · obtain rfl := List.mem_singleton.mp hs
        have hindex := hclocks.index s.clock c' hc'
        simp only [Clock.identity, ClockIdentity.mk.injEq] at hsame
        rw [hsame.1, hsame.2.1] at hindex
        exact ⟨c', hc', hsame.2.1.trans (hanswers.index hresolves hindex)⟩

theorem Traced.course {seen seen' : β} (hresolves : env.Resolves physical)
    (h : Course env Waits view seen o seen' o') (ho : o.Traced physical) : o'.Traced physical := by
  induction h with
  | start => exact ho
  | next _ hop ih => exact ih.next hresolves hop

/-- Two sources have the same clock exactly if their names lead to the same
    device. -/
theorem Traced.clock_eq_iff (h : o.Traced physical) {s s' : EdgeSource} (hs : s ∈ o.sources)
    (hs' : s' ∈ o.sources) : s.clock = s'.clock ↔ physical s.name = physical s'.name := by
  obtain ⟨c, hc, hindex⟩ := h.device s hs
  obtain ⟨c', hc', hindex'⟩ := h.device s' hs'
  rw [← hindex, ← hindex']
  constructor
  · intro hsame
    rw [hsame, hc'] at hc
    rw [Option.some.inj hc]
  · intro hsame
    exact h.clocks.distinct _ _ c c' hc hc' (.inr hsame)

theorem Traced.eq_of_name_eq (h : o.Traced physical) {s s' : EdgeSource} (hs : s ∈ o.sources)
    (hs' : s' ∈ o.sources) (hname : s.name = s'.name) : s = s' :=
  List.inj_on_of_nodup_map h.names hs hs' hname

/-- After any operations, each of which may have failed, on clocks that were opened
    in any way, where every name leads to one device:

    no two sources have the same name, and each takes its events from the
    device that its name leads to; so two of them share a clock exactly if
    their names lead to the same device, and no two of them do exactly if all
    their names lead to different ones.  A source that is added again under its
    name is left alone, under any other name it becomes one more source. -/
theorem sources_share_iff {config : SyncConfig} {clocks : Registry H S} {reference : Reference}
    {past : List HandleEvent} (hresolves : env.Resolves physical)
    (hclocks : Handling env .empty past clocks) (h : Leads env (start config clocks reference) o) :
    (o.sources.map (·.name)).Nodup ∧
    (∀ s ∈ o.sources, ∃ c, o.clocks.get? s.clock = some c ∧ c.index = physical s.name) ∧
    (∀ s ∈ o.sources, ∀ s' ∈ o.sources,
      s.clock = s'.clock ↔ physical s.name = physical s'.name) ∧
    ((o.sources.map (·.clock)).Nodup ↔ (o.sources.map fun s => physical s.name).Nodup) ∧
    ∀ source m result o' m', Returns (o.addSource env source) m (result, o') m' →
      (∀ s ∈ o.sources, s.name = source.device →
        result = .ok s.clock ∧ o' = o ∧ m'.world = m.world) ∧
      ((∀ s ∈ o.sources, s.name ≠ source.device) → ∀ id, result = .ok id →
        ∃ s, o'.sources = o.sources ++ [s] ∧ s.name = source.device ∧ s.clock = id) := by
  have hresolved := hclocks.resolved hresolves Registry.resolved_empty
  have htraced := Traced.course hresolves h (traced_start config reference hresolved)
  refine ⟨htraced.names, htraced.device, fun s hs s' hs' => htraced.clock_eq_iff hs hs', ?_, ?_⟩
  · have hsources := htraced.names.of_map
    rw [List.nodup_map_iff_inj_on hsources, List.nodup_map_iff_inj_on hsources]
    refine forall₄_congr fun s hs s' hs' => ?_
    rw [htraced.clock_eq_iff hs hs']
  · intro source m result o' m' hadd
    rcases addSource_cases hadd with ⟨known, hknown, hname, rfl, rfl, rfl⟩ | ⟨hnone, hrest⟩
    · constructor
      · intro s hs hsame
        rw [htraced.eq_of_name_eq hs hknown (hsame.trans hname.symm)]
        exact ⟨rfl, rfl, rfl⟩
      · intro hother
        exact absurd hname (hother known hknown)
    · refine ⟨fun s hs hsame => absurd hsame (hnone s hs), fun _ id hid => ?_⟩
      subst hid
      obtain ⟨opened, o₁, m₁, hopen,
        ⟨_, -, herror, -⟩ | ⟨s, _, _, _, rfl, hname, -, -, hrest⟩⟩ := hrest
      · cases herror
      · rcases hrest with ⟨_, -, herror, -⟩ | ⟨-, hid, rfl, -⟩
        · cases herror
        · cases hid
          obtain ⟨_, _, -, ⟨_, -, herror, -⟩ | ⟨_, -, -, rfl⟩⟩ := openClock_cases hopen
          · cases herror
          · exact ⟨s, rfl, hname, rfl⟩

/-! ### A device with two names -/

/-- The number of the device that a name leads to, on a bench with two devices. -/
def deviceNumber (name : String) : Nat := if name = "eth1" then 1 else 0

/-- The bench of `twoDevices`, where the names stay as they are. -/
def namedBench : Environment Bench.World Nat Bench.Servo Bench.Failure :=
  { Bench.environment .prepared twoDevices with
    openClock := fun name => return .ok (deviceNumber name, (deviceNumber name).toUInt32) }

theorem namedBench_resolves : namedBench.Resolves fun name => (deviceNumber name).toUInt32 := by
  intro name m handle index m' h
  simp only [namedBench, returns_pure, Except.ok.injEq, Prod.mk.injEq] at h
  exact h.1.2

/-- The first device is added under both its names, then the second one. -/
def addThree : Action Bench.World (Orchestrator Nat Bench.Servo) := do
  let (_, o) ← (start {} .empty (.generic .zero)).addSource namedBench { device := "eth0" }
  let (_, o) ← o.addSource namedBench { device := "ptp0" }
  let (_, o) ← o.addSource namedBench { device := "eth1" }
  return o

/-- Whether there are three sources now, the first two on one clock. -/
def threeSources : Except Fault (Orchestrator Nat Bench.Servo) → Bool
  | .ok o => o.sources.map (fun s => (s.name, s.clock)) ==
      [("eth0", ⟨0⟩), ("ptp0", ⟨0⟩), ("eth1", ⟨1⟩)]
  | .error _ => false

theorem leads_addThree :
    ∃ o, Leads namedBench (start {} .empty (.generic .zero)) o ∧
      o.sources.map (fun s => (s.name, s.clock)) =
        [("eth0", ⟨0⟩), ("ptp0", ⟨0⟩), ("eth1", ⟨1⟩)] := by
  have hcheck : threeSources (addThree.outcome ⟨twoDevices, #[]⟩).1 = true := by decide +kernel
  unfold threeSources at hcheck
  split at hcheck
  · next o hrun =>
    have hreturns := returns_of_outcome hrun
    simp only [addThree, returns_bind, returns_pure] at hreturns
    obtain ⟨⟨_, o₁⟩, _, h₁, ⟨_, o₂⟩, _, h₂, ⟨_, o₃⟩, _, h₃, rfl, -⟩ := hreturns
    have hstart : Leads namedBench (start {} .empty (.generic .zero))
        (start {} .empty (.generic .zero)) := .start
    exact ⟨o, ((hstart.next (.addSource h₁)).next (.addSource h₂)).next (.addSource h₃),
      eq_of_beq hcheck⟩
  · cases hcheck

/-- It is not so that no two sources ever have the same clock. -/
theorem not_forall_clocks_nodup :
    ¬ ∀ (env : Environment Bench.World Nat Bench.Servo Bench.Failure) (physical : String → UInt32)
      (o : Orchestrator Nat Bench.Servo), env.Resolves physical →
      Leads env (start {} .empty (.generic .zero)) o → (o.sources.map (·.clock)).Nodup := by
  intro hnodup
  obtain ⟨o, hleads, hsources⟩ := leads_addThree
  have hclocks : o.sources.map (·.clock) = [⟨0⟩, ⟨0⟩, ⟨1⟩] := by
    simpa [Function.comp_def] using congrArg (List.map Prod.snd) hsources
  have h := hnodup _ _ o namedBench_resolves hleads
  rw [hclocks] at h
  exact absurd h (by decide)

/-- The first two names lead to one device, and so the sources share its clock. -/
theorem sources_share_iff_addThree :
    ∃ o, namedBench.Resolves (fun name => (deviceNumber name).toUInt32) ∧
      Leads namedBench (start {} .empty (.generic .zero)) o ∧
      (o.sources.map (·.name)).Nodup ∧ ¬(o.sources.map (·.clock)).Nodup := by
  obtain ⟨o, hleads, hsources⟩ := leads_addThree
  obtain ⟨hnames, -, -, hclocks, -⟩ :=
    sources_share_iff namedBench_resolves .start hleads
  have hdevices : (o.sources.map fun s => (deviceNumber s.name).toUInt32) = [0, 0, 1] := by
    simpa [Function.comp_def, deviceNumber] using
      congrArg (List.map fun p => (deviceNumber p.1).toUInt32) hsources
  refine ⟨o, namedBench_resolves, hleads, hnames, fun hnodup => ?_⟩
  rw [hclocks, hdevices] at hnodup
  exact absurd hnodup (by decide)

end Orchestrator

end ClockDiscipline
