/-
  ClockDiscipline/Proofs/SourceTurns.lean
  =======================================
  **What the turn of a ready source depends on.**

  If the sources listen to clocks and devices of their own (`Separate`) and the
  reference reads the same for all of them (`SteadyReference`), then what the
  turn of a source comes to is settled by the answer of its device
  (`exists_turn`), whatever the journal and the other clocks are like: it takes
  an event, reads the reference if the event is of use, and keeps a time.
-/
import ClockDiscipline.Proofs.DeviceCalls
import ClockDiscipline.Proofs.FailedStep

namespace ClockDiscipline

open ClockDiscipline.Action

variable {W H S ε α β : Type} {env : Environment W H S ε}

/-- What is asked for one event: the device for the event, and the reference if the
    event is of use. -/
def turnCalls (h : H) (x : Except ε (Option EdgeEvent)) (readings : CallLog H ε) (read : Bool) :
    CallLog H ε :=
  (h, .event x) :: if read then readings else []

namespace Orchestrator

/-! ### What handling a ready source depends on -/

/-- The same sources on the same devices, and the same reference. -/
structure SameDevices (o o' : Orchestrator H S) : Prop where
  sources : o'.sources = o.sources
  reference : o'.reference = o.reference
  handles : ∀ id, (o'.clocks.get? id).map (·.handle) = (o.clocks.get? id).map (·.handle)

variable {o o' o₂ : Orchestrator H S}

theorem SameDevices.refl (o : Orchestrator H S) : o.SameDevices o := ⟨rfl, rfl, fun _ => rfl⟩

theorem SameDevices.trans (h : o.SameDevices o') (h' : o'.SameDevices o₂) : o.SameDevices o₂ :=
  ⟨h'.sources.trans h.sources, h'.reference.trans h.reference,
    fun id => (h'.handles id).trans (h.handles id)⟩

theorem SameDevices.symm (h : o.SameDevices o') : o'.SameDevices o :=
  ⟨h.sources.symm, h.reference.symm, fun id => (h.handles id).symm⟩

theorem sameDevices_modifyClock (o : Orchestrator H S) (id : ClockId)
    {f : Clock H S → Clock H S} (hf : ∀ c, (f c).handle = c.handle) :
    o.SameDevices (o.modifyClock id f) := by
  refine ⟨rfl, rfl, fun other => ?_⟩
  rw [modifyClock_get?, Option.map_map]
  congr 1
  funext c
  dsimp only [Function.comp_apply]
  split
  · exact hf c
  · rfl

theorem SameDevices.of_setup_eq (h : o'.setup = o.setup) : o.SameDevices o' := by
  refine ⟨sources_of_setup_eq h, reference_of_setup_eq h, fun id => ?_⟩
  have hpart := o'.clocks.map_part_get? id
  rw [parts_of_setup_eq h, ← o.clocks.map_part_get? id] at hpart
  simpa [Option.map_map, Function.comp_def, Clock.part] using
    congrArg (Option.map ClockPart.handle) hpart

theorem SameDevices.get? (h : o.SameDevices o') {id : ClockId} {c' : Clock H S}
    (hc' : o'.clocks.get? id = some c') :
    ∃ c, o.clocks.get? id = some c ∧ c'.handle = c.handle := by
  have hhandle := h.handles id
  rw [hc', Option.map_some, eq_comm, Option.map_eq_some_iff] at hhandle
  obtain ⟨c, hc, hsame⟩ := hhandle
  exact ⟨c, hc, hsame.symm⟩

/-- The reference is read in the same way. -/
theorem SameDevices.now (h : o.SameDevices o') :
    o'.reference.now env o'.clocks = o.reference.now env o.clocks := by
  rw [h.reference]
  cases o.reference with
  | generic utcOffset => rfl
  | phc id =>
    have hhandle := h.handles id
    unfold Reference.now
    dsimp only
    cases hc : o.clocks.get? id with
    | none =>
      rw [hc, Option.map_none, Option.map_eq_none_iff] at hhandle
      rw [hhandle]
    | some c =>
      rw [hc, Option.map_some, Option.map_eq_some_iff] at hhandle
      obtain ⟨c', hc', hsame⟩ := hhandle
      rw [hc']
      dsimp only
      rw [hsame]

theorem reconfigure_sameDevices {selection : Option Selection} {m m' : Machine W}
    (h : Returns o.reconfigure m (selection, o') m') : o.SameDevices o' := by
  rcases reconfigure_ends h with ⟨-, rfl, -⟩ | ⟨t, selection, o₁, m₁, m₂, -, -, -, -, hselect, rfl⟩
  · exact .refl _
  · refine ⟨?_, ?_, fun id => ?_⟩
    · rw [selectSource_eq, selectDestinations_eq hselect]
      rfl
    · rw [selectSource_eq, selectDestinations_eq hselect]
      rfl
    · rw [selectSource_get?, selectDestinations_get? hselect, noteTopology, notePortStates_get?]
      simp [Option.map_map, Function.comp_def]

theorem steady_selectDestinations (view : W → β) (o : Orchestrator H S) (ids : List ClockId) :
    Steady view (o.selectDestinations ids) := by
  induction ids generalizing o with
  | nil => exact steady_pure view _
  | cons id ids ih =>
    unfold selectDestinations
    split
    · exact ih o
    · split
      · exact ih o
      · exact steady_bind (steady_log view _ _) fun _ => ih _

/-- Selecting the source anew is a matter of the orchestrator alone. -/
theorem steady_reconfigure (view : W → β) (o : Orchestrator H S) : Steady view o.reconfigure := by
  unfold reconfigure
  split
  · exact steady_pure view _
  · split
    · have hselect (t : Topology) : Steady view (t.reconfigure : Action W (Selection × Topology)) :=
        steady_bind (steady_log view _ _) fun _ =>
          steady_bind (steady_bind (steady_log view _ _) fun _ => steady_pure view _) fun _ =>
            steady_pure view _
      exact steady_bind (hselect _) fun _ =>
        steady_bind (steady_selectDestinations view _ _) fun _ => steady_pure view _
    · exact steady_pure view _

/-- Sources that are bound to clocks of their own, with devices of their own. -/
structure Separate (o : Orchestrator H S) : Prop where
  bound : ∀ s ∈ o.sources, ∃ c, o.clocks.get? s.clock = some c
  clocks : o.sources.Pairwise fun s s' => s.clock ≠ s'.clock
  devices : ∀ s ∈ o.sources, ∀ s' ∈ o.sources, s.clock ≠ s'.clock → ∀ c c',
    o.clocks.get? s.clock = some c → o.clocks.get? s'.clock = some c' → c.handle ≠ c'.handle

/-- Different sources listen to different clocks. -/
theorem Separate.clock_ne (h : o.Separate) {i j : Nat} (hne : i ≠ j) {s s' : EdgeSource}
    (hs : o.sources[i]? = some s) (hs' : o.sources[j]? = some s') : s.clock ≠ s'.clock := by
  obtain ⟨hi, rfl⟩ := List.getElem?_eq_some_iff.mp hs
  obtain ⟨hj, rfl⟩ := List.getElem?_eq_some_iff.mp hs'
  have hpairs := List.pairwise_iff_getElem.mp h.clocks
  rcases Nat.lt_or_gt_of_ne hne with hlt | hgt
  · exact hpairs i j hi hj hlt
  · exact (hpairs j i hj hi hgt).symm

theorem Separate.eq_of_clock_eq (h : o.Separate) {s s' : EdgeSource} (hs : s ∈ o.sources)
    (hs' : s' ∈ o.sources) (heq : s.clock = s'.clock) : s = s' := by
  obtain ⟨i, hi⟩ := List.getElem?_of_mem hs
  obtain ⟨j, hj⟩ := List.getElem?_of_mem hs'
  by_cases hij : i = j
  · subst hij
    exact Option.some.inj (hi.symm.trans hj)
  · exact absurd heq (h.clock_ne hij hi hj)

theorem Separate.of_sameDevices (h : o.Separate) (hsame : o.SameDevices o') : o'.Separate where
  bound s hs := by
    rw [hsame.sources] at hs
    obtain ⟨c, hc⟩ := h.bound s hs
    have hhandle := hsame.handles s.clock
    rw [hc, Option.map_some, Option.map_eq_some_iff] at hhandle
    obtain ⟨c', hc', -⟩ := hhandle
    exact ⟨c', hc'⟩
  clocks := hsame.sources ▸ h.clocks
  devices s hs s' hs' hne c c' hc hc' := by
    rw [hsame.sources] at hs hs'
    obtain ⟨c₀, hc₀, hhandle⟩ := hsame.get? hc
    obtain ⟨c₀', hc₀', hhandle'⟩ := hsame.get? hc'
    rw [hhandle, hhandle']
    exact h.devices s hs s' hs' hne c₀ c₀' hc₀ hc₀'

/-- The time of the reference is read from this device. -/
def Reads (o : Orchestrator H S) (h : H) : Prop :=
  ∃ id c, o.reference = .phc id ∧ o.clocks.get? id = some c ∧ c.handle = h

/-- A source listens to this device. -/
def Hears (o : Orchestrator H S) (h : H) : Prop :=
  ∃ s ∈ o.sources, ∃ c, o.clocks.get? s.clock = some c ∧ c.handle = h

theorem SameDevices.reads (h : o.SameDevices o') {device : H} (hreads : o'.Reads device) :
    o.Reads device := by
  obtain ⟨id, c', href, hc', rfl⟩ := hreads
  obtain ⟨c, hc, hhandle⟩ := h.get? hc'
  exact ⟨id, c, h.reference.symm.trans href, hc, hhandle.symm⟩

theorem SameDevices.hears (h : o.SameDevices o') {device : H} (hhears : o'.Hears device) :
    o.Hears device := by
  obtain ⟨s, hs, c', hc', rfl⟩ := hhears
  obtain ⟨c, hc, hhandle⟩ := h.get? hc'
  exact ⟨s, h.sources ▸ hs, c, hc, hhandle.symm⟩

/-- While the world is as `Inv` says the reference reads the same, without leaving a
    trace, and that stays so as long as nothing is corrected. -/
structure SteadyReference (env : Environment W H S ε) (wait : Waiter W ε)
    (o : Orchestrator H S) (Inv : W → Prop) (reading : Except (ReferenceError ε) Instant) :
    Prop where
  reads : ∀ m, Inv m.world → Returns (o.reference.now env o.clocks) m reading m
  waits : ∀ timeout m x m', Inv m.world → Returns (wait timeout) m x m' → Inv m'.world
  takes : ∀ h m x m', Inv m.world → Returns (env.device.nextEvent h) m x m' → Inv m'.world
  resets : ∀ servo m x m', Inv m.world → Returns (env.servo.reset servo) m x m' → Inv m'.world

variable {wait wait' : Waiter W ε} {Inv : W → Prop}
  {reading : Except (ReferenceError ε) Instant}

theorem SteadyReference.of_sameDevices (h : SteadyReference env wait o Inv reading)
    (hsame : o.SameDevices o') : SteadyReference env wait o' Inv reading where
  reads m hm := by
    rw [hsame.now]
    exact h.reads m hm
  waits := h.waits
  takes := h.takes
  resets := h.resets

/-- One reading of the reference leaves the same notes as any other. -/
theorem SteadyReference.exists_readings (h : SteadyReference env wait o Inv reading) :
    ∃ readings : CallLog H ε,
      (∀ call ∈ readings, call.2.isReading = true ∧ o.Reads call.1) ∧
      ∀ m : Machine (W × CallLog H ε), Inv m.world.1 →
        Returns (o.reference.now env.noting o.clocks) m reading
          ⟨(m.world.1, m.world.2 ++ readings), m.journal⟩ := by
  have hreads := h.reads
  cases href : o.reference with
  | generic utcOffset =>
    rw [href] at hreads
    refine ⟨[], by simp, fun m hm => ?_⟩
    have hread := hreads m.bare hm
    simp only [Reference.now, returns_bind, returns_checked, returns_pure] at hread ⊢
    obtain ⟨utc, m₁, htime, t, _, ⟨hadd, rfl⟩, rfl, rfl⟩ := hread
    exact ⟨utc, _, returns_beside_iff.mpr ⟨m.bare, htime, rfl⟩, t, _, ⟨hadd, rfl⟩, rfl,
      by simp [Machine.bare]⟩
  | phc id =>
    rw [href] at hreads
    unfold Reference.now at hreads ⊢
    dsimp only at hreads ⊢
    cases hc : o.clocks.get? id with
    | none =>
      rw [hc] at hreads
      refine ⟨[], by simp, fun m hm => ?_⟩
      obtain ⟨rfl, -⟩ := returns_pure.mp (hreads m.bare hm)
      rw [List.append_nil]
      rfl
    | some c =>
      rw [hc] at hreads
      simp only [returns_bind, returns_pure] at hreads ⊢
      -- if the world is never so, then nothing is to be read
      by_cases hsome : ∃ m : Machine W, Inv m.world
      · obtain ⟨m₀, hm₀⟩ := hsome
        obtain ⟨x, _, -, rfl, -⟩ := hreads m₀ hm₀
        have hread : o.Reads c.handle := ⟨id, c, href, hc, rfl⟩
        refine ⟨[(c.handle, .now x)], by simp [DeviceCall.isReading, hread], fun m hm => ?_⟩
        obtain ⟨x', _, hnow, hx, rfl⟩ := hreads m.bare hm
        obtain rfl : x' = x := by
          rcases x' with e' | t' <;> rcases x with e | t <;> simp_all [Except.mapError]
        exact ⟨x', _, returns_recording_iff.mpr ⟨m.bare, hnow, rfl⟩, rfl, rfl⟩
      · refine ⟨[], by simp, fun m hm => absurd ⟨m.bare, hm⟩ hsome⟩

/-! ### The turn of a source -/

/-- The time that is kept of an event, if any. -/
def keptTime : Except (EventError ε) Pairing → Option Instant
  | .ok (.sample _ localTime) => some localTime
  | .ok .ambiguous | .error _ => none

def isAmbiguous : Except (EventError ε) Pairing → Bool
  | .ok .ambiguous => true
  | .ok (.sample _ _) | .error _ => false

/-- The orchestrator with a time on a clock, if there is one to be kept. -/
def stamp (o : Orchestrator H S) (id : ClockId) : Option Instant → Orchestrator H S
  | none => o
  | some t => o.modifyClock id fun c => { c with timestamp := some t }

theorem sameDevices_stamp (o : Orchestrator H S) (id : ClockId) (t : Option Instant) :
    o.SameDevices (o.stamp id t) := by
  cases t with
  | none => exact .refl _
  | some t => exact o.sameDevices_modifyClock id fun _ => rfl

/-- Keeping the time of an event is putting it on the clock. -/
theorem stamp_some {id : ClockId} {c : Clock H S} (hc : o.clocks.get? id = some c) (t : Instant) :
    o.stamp id (some t) = { o with clocks := o.clocks.set id { c with timestamp := some t } } := by
  have hslot : o.clocks.slots[id.slot]? = some (some c) := by
    simpa [Registry.get?, Option.join_eq_some_iff] using hc
  simp only [stamp, modifyClock, Registry.modify, Registry.set]
  congr 2
  refine List.ext_getElem? fun i => ?_
  simp only [List.getElem?_modify]
  by_cases hi : id.slot = i
  · subst hi
    simp [hslot]
  · simp [hi]

theorem stamp_get?_of_ne (o : Orchestrator H S) {id other : ClockId} (hne : other ≠ id)
    (t : Option Instant) : (o.stamp id t).clocks.get? other = o.clocks.get? other := by
  cases t with
  | none => rfl
  | some t => simp [stamp, modifyClock_get?, hne]

theorem stamp_comm (o : Orchestrator H S) {id id' : ClockId} (hne : id ≠ id')
    (t t' : Option Instant) : (o.stamp id t).stamp id' t' = (o.stamp id' t').stamp id t := by
  have hslot : id.slot ≠ id'.slot := by
    intro heq
    exact hne (by cases id; cases id'; exact congrArg ClockId.mk heq)
  cases t with
  | none => rfl
  | some t =>
    cases t' with
    | none => rfl
    | some t' =>
      simp only [stamp, modifyClock, Registry.modify]
      congr 2
      refine List.ext_getElem? fun i => ?_
      simp only [List.getElem?_modify]
      by_cases hi : id.slot = i
      · have hi' : ¬id'.slot = i := fun heq => hslot (hi.trans heq.symm)
        simp [hi, hi']
      · simp [hi]

/-- A source is marked as handled. -/
def Progress.mark (p : Progress) (index : Nat) (ambiguous : Bool) : Progress :=
  ⟨p.handled.set index true, ambiguous || p.ambiguous⟩

theorem Progress.mark_comm (p : Progress) {i j : Nat} (hne : i ≠ j) (a b : Bool) :
    (p.mark i a).mark j b = (p.mark j b).mark i a := by
  simp only [mark, List.set_comm _ _ hne, Bool.or_left_comm]

/-- After a device has left the machine `k` behind, something is asked and written. -/
def withNotes (k : Machine W) (calls : CallLog H ε) (entries : Array Entry) :
    Machine (W × CallLog H ε) :=
  ⟨(k.world, calls), k.journal ++ entries⟩

/-- Once the device of a source has given this answer, its event comes to this result,
    whatever the machine and the other clocks are like. -/
def Settles (env : Environment W H S ε) (Inv : W → Prop) (readings : CallLog H ε)
    (o : Orchestrator H S) (s : EdgeSource) (c : Clock H S) (x : Except ε (Option EdgeEvent))
    (result : Except (EventError ε) Pairing) (read : Bool) (entries : Array Entry) : Prop :=
  ∀ (o₂ : Orchestrator H S) (n : Machine (W × CallLog H ε)) (k : Machine W), o.SameDevices o₂ →
    o₂.clocks.get? s.clock = some c → Inv k.world →
    Returns (env.device.nextEvent c.handle) n.bare x k →
    Returns (o₂.handleEvent env.noting s) n (result, o₂.stamp s.clock (keptTime result))
      (withNotes k (n.world.2 ++ turnCalls c.handle x readings read) entries)

theorem returns_nextEvent_noting {h : H} {n : Machine (W × CallLog H ε)} {k : Machine W}
    {x : Except ε (Option EdgeEvent)} (hnext : Returns (env.device.nextEvent h) n.bare x k) :
    Returns (env.noting.device.nextEvent h) n x
      ⟨(k.world, n.world.2 ++ [(h, .event x)]), k.journal⟩ :=
  returns_recording_iff.mpr ⟨k, hnext, rfl⟩

section Settling

variable {readings : CallLog H ε} {s : EdgeSource} {c : Clock H S}
  {x : Except ε (Option EdgeEvent)}

theorem settles_refused {e : EventError ε} (hx : s.sift x = .error e) :
    Settles env Inv readings o s c x (.error e) false #[] := by
  intro o₂ n k _ hc _ hnext
  rw [handleEvent_eq hc]
  refine returns_bind.mpr ⟨x, _, returns_nextEvent_noting hnext, ?_⟩
  rw [hx]
  exact returns_pure.mpr ⟨rfl, by simp [withNotes, turnCalls]⟩

/-- What an event comes to that a device gives for its source. -/
theorem settles_taken {event : EdgeEvent} (hx : s.sift x = .ok event)
    (hreads : ∀ m : Machine (W × CallLog H ε), Inv m.world.1 →
      Returns (o.reference.now env.noting o.clocks) m reading
        ⟨(m.world.1, m.world.2 ++ readings), m.journal⟩)
    {result : Except (EventError ε) Pairing} {entries : Array Entry}
    (hafter : ∀ (o₂ : Orchestrator H S) (m : Machine (W × CallLog H ε)),
      o₂.clocks.get? s.clock = some c →
      Returns (o₂.afterReading env.noting s event reading) m
        (result, o₂.stamp s.clock (keptTime result)) ⟨m.world, m.journal ++ entries⟩) :
    Settles env Inv readings o s c x result true entries := by
  intro o₂ n k hsame hc hinv hnext
  have hnow := hreads ⟨(k.world, n.world.2 ++ [(c.handle, .event x)]), k.journal⟩ hinv
  rw [← hsame.now] at hnow
  have hrun := hafter o₂ ⟨(k.world, n.world.2 ++ [(c.handle, .event x)] ++ readings), k.journal⟩ hc
  have hcalls : n.world.2 ++ turnCalls c.handle x readings true =
      n.world.2 ++ [(c.handle, .event x)] ++ readings := by simp [turnCalls]
  rw [handleEvent_eq hc, hcalls]
  refine returns_bind.mpr ⟨x, _, returns_nextEvent_noting hnext, ?_⟩
  rw [hx]
  exact returns_bind.mpr ⟨_, _, hnow, hrun⟩

theorem afterReading_cases (c : Clock H S) {event : EdgeEvent}
    {m m' : Machine (W × CallLog H ε)} {result : Except (EventError ε) Pairing}
    (h : Returns (o.afterReading env.noting s event reading) m (result, o') m') :
    ∃ (result : Except (EventError ε) Pairing) (entries : Array Entry),
      ∀ (o₂ : Orchestrator H S) (m : Machine (W × CallLog H ε)),
        o₂.clocks.get? s.clock = some c →
        Returns (o₂.afterReading env.noting s event reading) m
          (result, o₂.stamp s.clock (keptTime result)) ⟨m.world, m.journal ++ entries⟩ := by
  cases reading with
  | error e =>
    let entry : Entry := ⟨.debug, s!"reference time not valid: {e.debugText env.noting.errorText}"⟩
    refine ⟨.ok .ambiguous, #[entry], fun o₂ m _ => ?_⟩
    exact returns_bind.mpr ⟨(), _, returns_log.mpr rfl,
      returns_pure.mpr ⟨rfl, by simp [noted, entry]⟩⟩
  | ok t =>
    simp only [afterReading, pairAndKeep, returns_bind] at h
    obtain ⟨_, _, ⟨pairing, _, hpair, -⟩, -⟩ := h
    obtain ⟨hpair, -⟩ := pair_returns hpair
    cases pairing with
    | ambiguous =>
      let entry : Entry := ⟨.debug,
        s!"{s.name} skip extts index {event.channel.toNat} at {event.time.text} src {t.text}"⟩
      refine ⟨.ok .ambiguous, #[entry], fun o₂ m _ => ?_⟩
      simp [afterReading, pairAndKeep, EdgeSource.pair, hpair, keptTime, stamp, noted, entry]
    | sample offset localTime =>
      let entry : Entry := ⟨.debug, s!"adding timestamp {localTime.text} to clock {c.name}"⟩
      refine ⟨.ok (.sample offset localTime), #[entry], fun o₂ m hc₂ => ?_⟩
      simp [afterReading, pairAndKeep, EdgeSource.pair, hpair, keptTime, stamp_some hc₂, hc₂, noted,
        Clock.addTimestamp, entry]

theorem exists_settles {m m' : Machine (W × CallLog H ε)}
    {result : Except (EventError ε) Pairing} (hc : o.clocks.get? s.clock = some c)
    (htakes : ∀ h m x m', Inv m.world → Returns (env.device.nextEvent h) m x m' → Inv m'.world)
    (hreads : ∀ m : Machine (W × CallLog H ε), Inv m.world.1 →
      Returns (o.reference.now env.noting o.clocks) m reading
        ⟨(m.world.1, m.world.2 ++ readings), m.journal⟩)
    (hinv : Inv m.world.1) (h : Returns (o.handleEvent env.noting s) m (result, o') m') :
    ∃ x k result read entries, Returns (env.device.nextEvent c.handle) m.bare x k ∧
      Settles env Inv readings o s c x result read entries := by
  rw [handleEvent_eq hc] at h
  obtain ⟨x, m₁, hnoted, h⟩ := returns_bind.mp h
  obtain ⟨k, hnext, rfl⟩ := returns_recording_iff.mp hnoted
  cases htaken : s.sift x with
  | error e => exact ⟨x, k, _, _, _, hnext, settles_refused htaken⟩
  | ok event =>
    rw [htaken] at h
    obtain ⟨answer, m₂, hnow, hafter⟩ := returns_bind.mp h
    obtain ⟨rfl, rfl⟩ := hnow.unique (hreads _ (htakes _ _ _ _ hinv hnext))
    obtain ⟨result, entries, hruns⟩ := afterReading_cases c hafter
    exact ⟨x, k, result, true, entries, hnext, settles_taken htaken hreads hruns⟩

/-- The turn of a source takes an event off its device; what follows from the answer
    does not depend on the machine and on other clocks. -/
theorem exists_turn {index : Nat} {p p' : Progress} {m m' : Machine (W × CallLog H ε)}
    (hsource : o.sources[index]? = some s) (hc : o.clocks.get? s.clock = some c)
    (htakes : ∀ h m x m', Inv m.world → Returns (env.device.nextEvent h) m x m' → Inv m'.world)
    (hreads : ∀ m : Machine (W × CallLog H ε), Inv m.world.1 →
      Returns (o.reference.now env.noting o.clocks) m reading
        ⟨(m.world.1, m.world.2 ++ readings), m.journal⟩)
    (hinv : Inv m.world.1) (h : Returns (o.handleReady env.noting p [index]) m (p', o') m') :
    ∃ x k kept ambiguous read entries, Returns (env.device.nextEvent c.handle) m.bare x k ∧
      ∀ (o₂ : Orchestrator H S) (p₂ : Progress) (n : Machine (W × CallLog H ε)) (k₂ : Machine W),
        o.SameDevices o₂ → o₂.clocks.get? s.clock = some c → Inv k₂.world →
        Returns (env.device.nextEvent c.handle) n.bare x k₂ →
        Returns (o₂.handleReady env.noting p₂ [index]) n
          (p₂.mark index ambiguous, o₂.stamp s.clock kept)
          (withNotes k₂ (n.world.2 ++ turnCalls c.handle x readings read) entries) := by
  simp only [handleReady, hsource] at h
  obtain ⟨⟨_, _⟩, _, hevent, -⟩ := returns_bind.mp h
  obtain ⟨x, k, result, read, entries, hnext, hsettles⟩ :=
    exists_settles hc htakes hreads hinv hevent
  cases result with
  | error e =>
    let entry : Entry := ⟨.error,
      s!"reading extts event of {s.name} failed: {e.debugText env.noting.errorText}"⟩
    refine ⟨x, k, none, false, read, entries.push entry, hnext, ?_⟩
    intro o₂ p₂ n k₂ hsame hc₂ hinv₂ hnext₂
    simp only [handleReady, hsame.sources, hsource]
    refine returns_bind.mpr ⟨_, _, hsettles o₂ n k₂ hsame hc₂ hinv₂ hnext₂, ?_⟩
    simp [noted, withNotes, entry, Progress.mark, keptTime]
  | ok pairing =>
    refine ⟨x, k, keptTime (ε := ε) (.ok pairing), isAmbiguous (ε := ε) (.ok pairing), read,
      entries, hnext, ?_⟩
    intro o₂ p₂ n k₂ hsame hc₂ hinv₂ hnext₂
    simp only [handleReady, hsame.sources, hsource]
    refine returns_bind.mpr ⟨_, _, hsettles o₂ n k₂ hsame hc₂ hinv₂ hnext₂, ?_⟩
    cases pairing <;> simp [Progress.mark, isAmbiguous]

end Settling

/-! ### The turns of several sources -/

theorem returns_handleReady_cons {V : Type} {env : Environment V H S ε} {p p₁ : Progress}
    {index : Nat} {ready : List Nat} {m m₁ m' : Machine V} {x : Progress × Orchestrator H S}
    (hfirst : Returns (o.handleReady env p [index]) m (p₁, o') m₁)
    (hrest : Returns (o'.handleReady env p₁ ready) m₁ x m') :
    Returns (o.handleReady env p (index :: ready)) m x m' := by
  rw [handleReady_cons_eq]
  exact returns_bind.mpr ⟨_, m₁, hfirst, hrest⟩

theorem handleReady_beyond {V : Type} {env : Environment V H S ε} {index : Nat}
    (h : o.sources.length ≤ index) (p : Progress) (ready : List Nat) :
    o.handleReady env p (index :: ready) = o.handleReady env p ready := by
  simp [handleReady, List.getElem?_eq_none h]

theorem handleReady_append {V : Type} {env : Environment V H S ε} (ready rest : List Nat)
    (p : Progress) : o.handleReady env p (ready ++ rest) =
      o.handleReady env p ready >>= fun first => first.2.handleReady env first.1 rest := by
  induction ready generalizing o p with
  | nil => rfl
  | cons index ready ih =>
    have hcons : o.handleReady env p (index :: ready) =
        o.handleReady env p [index] >>= fun first => first.2.handleReady env first.1 ready :=
      handleReady_cons_eq
    rw [List.cons_append, handleReady_cons_eq, hcons, bind_assoc]
    exact bind_congr fun first => ih first.1

section Inv

variable {p p' : Progress} {m m' : Machine (W × CallLog H ε)} {ready : List Nat}

theorem handleReady_inv (hsep : o.Separate) (hsteady : SteadyReference env wait o Inv reading)
    (hinv : Inv m.world.1) (h : Returns (o.handleReady env.noting p ready) m (p', o') m') :
    Inv m'.world.1 := by
  induction ready generalizing o p m with
  | nil =>
    obtain ⟨-, rfl⟩ := returns_pure.mp h
    exact hinv
  | cons index ready ih =>
    rcases Nat.lt_or_ge index o.sources.length with hlt | hge
    · rw [handleReady_cons_eq] at h
      obtain ⟨⟨p₁, o₁⟩, m₁, hfirst, hrest⟩ := returns_bind.mp h
      obtain ⟨readings, -, hreads⟩ := hsteady.exists_readings
      obtain ⟨c, hc⟩ := hsep.bound _ (List.getElem_mem hlt)
      obtain ⟨x, k, kept, ambiguous, read, entries, hnext, hturn⟩ :=
        exists_turn (List.getElem?_eq_getElem hlt) hc hsteady.takes hreads hinv hfirst
      have hinv₁ : Inv k.world := hsteady.takes _ _ _ _ (by exact hinv) hnext
      obtain ⟨-, rfl⟩ := hfirst.unique (hturn o p m k (.refl o) hc hinv₁ hnext)
      have hsame : o.SameDevices o₁ := .of_setup_eq (handleReady_setup hfirst)
      exact ih (hsep.of_sameDevices hsame) (hsteady.of_sameDevices hsame) hinv₁ hrest
    · rw [handleReady_beyond hge] at h
      exact ih hsep hsteady hinv h

end Inv

end Orchestrator

end ClockDiscipline
