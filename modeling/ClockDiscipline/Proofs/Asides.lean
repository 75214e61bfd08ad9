/-
  ClockDiscipline/Proofs/Asides.lean
  ==================================
  **Steps that one of two runs takes alone.**

  When one device gives an event in the first run and none in the second, the
  first run goes on alone with it.  Such a step is an `Aside` if it leaves the
  second run, which stands still, related to the first, and a step of the
  second run is `Idle` if it leaves the first related to it.  What a run asks
  for the sake of one device may be `AloneWith` that device; then the
  correction of its clock is an aside, and so is what follows from an event
  once the reference has been read.  The reading itself is none, as the time
  of the system may move on with it.
-/
import ClockDiscipline.Proofs.DeviceCalls

namespace ClockDiscipline

open ClockDiscipline.Action

variable {W W' H S ε α α' β β' : Type}

/-! ### Asides -/

namespace Action

/-- Machines whose worlds are related, whatever is in their journals. -/
def OnWorlds (T : W → W' → Prop) (m : Machine W) (n : Machine W') : Prop := T m.world n.world

/-- A step that only the first run takes keeps the second one related to it. -/
def Aside (T : W → W' → Prop) (a : Action W α) : Prop :=
  ∀ m w' x m', T m.world w' → Returns a m x m' → T m'.world w'

/-- A step that only the second run takes returns, and keeps it related to the first. -/
def Idle (T : W → W' → Prop) (b : Action W' β) : Prop :=
  ∀ w n, T w n.world → ∃ y n', Returns b n y n' ∧ T w n'.world

variable {T : W → W' → Prop} {Q : α → α' → Prop} {a : Action W α} {b : Action W' α'}

theorem aside_pure (x : α) : Aside T (pure x : Action W α) := by
  intro m w' y m' hT h
  obtain ⟨-, rfl⟩ := returns_pure.mp h
  exact hT

theorem aside_log (severity : Severity) (text : String) :
    Aside T (Action.log severity text : Action W Unit) := by
  intro m w' u m' hT h
  rw [returns_log.mp h]
  exact hT

theorem aside_checked (x : Checked α) : Aside T (checked x : Action W α) := by
  intro m w' y m' hT h
  obtain ⟨-, rfl⟩ := returns_checked.mp h
  exact hT

theorem Aside.bind {f : α → Action W β} (ha : Aside T a) (hf : ∀ x, Aside T (f x)) :
    Aside T (a >>= f) := by
  intro m w' y m' hT h
  obtain ⟨x, m₁, hfirst, hrest⟩ := returns_bind.mp h
  exact hf x m₁ w' y m' (ha m w' x m₁ hT hfirst) hrest

theorem idle_pure (y : α') : Idle T (pure y : Action W' α') := fun _ n hT => ⟨y, n, rfl, hT⟩

theorem idle_log (severity : Severity) (text : String) :
    Idle T (Action.log severity text : Action W' Unit) :=
  fun _ n hT => ⟨(), noted n severity text, returns_log.mpr rfl, hT⟩

theorem Idle.bind {f : α' → Action W' β'} (hb : Idle T b) (hf : ∀ y, Idle T (f y)) :
    Idle T (b >>= f) := by
  intro w n hT
  obtain ⟨y, n₁, hfirst, hT₁⟩ := hb w n hT
  obtain ⟨z, n', hrest, hT'⟩ := hf y w n₁ hT₁
  exact ⟨z, n', returns_bind.mpr ⟨y, n₁, hfirst, hrest⟩, hT'⟩

/-- The first run does one thing, and the second run another. -/
theorem simulates_apart (ha : Aside T a) (hb : Idle T b) :
    Simulates (OnWorlds T) (fun _ _ => True) a b := by
  intro m n x m' hT h
  obtain ⟨y, n', hrun, hT'⟩ := hb m'.world n (ha m n.world x m' hT h)
  exact ⟨y, n', hrun, trivial, hT'⟩

/-- The first run writes to its journal before it goes on. -/
theorem Simulates.logFirst (h : Simulates (OnWorlds T) Q a b) (severity : Severity)
    (text : String) : Simulates (OnWorlds T) Q (Action.log severity text >>= fun _ => a) b := by
  intro m n x m' hT hrun
  obtain ⟨_, _, hlog, hrun⟩ := returns_bind.mp hrun
  obtain rfl := returns_log.mp hlog
  exact h (noted m severity text) n x m' hT hrun

/-- The second run writes to its journal before it goes on. -/
theorem Simulates.logSecond (h : Simulates (OnWorlds T) Q a b) (severity : Severity)
    (text : String) : Simulates (OnWorlds T) Q a (Action.log severity text >>= fun _ => b) := by
  intro m n x m' hT hrun
  obtain ⟨y, n', hrun', hQ, hT'⟩ := h m (noted n severity text) x m' hT hrun
  exact ⟨y, n', returns_bind.mpr ⟨(), _, returns_log.mpr rfl, hrun'⟩, hQ, hT'⟩

end Action

/-! ### Alone with a device -/

/-- What a run asks to correct the clock of one device is nothing to the other run. -/
structure AloneWith (T : W → W' → Prop) (env : Environment W H S ε) (handle : H) : Prop where
  sample : ∀ servo offset localNanos weight,
    Aside T (env.servo.sample servo offset localNanos weight)
  setFrequency : ∀ frequency, Aside T (env.device.setFrequency handle frequency)
  step : ∀ offset, Aside T (env.device.step handle offset)

namespace Orchestrator

variable {T : W → W' → Prop} {env : Environment W H S ε} {handle : H} {id : ClockId}
  {o : Orchestrator H S}

theorem aside_pairAndKeep (o : Orchestrator H S) (s : EdgeSource) (event : EdgeEvent)
    (reference : Instant) :
    Aside T (o.pairAndKeep s event reference : Action W (Pairing × Orchestrator H S)) := by
  have hpair : Aside T (s.pair event reference : Action W Pairing) := by
    refine (aside_checked _).bind fun pairing => ?_
    split
    · exact (aside_log _ _).bind fun _ => aside_pure _
    · exact aside_pure _
  refine hpair.bind fun pairing => ?_
  split
  · exact ((aside_log _ _).bind fun _ => aside_pure _).bind fun _ => aside_pure _
  · exact aside_pure _

/-- Once the reference is read, the first run goes on alone with an event. -/
theorem aside_afterReading (o : Orchestrator H S) (s : EdgeSource) (event : EdgeEvent)
    (reading : Except (ReferenceError ε) Instant) :
    Aside T (o.afterReading env s event reading) := by
  cases reading with
  | error e => exact (aside_log _ _).bind fun _ => aside_pure _
  | ok t => exact (aside_pairAndKeep o s event t).bind fun _ => aside_pure _

variable (h : AloneWith T env handle)
include h

theorem aside_adjust (offset : Duration) (frequency : Float) (state : ServoState) :
    Aside T (adjust env handle offset frequency state) := by
  unfold adjust
  split
  · refine (h.setFrequency frequency).bind fun answer => ?_
    cases answer with
    | error e => exact aside_pure _
    | ok => exact (aside_checked _).bind fun back => h.step back
  · exact h.setFrequency frequency

theorem aside_steer (id : ClockId) {c : Clock H S} (hc : c.handle = handle) (offset : Duration)
    (t : Instant) (weight : Float) : Aside T (steer env id c offset t weight) := by
  subst hc
  refine (h.sample c.servo offset.nanos t.nanos weight).bind fun answer => ?_
  obtain ⟨⟨adjustment, state⟩, servo⟩ := answer
  refine (aside_log _ _).bind fun _ => ?_
  split
  · exact aside_pure _
  · refine (aside_adjust h offset _ state).bind fun adjusted => ?_
    cases adjusted with
    | ok => exact aside_pure _
    | error e => exact (aside_log _ _).bind fun _ => aside_pure _

/-- The first run corrects the clock of the device alone. -/
theorem aside_correctOne (hhandle : ∀ c, o.clocks.get? id = some c → c.handle = handle)
    (sourceTime : Instant) : Aside T (o.correctOne env sourceTime id) := by
  unfold correctOne
  cases hc : o.clocks.get? id with
  | none => exact aside_pure _
  | some c =>
    dsimp only
    split
    · exact aside_pure _
    · cases c.timestamp with
      | none => exact (aside_log _ _).bind fun _ => aside_pure _
      | some t =>
        have hsync : Aside T (synchronizeClock env id c.flushTimestamp t sourceTime
            o.config.sampleWeight) := by
          refine (aside_checked _).bind fun offset => ?_
          dsimp only
          split
          · exact (aside_log _ _).bind fun _ => aside_pure _
          · exact aside_steer h id (c := { c.flushTimestamp with lastOffset := some offset })
              (hhandle c hc) offset t _
        exact hsync.bind fun _ => aside_pure _

end Orchestrator

/-! ### Notes on all devices but one -/

section Elsewhere

variable [DecidableEq H]

/-- The worlds are related, and all devices but one have been asked the same. -/
def Elsewhere (T : W → W' → Prop) (bad : H) (w : W × CallLog H ε) (w' : W' × CallLog H ε) : Prop :=
  T w.1 w'.1 ∧ ∀ h, h ≠ bad → w'.2.on h = w.2.on h

variable {T : W → W' → Prop} {bad : H} {env : Environment W H S ε} {env' : Environment W' H S ε}

theorem Action.Aside.beside {a : Action W α} (h : Aside T a) :
    Aside (Elsewhere (ε := ε) T bad) (a.beside : Action (W × CallLog H ε) α) := by
  rintro m w' x m' ⟨hT, hcalls⟩ hrun
  obtain ⟨k, hbare, rfl⟩ := returns_beside_iff.mp hrun
  exact ⟨h _ w'.1 x k hT hbare, hcalls⟩

theorem Action.Aside.recording {a : Action W α} {note : α → DeviceCall ε} (h : Aside T a) :
    Aside (Elsewhere T bad) (a.recording fun x => (bad, note x)) := by
  rintro m w' x m' ⟨hT, hcalls⟩ hrun
  obtain ⟨k, hbare, rfl⟩ := returns_recording_iff.mp hrun
  refine ⟨h _ w'.1 x k hT hbare, fun device hne => ?_⟩
  rw [CallLog.on_append, CallLog.on_other hne.symm, List.append_nil]
  exact hcalls device hne

theorem Action.Simulates.besideNotes {Q : α → α' → Prop} {a : Action W α} {b : Action W' α'}
    (h : Simulates (OnWorlds T) Q a b) :
    Simulates (OnWorlds (Elsewhere (ε := ε) T bad)) Q a.beside b.beside := by
  have hbeside := h.beside
    (C := fun l l' : CallLog H ε => ∀ h, h ≠ bad → l'.on h = l.on h)
  exact hbeside

/-- A request that both runs make of the one device, each with its own answer. -/
theorem Action.Simulates.recordingBad {Q : α → α → Prop} {a : Action W α} {b : Action W' α}
    {note : α → DeviceCall ε} (h : Simulates (OnWorlds T) Q a b) :
    Simulates (OnWorlds (Elsewhere T bad)) Q (a.recording fun x => (bad, note x))
      (b.recording fun x => (bad, note x)) := by
  rintro m n x m' ⟨hT, hcalls⟩ hrun
  obtain ⟨k, hbare, rfl⟩ := returns_recording_iff.mp hrun
  obtain ⟨y, l, hbare', hQ, hT'⟩ := h m.bare n.bare x k hT hbare
  refine ⟨y, _, returns_recording_iff.mpr ⟨l, hbare', rfl⟩, hQ, hT', fun device hne => ?_⟩
  simp only [CallLog.on_append, CallLog.on_other hne.symm, List.append_nil]
  exact hcalls device hne

theorem AloneWith.noting (h : AloneWith T env bad) :
    AloneWith (Elsewhere T bad) env.noting bad where
  sample servo offset localNanos weight := (h.sample servo offset localNanos weight).beside
  setFrequency frequency := (h.setFrequency frequency).recording
  step offset := (h.step offset).recording

theorem elsewhere_lockstep (hl : Lockstep (OnWorlds T) env env' (· ≠ bad)) :
    Lockstep (OnWorlds (Elsewhere T bad)) env.noting env'.noting (· ≠ bad) := by
  have hnoting := hl.noting (C := fun l l' => ∀ h, h ≠ bad → CallLog.on l' h = CallLog.on l h)
    fun l l' call hC h hne => by rw [CallLog.on_append, CallLog.on_append, hC h hne]
  exact hnoting

end Elsewhere

end ClockDiscipline
