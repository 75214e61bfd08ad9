/-
  ClockDiscipline/Proofs/DeviceCalls.lean
  =======================================
  **What the devices are asked in a cycle, device by device.**

  `Environment.noting` is any environment, where each request that a cycle
  makes of a device is noted beside the world, with its answer.  `CallLog.on`
  picks out what one device was asked.  Steps that go side by side still do so
  with such notes beside them (`Lockstep.noting`).
-/
import ClockDiscipline.Proofs.Requests
import ClockDiscipline.Proofs.TwoRuns

namespace ClockDiscipline

open ClockDiscipline.Action

variable {W W' H S ε α α' K : Type}

/-! ### The notes -/

/-- What a device is asked in a cycle, with the answer. -/
inductive DeviceCall (ε : Type) where
  | now (answer : Except ε Instant)
  | event (answer : Except ε (Option EdgeEvent))
  | frequency (value : Float) (answer : Except ε Unit)
  | step (offset : Duration) (answer : Except ε Unit)

/-- Whether a device is only asked for its time. -/
def DeviceCall.isReading : DeviceCall ε → Bool
  | .now _ => true
  | .event _ | .frequency _ _ | .step _ _ => false

/-- What the devices have been asked, oldest first. -/
abbrev CallLog (H ε : Type) := List (H × DeviceCall ε)

/-- What one device has been asked. -/
def CallLog.on [DecidableEq H] (log : CallLog H ε) (handle : H) : List (DeviceCall ε) :=
  log.filterMap fun (device, call) => if device = handle then some call else none

section On

variable [DecidableEq H] (log : CallLog H ε)

theorem CallLog.on_append (added : CallLog H ε) (handle : H) :
    CallLog.on (log ++ added) handle = log.on handle ++ CallLog.on added handle :=
  List.filterMap_append ..

theorem CallLog.on_other {handle device : H} (h : device ≠ handle) (call : DeviceCall ε) :
    CallLog.on [(device, call)] handle = [] := by
  simp [on, h]

end On

def Environment.noting (env : Environment W H S ε) : Environment (W × CallLog H ε) H S ε where
  device := {
    now := fun h => (env.device.now h).recording fun answer => (h, .now answer)
    frequency := fun h => (env.device.frequency h).beside
    setFrequency := fun h f =>
      (env.device.setFrequency h f).recording fun answer => (h, .frequency f answer)
    step := fun h offset =>
      (env.device.step h offset).recording fun answer => (h, .step offset answer)
    maxFrequency := fun h => (env.device.maxFrequency h).beside
    pinCount := fun h => (env.device.pinCount h).beside
    setPinFunction := fun h pin channel => (env.device.setPinFunction h pin channel).beside
    enableEdges := fun h channel polarity => (env.device.enableEdges h channel polarity).beside
    disableEdges := fun h channel => (env.device.disableEdges h channel).beside
    nextEvent := fun h => (env.device.nextEvent h).recording fun answer => (h, .event answer) }
  servo := {
    sample := fun s offset localNanos weight =>
      (env.servo.sample s offset localNanos weight).beside
    reset := fun s => (env.servo.reset s).beside
    frequency := env.servo.frequency }
  openClock := fun name => (env.openClock name).beside
  makeServo := fun h => (env.makeServo h).beside
  systemTime := env.systemTime.beside
  errorText := env.errorText
  patience := env.patience

/-! ### The answers of a device -/

/-- What a source makes of the answer of its device. -/
def EdgeSource.sift (s : EdgeSource) :
    Except ε (Option EdgeEvent) → Except (EventError ε) EdgeEvent
  | .error e => .error (.device e)
  | .ok none => .error .noEvent
  | .ok (some event) =>
    if event.channel = s.channel then .ok event
    else .error (.unexpectedChannel s.channel event.channel)

theorem EdgeSource.takeEvent_eq (env : Environment W H S ε) (s : EdgeSource) (h : H) :
    s.takeEvent env h = env.device.nextEvent h >>= fun x => pure (s.sift x) := by
  refine bind_congr fun x => ?_
  rcases x with e | _ | event
  · rfl
  · rfl
  · dsimp only [sift]
    split <;> rfl

theorem EdgeSource.sift_eq_ok {s : EdgeSource} {answer : Except ε (Option EdgeEvent)}
    {event : EdgeEvent} (h : s.sift answer = .ok event) :
    answer = .ok (some event) ∧ event.channel = s.channel := by
  rcases answer with e | _ | event'
  · cases h
  · cases h
  · dsimp only [sift] at h
    split at h
    · next hchannel =>
      cases h
      exact ⟨rfl, hchannel⟩
    · cases h

namespace Orchestrator

variable {env : Environment W H S ε}

/-- What follows once the event of a source is taken. -/
def afterTaking (env : Environment W H S ε) (o : Orchestrator H S) (s : EdgeSource) :
    Except (EventError ε) EdgeEvent →
      Action W (Except (EventError ε) Pairing × Orchestrator H S)
  | .error e => return (.error e, o)
  | .ok event => do
    let reading ← o.reference.now env o.clocks
    o.afterReading env s event reading

theorem handleEvent_eq {o : Orchestrator H S} {s : EdgeSource} {c : Clock H S}
    (hc : o.clocks.get? s.clock = some c) :
    o.handleEvent env s =
      env.device.nextEvent c.handle >>= fun answer => o.afterTaking env s (s.sift answer) := by
  unfold handleEvent
  rw [hc]
  dsimp only
  rw [EdgeSource.takeEvent_eq, bind_assoc]
  refine bind_congr fun answer => ?_
  rw [pure_bind]
  cases s.sift answer with
  | error e => rfl
  | ok event => exact bind_congr fun reading => by cases reading <;> rfl

end Orchestrator

/-! ### Two runs with notes -/

/-- A machine without the notes beside its world. -/
def Machine.bare (m : Machine (W × List K)) : Machine W := ⟨m.world.1, m.journal⟩

/-- The machines without their notes are related, and so are the notes. -/
def Beside (R : Machine W → Machine W' → Prop) (C : List K → List K → Prop)
    (m : Machine (W × List K)) (n : Machine (W' × List K)) : Prop :=
  R m.bare n.bare ∧ C m.world.2 n.world.2

variable {R : Machine W → Machine W' → Prop} {C : List K → List K → Prop} {Q : α → α' → Prop}

theorem Action.Simulates.beside {a : Action W α} {b : Action W' α'} (h : Simulates R Q a b) :
    Simulates (Beside R C) Q a.beside b.beside := by
  rintro m n x m' ⟨hR, hC⟩ hrun
  obtain ⟨next, hbare, rfl⟩ := returns_beside_iff.mp hrun
  obtain ⟨y, next', hrun', hQ, hR'⟩ := h _ _ x next hR hbare
  exact ⟨y, _, returns_beside_iff.mpr ⟨next', hrun', rfl⟩, hQ, hR', hC⟩

theorem Action.Simulates.recording {a : Action W α} {b : Action W' α} {note : α → K}
    (h : Simulates R Eq a b)
    (hC : ∀ l l' x, C l l' → C (l ++ [note x]) (l' ++ [note x])) :
    Simulates (Beside R C) Eq (a.recording note) (b.recording note) := by
  rintro m n x m' ⟨hR, hnotes⟩ hrun
  obtain ⟨next, hbare, rfl⟩ := returns_recording_iff.mp hrun
  obtain ⟨y, next', hrun', rfl, hR'⟩ := h _ _ x next hR hbare
  exact ⟨x, _, returns_recording_iff.mpr ⟨next', hrun', rfl⟩, rfl, hR', hC _ _ x hnotes⟩

theorem Lockstep.noting {env : Environment W H S ε} {env' : Environment W' H S ε}
    {Shared : H → Prop} {C : CallLog H ε → CallLog H ε → Prop}
    (hl : Lockstep R env env' Shared)
    (hC : ∀ l l' call, C l l' → C (l ++ [call]) (l' ++ [call])) :
    Lockstep (Beside R C) env.noting env'.noting Shared where
  noted _ _ severity text h := ⟨hl.noted _ _ severity text h.1, h.2⟩
  now h hshared := (hl.now h hshared).recording fun l l' _ => hC l l' _
  nextEvent h hshared := (hl.nextEvent h hshared).recording fun l l' _ => hC l l' _
  setFrequency h frequency hshared :=
    (hl.setFrequency h frequency hshared).recording fun l l' _ => hC l l' _
  step h offset hshared := (hl.step h offset hshared).recording fun l l' _ => hC l l' _
  sample servo offset localNanos weight := (hl.sample servo offset localNanos weight).beside
  reset servo := (hl.reset servo).beside
  systemTime := hl.systemTime.beside
  frequency := hl.frequency
  errorText := hl.errorText
  patience := hl.patience

end ClockDiscipline
