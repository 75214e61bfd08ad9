/-
  ClockDiscipline/Proofs/Requests.lean
  ====================================
  **What the devices and servos of a run are asked, on record.**

  `Environment.recorded` is any environment, kept on record: whatever changes a
  frequency, a clock or a servo is noted beside the world, with its answer and
  the number of the device.  Devices are numbered as they are opened, so no two
  of them share a number and no number comes back.  Everything else that is
  asked is `Quiet`.
-/
import ClockDiscipline.Proofs.Cycle
import ClockDiscipline.Proofs.Reconfiguring
import ClockDiscipline.Proofs.Transactions

namespace ClockDiscipline

open ClockDiscipline.Action

variable {W H S ε α β R : Type}

/-! ### The record -/

/-- What is asked of a device or of the servo that steers it, with the answer. -/
inductive ClockRequest (ε : Type) where
  | opened
  | sampled (offset : Int64) (adjustment : Float) (state : ServoState)
  | reset
  | frequency (value : Float) (answer : Except ε Unit)
  | step (offset : Duration) (answer : Except ε Unit)

/-- Something that belongs to the device of this number. -/
structure Numbered (α : Type) where
  number : Nat
  value : α

/-- What has been asked so far, oldest first. -/
abbrev Record (ε : Type) := List (Numbered (ClockRequest ε))

/-- What the device of a number and its servo have been asked. -/
def Record.of (record : Record ε) (number : Nat) : List (ClockRequest ε) :=
  record.filterMap fun r => if r.number = number then some r.value else none

/-- A step beside a record, which it does not touch. -/
def Action.beside (a : Action W α) : Action (W × List R) α :=
  ExceptT.mk fun m =>
    let (result, next) := a.outcome ⟨m.world.1, m.journal⟩
    (result, ⟨(next.world, m.world.2), next.journal⟩)

namespace Environment

/-- Open a device and give it a number that was never given before. -/
def openNumbered (env : Environment W H S ε) (name : String) :
    Action (W × Record ε) (Except ε (Numbered H × UInt32)) := do
  match ← (env.openClock name).beside with
  | .error e => return .error e
  | .ok (handle, index) =>
    let number ← Action.perform fun (w, record) =>
      (record.length, (w, record ++ [⟨record.length, .opened⟩]))
    return .ok (⟨number, handle⟩, index)

def recorded (env : Environment W H S ε) :
    Environment (W × Record ε) (Numbered H) (Numbered S) ε where
  device := {
    now := fun h => (env.device.now h.value).beside
    frequency := fun h => (env.device.frequency h.value).beside
    setFrequency := fun h f =>
      (env.device.setFrequency h.value f).recording fun answer => ⟨h.number, .frequency f answer⟩
    step := fun h offset =>
      (env.device.step h.value offset).recording fun answer => ⟨h.number, .step offset answer⟩
    maxFrequency := fun h => (env.device.maxFrequency h.value).beside
    pinCount := fun h => (env.device.pinCount h.value).beside
    setPinFunction := fun h pin channel =>
      (env.device.setPinFunction h.value pin channel).beside
    enableEdges := fun h channel polarity =>
      (env.device.enableEdges h.value channel polarity).beside
    disableEdges := fun h channel => (env.device.disableEdges h.value channel).beside
    nextEvent := fun h => (env.device.nextEvent h.value).beside }
  servo := {
    sample := fun s offset localNanos weight => do
      let (answer, servo) ← (env.servo.sample s.value offset localNanos weight).recording
        fun (answer, _) => ⟨s.number, .sampled offset answer.1 answer.2⟩
      return (answer, ⟨s.number, servo⟩)
    reset := fun s => do
      let servo ← (env.servo.reset s.value).recording fun _ => ⟨s.number, .reset⟩
      return ⟨s.number, servo⟩
    frequency := fun s adjustment => env.servo.frequency s.value adjustment }
  openClock := env.openNumbered
  makeServo := fun h =>
    return (← (env.makeServo h.value).beside).map fun servo => ⟨h.number, servo⟩
  systemTime := env.systemTime.beside
  errorText := env.errorText
  patience := env.patience

end Environment

/-- Wait beside a record. -/
def Waiter.beside (wait : Waiter W ε) : Waiter (W × List R) ε := fun timeoutMs =>
  (wait timeoutMs).beside

theorem returns_beside_iff {a : Action W α} {m m' : Machine (W × List R)} {x : α} :
    Returns a.beside m x m' ↔ ∃ next, Returns a ⟨m.world.1, m.journal⟩ x next ∧
      m' = ⟨(next.world, m.world.2), next.journal⟩ := by
  have houtcome : a.beside.outcome m =
      ((a.outcome ⟨m.world.1, m.journal⟩).1,
        ⟨((a.outcome ⟨m.world.1, m.journal⟩).2.world, m.world.2),
          (a.outcome ⟨m.world.1, m.journal⟩).2.journal⟩) := rfl
  unfold Returns
  rw [houtcome]
  constructor
  · intro h
    obtain ⟨hresult, rfl⟩ := Prod.mk.inj h
    exact ⟨_, Prod.ext hresult rfl, rfl⟩
  · rintro ⟨next, h, rfl⟩
    rw [h]

/-! ### Quiet steps -/

/-- A step that puts nothing on record. -/
def Quiet (a : Action (W × List R) α) : Prop :=
  ∀ m x m', Returns a m x m' → m'.world.2 = m.world.2

theorem quiet_pure (x : α) : Quiet (pure x : Action (W × List R) α) := by
  intro m y m' h
  rw [(returns_pure.mp h).2]

theorem quiet_log (severity : Severity) (text : String) :
    Quiet (Action.log severity text : Action (W × List R) Unit) := by
  intro m u m' h
  rw [returns_log.mp h]
  rfl

theorem quiet_checked (x : Checked α) : Quiet (checked x : Action (W × List R) α) := by
  intro m y m' h
  rw [(returns_checked.mp h).2]

theorem quiet_beside (a : Action W α) : Quiet (a.beside : Action (W × List R) α) := by
  intro m x m' h
  obtain ⟨next, -, rfl⟩ := returns_beside_iff.mp h
  rfl

theorem quiet_bind {a : Action (W × List R) α} {f : α → Action (W × List R) β} (ha : Quiet a)
    (hf : ∀ x, Quiet (f x)) : Quiet (a >>= f) := by
  intro m y m' h
  obtain ⟨x, m₁, hfirst, hrest⟩ := returns_bind.mp h
  exact (hf x m₁ y m' hrest).trans (ha m x m₁ hfirst)

section Recorded

variable {env : Environment W H S ε} {wait : Waiter W ε}

theorem quiet_now (reference : Reference) (clocks : Registry (Numbered H) (Numbered S)) :
    Quiet (reference.now env.recorded clocks) := by
  cases reference with
  | generic utcOffset =>
    exact quiet_bind (quiet_beside _) fun utc =>
      quiet_bind (quiet_checked _) fun t => quiet_pure _
  | phc id =>
    unfold Reference.now
    dsimp only
    split
    · exact quiet_pure _
    · exact quiet_bind (quiet_beside _) fun t => quiet_pure _

theorem quiet_edge (reference : Reference) (clocks : Registry (Numbered H) (Numbered S))
    (phase : Duration) : Quiet (reference.edge env.recorded clocks phase) := by
  refine quiet_bind (quiet_now reference clocks) fun reading => ?_
  cases reading with
  | error e => exact quiet_pure _
  | ok t => exact quiet_bind (quiet_checked _) fun edge => quiet_pure _

namespace EdgeSource

theorem quiet_drainFrom (handle : Numbered H) (name : String) (patience count : Nat) :
    Quiet (drainFrom env.recorded handle name patience count) := by
  induction patience generalizing count with
  | zero => exact quiet_checked _
  | succ patience ih =>
    refine quiet_bind (quiet_beside _) fun next => ?_
    rcases next with e | _ | event
    · exact quiet_pure _
    · exact quiet_pure _
    · exact quiet_bind (quiet_log _ _) fun _ => ih _

theorem quiet_setup (source : EdgeSource) (handle : Numbered H) :
    Quiet (source.setup env.recorded handle) := by
  have hroute : Quiet (source.routePin env.recorded handle) := by
    refine quiet_bind (quiet_beside _) fun pins => ?_
    cases pins with
    | error e => exact quiet_pure _
    | ok pins =>
      dsimp only
      split
      · exact quiet_beside _
      · exact quiet_pure _
  refine quiet_bind hroute fun routed => ?_
  cases routed with
  | error e => exact quiet_pure _
  | ok =>
    refine quiet_bind (quiet_beside _) fun disabled => ?_
    cases disabled with
    | error e =>
      exact quiet_bind (quiet_log _ _) fun _ =>
        quiet_bind (quiet_drainFrom handle source.name _ 0) fun _ => quiet_pure _
    | ok => exact quiet_bind (quiet_drainFrom handle source.name _ 0) fun _ => quiet_pure _

theorem quiet_arm (source : EdgeSource) (handle : Numbered H) :
    Quiet (source.arm env.recorded handle) := by
  refine quiet_bind (quiet_drainFrom handle source.name _ 0) fun drained => ?_
  cases drained with
  | error e => exact quiet_pure _
  | ok => exact quiet_beside _

theorem quiet_takeEvent (source : EdgeSource) (handle : Numbered H) :
    Quiet (source.takeEvent env.recorded handle) := by
  refine quiet_bind (quiet_beside _) fun next => ?_
  rcases next with e | _ | event
  · exact quiet_pure _
  · exact quiet_pure _
  · dsimp only
    split
    · exact quiet_pure _
    · exact quiet_pure _

theorem quiet_pair (source : EdgeSource) (event : EdgeEvent) (reference : Instant) :
    Quiet (source.pair event reference : Action (W × List R) Pairing) := by
  refine quiet_bind (quiet_checked _) fun pairing => ?_
  split
  · exact quiet_bind (quiet_log _ _) fun _ => quiet_pure _
  · exact quiet_pure _

end EdgeSource

/-! ### Quiet phases -/

namespace Orchestrator

variable {o o' : Orchestrator (Numbered H) (Numbered S)} {m m' : Machine (W × Record ε)}

theorem quiet_handleEvent (o : Orchestrator (Numbered H) (Numbered S)) (source : EdgeSource) :
    Quiet (o.handleEvent env.recorded source) := by
  unfold handleEvent
  split
  · exact quiet_pure _
  · refine quiet_bind (source.quiet_takeEvent _) fun taken => ?_
    cases taken with
    | error e => exact quiet_pure _
    | ok event =>
      refine quiet_bind (quiet_now _ _) fun reading => ?_
      cases reading with
      | error e => exact quiet_bind (quiet_log _ _) fun _ => quiet_pure _
      | ok reference =>
        have hkeep : Quiet (o.pairAndKeep source event reference :
            Action (W × Record ε) (Pairing × Orchestrator (Numbered H) (Numbered S))) := by
          refine quiet_bind (source.quiet_pair event reference) fun pairing => ?_
          split
          · exact quiet_bind (quiet_bind (quiet_log _ _) fun _ => quiet_pure _) fun _ =>
              quiet_pure _
          · exact quiet_pure _
        exact quiet_bind hkeep fun _ => quiet_pure _

/-- Collecting events is quiet. -/
theorem Collecting.record {samples : List Sample}
    (h : Collecting env.recorded wait.beside o m samples o' m') : m'.world.2 = m.world.2 := by
  induction h with
  | done => rfl
  | waited hwait _ ih => exact ih.trans (quiet_beside _ _ _ _ hwait)
  | noted severity text _ ih => exact ih
  | dropped hsource hevent hresult _ ih =>
    exact ih.trans (quiet_handleEvent _ _ _ _ _ hevent)
  | kept hsource haccepts _ ih =>
    obtain ⟨-, -, m₁, m₂, htake, hnow, rfl⟩ := haccepts
    exact ih.trans ((quiet_now _ _ _ _ _ hnow).trans (EdgeSource.quiet_takeEvent _ _ _ _ _ htake))

theorem quiet_collectReference (o : Orchestrator (Numbered H) (Numbered S)) :
    Quiet (o.collectReference env.recorded) := by
  unfold collectReference
  split
  · exact quiet_pure _
  · refine quiet_bind (quiet_edge _ _ _) fun edge => ?_
    cases edge with
    | error e => exact quiet_pure _
    | ok edge =>
      dsimp only
      split
      · exact quiet_pure _
      · exact quiet_bind (quiet_bind (quiet_log _ _) fun _ => quiet_pure _) fun _ => quiet_pure _

theorem quiet_sourceTimestamp (o : Orchestrator (Numbered H) (Numbered S)) :
    Quiet (o.sourceTimestamp env.recorded) := by
  unfold sourceTimestamp
  split
  · refine quiet_bind (quiet_edge _ _ _) fun edge => ?_
    cases edge with
    | ok edge => exact quiet_pure _
    | error e => exact quiet_bind (quiet_log _ _) fun _ => quiet_pure _
  · split
    · exact quiet_bind (quiet_log _ _) fun _ => quiet_pure _
    · split
      · exact quiet_pure _
      · split
        · exact quiet_bind (quiet_log _ _) fun _ => quiet_pure _
        · exact quiet_pure _

theorem quiet_armSources (o : Orchestrator (Numbered H) (Numbered S))
    (sources : List EdgeSource) : Quiet (o.armSources env.recorded sources) := by
  induction sources with
  | nil => exact quiet_pure _
  | cons source sources ih =>
    unfold armSources
    split
    · exact quiet_pure _
    · refine quiet_bind (source.quiet_arm _) fun armed => ?_
      cases armed with
      | error e => exact quiet_pure _
      | ok => exact ih

theorem quiet_selectDestinations (o : Orchestrator (Numbered H) (Numbered S))
    (ids : List ClockId) :
    Quiet (o.selectDestinations ids :
      Action (W × Record ε) (Orchestrator (Numbered H) (Numbered S))) := by
  induction ids generalizing o with
  | nil => exact quiet_pure _
  | cons id ids ih =>
    unfold selectDestinations
    split
    · exact ih o
    · split
      · exact ih o
      · exact quiet_bind (quiet_log _ _) fun _ => ih _

theorem quiet_reconfigure (o : Orchestrator (Numbered H) (Numbered S)) :
    Quiet (o.reconfigure :
      Action (W × Record ε) (Option Selection × Orchestrator (Numbered H) (Numbered S))) := by
  unfold reconfigure
  split
  · exact quiet_pure _
  · split
    · have hselect (t : Topology) :
          Quiet (t.reconfigure : Action (W × Record ε) (Selection × Topology)) :=
        quiet_bind (quiet_log _ _) fun _ =>
          quiet_bind (quiet_bind (quiet_log _ _) fun _ => quiet_pure _) fun _ => quiet_pure _
      exact quiet_bind (hselect _) fun _ =>
        quiet_bind (quiet_selectDestinations _ _) fun _ => quiet_pure _
    · exact quiet_pure _

end Orchestrator

theorem Topology.quiet_portStateChanged (t : Topology) (number : UInt16) (state : PortState) :
    Quiet (t.portStateChanged number state : Action (W × List R) (Bool × Topology)) := by
  unfold portStateChanged
  split
  · exact quiet_pure _
  · dsimp only
    split
    · exact quiet_pure _
    · exact quiet_bind (quiet_log _ _) fun _ => quiet_pure _

theorem Topology.quiet_addPort (t : Topology) (number : UInt16) (id : ClockId)
    (state : PortState) : Quiet (t.addPort number id state : Action (W × List R) Topology) := by
  refine quiet_bind (t.quiet_portStateChanged number state) fun changed => ?_
  dsimp only
  split
  · exact quiet_pure _
  · exact quiet_pure _

end Recorded

end ClockDiscipline
