/-
  ClockDiscipline/Proofs/FreeRunning.lean
  =======================================
  **A clock that runs freely is given one frequency, its own.**

  The record of a run holds what changes a frequency, a clock or a servo; here
  the making of servos is on it too.  If offsets are only measured, no cycle
  adds to it, so what stands on record for a device is its opening and what
  making its servo has asked of it (`free_running_record`).
-/
import ClockDiscipline.Proofs.FailedStep
import ClockDiscipline.Proofs.Observing

namespace ClockDiscipline

open ClockDiscipline.Action

variable {W H S ε : Type} {env : Environment W H S ε}

/-! ### Making servos on record -/

/-- The same environment, with servos that are made in this way. -/
def Environment.withServos (env : Environment W H S ε) (make : H → Action W (Except ε S)) :
    Environment W H S ε :=
  { env with makeServo := make }

section Servos

variable {make : H → Action W (Except ε S)} {wait : Waiter W ε}

theorem drainFrom_withServos (handle : H) (name : String) (patience count : Nat) :
    drainFrom (env.withServos make) handle name patience count =
      drainFrom env handle name patience count := by
  induction patience generalizing count with
  | zero => rfl
  | succ patience ih =>
    unfold drainFrom
    simp only [ih]
    rfl

theorem EdgeSource.setup_withServos (source : EdgeSource) (handle : H) :
    source.setup (env.withServos make) handle = source.setup env handle := by
  simp only [setup, drain, drainFrom_withServos]
  rfl

namespace Orchestrator

theorem armSources_withServos (o : Orchestrator H S) (sources : List EdgeSource) :
    o.armSources (env.withServos make) sources = o.armSources env sources := by
  induction sources with
  | nil => rfl
  | cons source sources ih =>
    simp only [armSources, ih, EdgeSource.arm, drain, drainFrom_withServos]
    rfl

theorem disarmSources_withServos (o : Orchestrator H S) (sources : List EdgeSource) :
    o.disarmSources (env.withServos make) sources = o.disarmSources env sources := by
  induction sources with
  | nil => rfl
  | cons source sources ih =>
    simp only [disarmSources, ih, EdgeSource.disarm, drain, drainFrom_withServos]
    rfl

theorem releaseClocks_withServos (clocks : Registry H S) (ids : List ClockId) :
    releaseClocks (env.withServos make) clocks ids = releaseClocks env clocks ids := by
  induction ids generalizing clocks with
  | nil => rfl
  | cons id ids ih =>
    simp only [releaseClocks, ih]
    rfl

theorem shutdown_withServos (o : Orchestrator H S) :
    o.shutdown (env.withServos make) = o.shutdown env := by
  simp only [shutdown, disarmSources_withServos, releaseClocks_withServos]

theorem handleReady_withServos (o : Orchestrator H S) (p : Progress) (ready : List Nat) :
    o.handleReady (env.withServos make) p ready = o.handleReady env p ready := by
  induction ready generalizing o p with
  | nil => rfl
  | cons index ready ih =>
    unfold handleReady
    simp only [ih]
    rfl

theorem unlockClocks_withServos (o : Orchestrator H S) (ids : List ClockId) :
    o.unlockClocks (env.withServos make) ids = o.unlockClocks env ids := by
  induction ids generalizing o with
  | nil => rfl
  | cons id ids ih =>
    unfold unlockClocks
    simp only [ih]
    rfl

theorem collect_withServos (patience : Nat) (o : Orchestrator H S) (p : Progress) :
    collect (env.withServos make) wait patience o p = collect env wait patience o p := by
  induction patience generalizing o p with
  | zero => rfl
  | succ patience ih =>
    rw [collect.eq_def, collect.eq_def]
    simp only [ih, handleReady_withServos, unlockDestinations, unlockClocks_withServos]

theorem poll_withServos (o : Orchestrator H S) :
    o.poll (env.withServos make) wait = o.poll env wait := by
  unfold poll
  rw [collect_withServos]
  rfl

theorem synchronizeClocks_withServos (o : Orchestrator H S) (sourceTime : Instant)
    (ids : List ClockId) :
    o.synchronizeClocks (env.withServos make) sourceTime ids =
      o.synchronizeClocks env sourceTime ids := by
  induction ids generalizing o with
  | nil => rfl
  | cons id ids ih =>
    unfold synchronizeClocks
    simp only [ih]
    rfl

theorem synchronize_withServos (o : Orchestrator H S) :
    o.synchronize (env.withServos make) = o.synchronize env := by
  unfold synchronize
  simp only [synchronizeClocks_withServos]
  rfl

end Orchestrator

end Servos

/-! ### What is on record -/

/-- A way to make a servo in which nothing is asked of any other device. -/
def OwnDevice (make : Numbered H → Action (W × Record ε) (Except ε (Numbered S))) : Prop :=
  ∀ handle m result m', Returns (make handle) m result m' →
    ∃ seeds : List (ClockRequest ε), Adds m (seeds.map (Numbered.mk handle.number)) m'

/-- What a device has been asked, if it was opened and a servo was made for it, and
    nothing else. -/
inductive Seeded (make : Numbered H → Action (W × Record ε) (Except ε (Numbered S)))
    (number : Nat) : List (ClockRequest ε) → Prop where
  | unopened : Seeded make number []
  | opened : Seeded make number [.opened]
  | served {handle : Numbered H} {result : Except ε (Numbered S)} {m m' : Machine (W × Record ε)}
      {seeds : List (ClockRequest ε)} :
      handle.number = number → Returns (make handle) m result m' →
      Adds m (seeds.map (Numbered.mk number)) m' → Seeded make number (.opened :: seeds)

/-- Nothing else is on record for any device. -/
structure SeededRecord (make : Numbered H → Action (W × Record ε) (Except ε (Numbered S)))
    (record : Record ε) : Prop where
  numbers : ∀ r ∈ record, r.number < record.length
  device : ∀ number, Seeded make number (record.of number)

section OnRecord

variable {make : Numbered H → Action (W × Record ε) (Except ε (Numbered S))} {record : Record ε}
  {m m' : Machine (W × Record ε)}

theorem seededRecord_nil : SeededRecord make [] where
  numbers r hr := by cases hr
  device number := .unopened

/-- A device that is opened has a number of its own. -/
theorem SeededRecord.opened {seeds : List (ClockRequest ε)} (h : SeededRecord make record)
    (hseeds : Seeded make record.length (.opened :: seeds)) :
    SeededRecord make
      (record ++ (.opened :: seeds : List (ClockRequest ε)).map (Numbered.mk record.length)) where
  numbers r hr := by
    rw [List.length_append, List.length_map, List.length_cons]
    rcases List.mem_append.mp hr with hr | hr
    · exact Nat.lt_of_lt_of_le (h.numbers r hr) (Nat.le_add_right _ _)
    · obtain ⟨_, -, rfl⟩ := List.mem_map.mp hr
      exact Nat.lt_add_of_pos_right (Nat.succ_pos _)
  device number := by
    rw [Record.of_append, Record.of_numbered]
    split
    · next hnumber =>
      subst hnumber
      rwa [Record.of_eq_nil fun r hr => Nat.ne_of_lt (h.numbers r hr), List.nil_append]
    · rw [List.append_nil]
      exact h.device number

theorem getOrCreate_seeded {r r' : Registry (Numbered H) (Numbered S)} {name : String}
    {result : Except (RegistryError ε) ClockId} (hown : OwnDevice make)
    (hrecord : SeededRecord make m.world.2)
    (h : Returns (r.getOrCreate (env.recorded.withServos make) name) m (result, r') m') :
    SeededRecord make m'.world.2 := by
  unfold Registry.getOrCreate at h
  split at h
  · simp only [returns_pure] at h
    rwa [h.2]
  · simp only [returns_bind] at h
    obtain ⟨opened, m₁, hopen, h⟩ := h
    rcases opened with e | ⟨handle, index⟩
    · simp only [returns_pure] at h
      rwa [h.2, openNumbered_error hopen]
    · obtain ⟨hnumber, hadds⟩ := openNumbered_ok hopen
      have hopened := hrecord.opened .opened
      dsimp only at h
      split at h
      · simp only [returns_bind, returns_log, returns_pure] at h
        obtain ⟨_, _, rfl, -, rfl⟩ := h
        show SeededRecord make m₁.world.2
        rwa [hadds]
      · simp only [returns_bind] at h
        obtain ⟨made, m₂, hmake, h⟩ := h
        obtain ⟨seeds, hseeds⟩ := hown handle m₁ made m₂ hmake
        rw [hnumber] at hseeds
        have hserved : SeededRecord make m₂.world.2 := by
          have hserved := hrecord.opened (.served hnumber hmake hseeds)
          rwa [hseeds, hadds, List.append_assoc]
        cases made with
        | error e =>
          simp only [returns_pure] at h
          rwa [h.2]
        | ok servo =>
          simp only [returns_bind, returns_log, returns_pure] at h
          obtain ⟨_, _, rfl, -, rfl⟩ := h
          exact hserved

/-! ### The servo of the program -/

/-- The servo that starts from the frequency of the device, made on record. -/
def Environment.servoFromDevice (env : Environment W H S ε) (gains : PiGains)
    (thresholds : LockThresholds) (wrap : PiServo → S) (handle : Numbered H) :
    Action (W × Record ε) (Except ε (Numbered S)) := do
  let made ← PiServo.forDevice env.recorded.device gains thresholds handle
  return made.map fun servo => ⟨handle.number, wrap servo⟩

/-- It reads the frequency, and writes back what it has read. -/
theorem servoFromDevice_adds {gains : PiGains} {thresholds : LockThresholds} {wrap : PiServo → S}
    {handle : Numbered H} {result : Except ε (Numbered S)}
    (h : Returns (env.servoFromDevice gains thresholds wrap handle) m result m') :
    Adds m [] m' ∨ ∃ frequency answer m₁ m₂,
      Returns (env.device.frequency handle.value) m₁ (.ok frequency) m₂ ∧
      Adds m [⟨handle.number, .frequency frequency answer⟩] m' := by
  simp only [Environment.servoFromDevice, returns_bind, returns_pure] at h
  obtain ⟨made, m₁, hmake, -, rfl⟩ := h
  simp only [PiServo.forDevice, returns_bind] at hmake
  obtain ⟨read, m₂, hread, hmake⟩ := hmake
  have hquiet := quiet_beside _ _ _ _ hread
  obtain ⟨next, hplain, -⟩ := returns_beside_iff.mp hread
  cases read with
  | error e =>
    simp only [returns_pure] at hmake
    rw [hmake.2]
    exact .inl (hquiet.trans (List.append_nil _).symm)
  | ok frequency =>
    simp only [returns_bind] at hmake
    obtain ⟨answer, m₃, hset, hmake⟩ := hmake
    have hadds : Adds m [⟨handle.number, .frequency frequency answer⟩] m₃ := by
      have hwritten := Orchestrator.setFrequency_record hset
      rwa [Adds, hquiet] at hwritten
    refine .inr ⟨frequency, answer, _, _, hplain, ?_⟩
    cases answer with
    | error e =>
      simp only [returns_pure] at hmake
      rwa [hmake.2]
    | ok =>
      simp only [returns_bind] at hmake
      obtain ⟨range, m₄, hrange, hmake⟩ := hmake
      have hadds₄ : Adds m [⟨handle.number, .frequency frequency (.ok ())⟩] m₄ :=
        (quiet_beside _ _ _ _ hrange).trans hadds
      cases range with
      | error e =>
        simp only [returns_pure] at hmake
        rwa [hmake.2]
      | ok range =>
        simp only [returns_pure] at hmake
        rwa [hmake.2]

theorem ownDevice_servoFromDevice (gains : PiGains) (thresholds : LockThresholds)
    (wrap : PiServo → S) : OwnDevice (env.servoFromDevice gains thresholds wrap) := by
  intro handle m result m' h
  rcases servoFromDevice_adds h with hadds | ⟨frequency, answer, _, _, -, hadds⟩
  · exact ⟨[], hadds⟩
  · exact ⟨[.frequency frequency answer], hadds⟩

/-- With this servo a device has been given one frequency at most, which is the one
    that it had. -/
theorem Seeded.of_servoFromDevice {gains : PiGains} {thresholds : LockThresholds}
    {wrap : PiServo → S} {number : Nat} {requests : List (ClockRequest ε)}
    (h : Seeded (env.servoFromDevice gains thresholds wrap) number requests) :
    requests = [] ∨ requests = [.opened] ∨ ∃ handle frequency answer m₁ m₂,
      Returns (env.device.frequency handle) m₁ (.ok frequency) m₂ ∧
      requests = [.opened, .frequency frequency answer] := by
  cases h with
  | unopened => exact .inl rfl
  | opened => exact .inr (.inl rfl)
  | @served handle result m m' seeds hnumber hmake hadds =>
    rcases servoFromDevice_adds hmake with hnone | ⟨frequency, answer, m₁, m₂, hread, hone⟩
    · have hseeds := List.append_cancel_left (hadds.symm.trans hnone)
      obtain rfl := List.map_eq_nil_iff.mp hseeds
      exact .inr (.inl rfl)
    · have hseeds := List.append_cancel_left (hadds.symm.trans hone)
      obtain ⟨seed, rfl, hseed⟩ := List.map_eq_singleton_iff.mp hseeds
      obtain ⟨-, rfl⟩ := Numbered.mk.inj hseed
      exact .inr (.inr ⟨handle.value, frequency, answer, m₁, m₂, hread, rfl⟩)

end OnRecord

/-! ### Operations on record -/

/-- Clocks that were opened, and destroyed, by themselves.  Between two requests the
    world may change in any way that leaves the same `view` of it. -/
inductive Stocked {β : Type} (env : Environment W H S ε) (view : W → β) (seen₀ : β) :
    β → Registry H S → Prop where
  | empty : Stocked env view seen₀ seen₀ .empty
  | opened {r r' : Registry H S} {m m' : Machine W} {name : String}
      {result : Except (RegistryError ε) ClockId} :
      Stocked env view seen₀ (view m.world) r →
      Returns (r.getOrCreate env name) m (result, r') m' →
      Stocked env view seen₀ (view m'.world) r'
  | destroyed {seen : β} {r r' : Registry H S} {id : ClockId} {source : Option ClockId}
      {c : Clock H S} :
      Stocked env view seen₀ seen r →
      (r.destroy id source : Except (RegistryError ε) _) = .ok (c, r') →
      Stocked env view seen₀ seen r'

/-- No clock is a destination before there is an orchestrator. -/
theorem Stocked.fresh {β : Type} {view : W → β} {seen₀ seen : β} {r : Registry H S}
    (h : Stocked env view seen₀ seen r) {id : ClockId} {c : Clock H S} (hc : r.get? id = some c) :
    c.servoState = .unlocked ∧ c.isDestination = false := by
  induction h generalizing id c with
  | empty => simp [Registry.empty, Registry.get?] at hc
  | opened _ hcreate ih =>
    rcases Registry.getOrCreate_clock hcreate hc with hc | ⟨-, -, index, handle, servo, rfl⟩
    · exact ih hc
    · exact ⟨rfl, rfl⟩
  | destroyed _ hdestroy ih =>
    obtain ⟨-, -, hget⟩ := Registry.destroy_cases hdestroy
    rw [hget] at hc
    split at hc
    · cases hc
    · exact ih hc

/-- A wait that is not on record. -/
def Waiter.IsBeside (wait : Waiter (W × Record ε) ε) : Prop :=
  ∃ plain : Waiter W ε, wait = plain.beside

namespace Orchestrator

variable {make : Numbered H → Action (W × Record ε) (Except ε (Numbered S))}
  {o o' : Orchestrator (Numbered H) (Numbered S)} {m m' : Machine (W × Record ε)}

theorem Observed.start {seen₀ seen : Record ε} {clocks : Registry (Numbered H) (Numbered S)}
    {config : SyncConfig} (reference : Reference) (hfree : config.freeRunning = true)
    (h : Stocked (env.recorded.withServos make) Prod.snd seen₀ seen clocks) :
    (start config clocks reference).Observed where
  free := hfree
  unfed id c hc := (h.fresh hc).1
  destination id c hc hset := by
    rw [(h.fresh hc).2] at hset
    cases hset
  port p hp := by cases hp

theorem openClock_seeded {name : String} {result : Except (SyncError ε) ClockId}
    (hown : OwnDevice make) (hrecord : SeededRecord make m.world.2)
    (h : Returns (o.openClock (env.recorded.withServos make) name) m (result, o') m') :
    SeededRecord make m'.world.2 := by
  obtain ⟨opened, clocks, hcreate, -⟩ := openClock_cases h
  exact getOrCreate_seeded hown hrecord hcreate

/-! ### What puts nothing on record -/

theorem Observed.poll_record {wait : Waiter W ε} {result : Except (SyncError ε) PollOutcome}
    (ho : o.Observed)
    (h : Returns (o.poll (env.recorded.withServos make) wait.beside) m (result, o') m') :
    m'.world.2 = m.world.2 := by
  rw [poll_withServos] at h
  obtain ⟨-, samples, hchain⟩ := ho.poll h
  exact hchain.record

theorem Observed.synchronize_record {reports : List ClockReport} (ho : o.Observed)
    (h : Returns (o.synchronize (env.recorded.withServos make)) m (reports, o') m') :
    m'.world.2 = m.world.2 := by
  rw [synchronize_withServos] at h
  obtain ⟨-, edge, o₁, m₁, hsource, hworld⟩ := ho.synchronize h
  rw [hworld, quiet_sourceTimestamp o _ _ _ hsource]

theorem Observed.runCycle_record {wait : Waiter W ε}
    {result : Except (SyncError ε) (List ClockReport)} (ho : o.Observed)
    (h : Returns (o.runCycle (env.recorded.withServos make) wait.beside) m (result, o') m') :
    m'.world.2 = m.world.2 := by
  simp only [Orchestrator.runCycle, returns_bind] at h
  obtain ⟨⟨selection, o₁⟩, m₁, hselect, ⟨outcome, o₂⟩, m₂, hpoll, h⟩ := h
  have ho₁ := (ho.reconfigure hselect).flushTimestamps
  have ho₂ := (ho₁.poll hpoll).1
  have hpolled := (ho₁.poll_record hpoll).trans (quiet_reconfigure o _ _ _ hselect)
  cases outcome with
  | error e =>
    simp only [returns_pure] at h
    rwa [h.2]
  | ok outcome =>
    cases outcome with
    | ambiguous | timeout =>
      simp only [returns_pure] at h
      rwa [h.2]
    | collected =>
      simp only [returns_bind] at h
      obtain ⟨⟨stamped, o₃⟩, m₃, hstamp, h⟩ := h
      have ho₃ := ho₂.collectReference hstamp
      have hstamped := (quiet_collectReference o₂ _ _ _ hstamp).trans hpolled
      cases stamped with
      | error e =>
        simp only [returns_pure] at h
        rwa [h.2]
      | ok =>
        simp only [returns_bind, returns_pure] at h
        obtain ⟨⟨reports, o₄⟩, m₄, hsync, -, rfl⟩ := h
        exact (ho₃.synchronize_record hsync).trans hstamped

theorem quiet_disarmSources (o : Orchestrator (Numbered H) (Numbered S))
    (sources : List EdgeSource) : Quiet (o.disarmSources env.recorded sources) := by
  induction sources with
  | nil => exact quiet_pure _
  | cons source sources ih =>
    have hdisarm (c : Clock (Numbered H) (Numbered S)) :
        Quiet (source.disarm env.recorded c.handle) := by
      refine quiet_bind (quiet_beside _) fun disabled => ?_
      cases disabled with
      | error e => exact quiet_pure _
      | ok =>
        exact quiet_bind (EdgeSource.quiet_drainFrom _ _ _ 0) fun _ => quiet_pure _
    unfold disarmSources
    split
    · exact ih
    · refine quiet_bind (hdisarm _) fun disarmed => ?_
      cases disarmed with
      | error e => exact quiet_bind (quiet_log _ _) fun _ => ih
      | ok => exact ih

theorem quiet_releaseClocks (clocks : Registry (Numbered H) (Numbered S)) (ids : List ClockId) :
    Quiet (releaseClocks env.recorded clocks ids) := by
  induction ids generalizing clocks with
  | nil => exact quiet_pure _
  | cons id ids ih =>
    unfold releaseClocks
    dsimp only
    split
    · exact quiet_bind (quiet_log _ _) fun _ => ih _
    · exact ih _

theorem quiet_shutdown (o : Orchestrator (Numbered H) (Numbered S)) :
    Quiet (o.shutdown env.recorded) :=
  quiet_bind (o.quiet_disarmSources o.sources) fun _ => quiet_releaseClocks _ _

/-- A cycle that returns, a phase of one by itself, or the shutdown. -/
inductive Serves (env : Environment W H S ε) (Waits : Waiter W ε → Prop)
    (o : Orchestrator H S) (m m' : Machine W) : Prop where
  | runCycle {o' : Orchestrator H S} {wait : Waiter W ε}
      {result : Except (SyncError ε) (List ClockReport)} :
      Waits wait → Returns (o.runCycle env wait) m (result, o') m' → Serves env Waits o m m'
  | poll {o' : Orchestrator H S} {wait : Waiter W ε}
      {result : Except (SyncError ε) PollOutcome} :
      Waits wait → Returns (o.poll env wait) m (result, o') m' → Serves env Waits o m m'
  | synchronize {o' : Orchestrator H S} {reports : List ClockReport} :
      Returns (o.synchronize env) m (reports, o') m' → Serves env Waits o m m'
  | shutdown {left : Registry H S} :
      Returns (o.shutdown env) m left m' → Serves env Waits o m m'

theorem Serves.record (ho : o.Observed)
    (h : Serves (env.recorded.withServos make) Waiter.IsBeside o m m') :
    m'.world.2 = m.world.2 := by
  cases h with
  | runCycle hwait h =>
    obtain ⟨plain, rfl⟩ := hwait
    exact ho.runCycle_record h
  | poll hwait h =>
    obtain ⟨plain, rfl⟩ := hwait
    exact ho.poll_record h
  | synchronize h => exact ho.synchronize_record h
  | shutdown h =>
    rw [shutdown_withServos] at h
    exact quiet_shutdown o _ _ _ h

/-! ### What any operations put on record -/

/-- Only an operation that opens a device puts anything on record, and that is about
    the device it opens. -/
theorem Operates.seeded (hown : OwnDevice make) (ho : o.Observed)
    (hrecord : SeededRecord make m.world.2)
    (h : Operates (env.recorded.withServos make) Waiter.IsBeside o m o' m') :
    SeededRecord make m'.world.2 := by
  cases h with
  | openClock h => exact openClock_seeded hown hrecord h
  | addSource h =>
    rcases addSource_cases h with ⟨_, -, -, -, -, rfl⟩ | ⟨-, opened, o₁, m₁, hopen, hrest⟩
    · exact hrecord
    · have hopened := openClock_seeded hown hrecord hopen
      rcases hrest with ⟨e, -, -, -, rfl⟩ | ⟨source, c, ready, m₂, -, -, -, hsetup, hrest⟩
      · exact hopened
      · rw [EdgeSource.setup_withServos] at hsetup
        rw [← source.quiet_setup _ _ _ _ hsetup] at hopened
        rcases hrest with ⟨e, -, -, habandon⟩ | ⟨-, -, -, rfl⟩
        · rwa [(abandonSource_cases habandon).1]
        · exact hopened
  | addPort h =>
    obtain ⟨o₁, m₁, hopen, hrest⟩ := addPort_cases h
    have hopened := openClock_seeded hown hrecord hopen
    rcases hrest with ⟨e, -, -, rfl⟩ | ⟨id, t, -, hadd, -⟩
    · exact hopened
    · rwa [Topology.quiet_addPort _ _ _ _ _ _ _ hadd]
  | portStateChanged h =>
    rcases portStateChanged_cases h with ⟨-, rfl, -⟩ | ⟨t, t', -, hchanged, -⟩
    · exact hrecord
    · rwa [Topology.quiet_portStateChanged _ _ _ _ _ _ hchanged]
  | reconfigure h => rwa [quiet_reconfigure o _ _ _ h]
  | arm h =>
    rw [Orchestrator.arm, armSources_withServos] at h
    rwa [quiet_armSources o _ _ _ _ h]
  | flushTimestamps => exact hrecord
  | poll hwait h =>
    obtain ⟨plain, rfl⟩ := hwait
    rwa [ho.poll_record h]
  | collectReference h => rwa [quiet_collectReference o _ _ _ h]
  | synchronize h => rwa [ho.synchronize_record h]
  | runCycle hwait h =>
    obtain ⟨plain, rfl⟩ := hwait
    rwa [ho.runCycle_record h]

theorem Stocked.seeded {seen : Record ε} {clocks : Registry (Numbered H) (Numbered S)}
    (hown : OwnDevice make)
    (h : Stocked (env.recorded.withServos make) Prod.snd [] seen clocks) :
    SeededRecord make seen := by
  induction h with
  | empty => exact seededRecord_nil
  | opened _ hcreate ih => exact getOrCreate_seeded hown ih hcreate
  | destroyed _ _ ih => exact ih

theorem Course.seeded {seen₀ seen : Record ε} {o₀ : Orchestrator (Numbered H) (Numbered S)}
    (hown : OwnDevice make) (ho : o₀.Observed) (hrecord : SeededRecord make seen₀)
    (h : Course (env.recorded.withServos make) Waiter.IsBeside Prod.snd seen₀ o₀ seen o) :
    o.Observed ∧ SeededRecord make seen := by
  induction h with
  | start => exact ⟨ho, hrecord⟩
  | next _ hop ih => exact ⟨hop.observed ih.1, hop.seeded hown ih.1 ih.2⟩

/-- After any operations on clocks of which none is to be corrected, some of which
    may have been opened before the orchestrator was made:

    neither a cycle nor any phase of one, nor the shutdown, samples or resets a
    servo, gives a device a frequency or steps it; and all that a device has ever
    been asked of these is what making its servo once asked of it.  If that is a
    servo that starts from the frequency of its device, it is to take on the
    frequency that was read of it. -/
theorem free_running_record {config : SyncConfig} {clocks : Registry (Numbered H) (Numbered S)}
    {reference : Reference} {record₀ record : Record ε} (hown : OwnDevice make)
    (hfree : config.freeRunning = true)
    (hstocked : Stocked (env.recorded.withServos make) Prod.snd [] record₀ clocks)
    (hcourse : Course (env.recorded.withServos make) Waiter.IsBeside Prod.snd record₀
      (start config clocks reference) record o) :
    (∀ m m', m.world.2 = record →
      Serves (env.recorded.withServos make) Waiter.IsBeside o m m' → m'.world.2 = record) ∧
    (∀ number, Seeded make number (record.of number)) ∧
    ∀ gains thresholds wrap, make = env.servoFromDevice gains thresholds wrap →
      ∀ number, record.of number = [] ∨ record.of number = [.opened] ∨
        ∃ handle frequency answer m₁ m₂,
          Returns (env.device.frequency handle) m₁ (.ok frequency) m₂ ∧
          record.of number = [.opened, .frequency frequency answer] := by
  have hstart := Observed.start reference hfree hstocked
  obtain ⟨ho, hrecord⟩ := hcourse.seeded hown hstart (Stocked.seeded hown hstocked)
  refine ⟨?_, hrecord.device, ?_⟩
  · intro m m' hm hserves
    rw [hserves.record ho, hm]
  · rintro gains thresholds wrap rfl number
    exact (hrecord.device number).of_servoFromDevice

/-! ### A clock that was there before -/

def observedBench : Environment (Bench.World × Record Bench.Failure) (Numbered Nat)
    (Numbered PiServo) Bench.Failure :=
  (steeredBench {}).recorded.withServos ((steeredBench {}).servoFromDevice {} {} id)

def oneDevice : Machine (Bench.World × Record Bench.Failure) where
  world := ({ devices := [{ name := "eth0" }], systemTime := ⟨1000000000000⟩ }, [])
  journal := #[]

/-- A clock is opened, an orchestrator that only measures is made for it, and in a
    cycle there is an edge that is late. -/
def measureLateEdge : Action (Bench.World × Record Bench.Failure)
    (Except (SyncError Bench.Failure) (List ClockReport) ×
      Orchestrator (Numbered Nat) (Numbered PiServo)) := do
  let (_, clocks) ← Registry.empty.getOrCreate observedBench "eth0"
  let (_, o) ← (start { freeRunning := true } clocks (.generic .zero)).addSource observedBench
    { device := "eth0" }
  Action.perform fun (w, record) =>
    ((), (w.change "eth0" { events := [⟨0, ⟨1000000050000⟩⟩] }, record))
  o.runCycle observedBench (Bench.wait [some 0]).beside

/-- Whether there is a report on the edge, and more on record than the opening. -/
def reportsEdge (record : Record Bench.Failure) :
    Except Fault (Except (SyncError Bench.Failure) (List ClockReport) ×
      Orchestrator (Numbered Nat) (Numbered PiServo)) → Bool
  | .ok (.ok [report], _) => report.offset.nanos == 50000 && (record.of 0).length == 2
  | _ => false

/-- The offset is reported, and the frequency of the clock was written when it was
    opened and not since. -/
theorem free_running_record_lateEdge :
    ∃ (record₀ record : Record Bench.Failure)
      (clocks : Registry (Numbered Nat) (Numbered PiServo))
      (o : Orchestrator (Numbered Nat) (Numbered PiServo)) (frequency : Float)
      (answer : Except Bench.Failure Unit),
      Stocked observedBench Prod.snd [] record₀ clocks ∧
      Course observedBench Waiter.IsBeside Prod.snd record₀
        (start { freeRunning := true } clocks (.generic .zero)) record o ∧
      record.of 0 = [.opened, .frequency frequency answer] := by
  have hcheck : reportsEdge (measureLateEdge.outcome oneDevice).2.world.2
      (measureLateEdge.outcome oneDevice).1 = true := by decide +kernel
  rcases hrun : measureLateEdge.outcome oneDevice with ⟨_ | ⟨result, o⟩, m'⟩
  · rw [hrun] at hcheck
    cases hcheck
  · rw [hrun] at hcheck
    have hlength : (m'.world.2.of 0).length = 2 := by
      unfold reportsEdge at hcheck
      split at hcheck
      · simp only [Bool.and_eq_true, beq_iff_eq] at hcheck
        exact hcheck.2
      · cases hcheck
    replace hrun : Returns measureLateEdge oneDevice (result, o) m' := hrun
    simp only [measureLateEdge, returns_bind, returns_perform] at hrun
    obtain ⟨⟨_, clocks⟩, m₁, hopen, ⟨_, o₁⟩, m₂, hadd, _, _, ⟨-, rfl⟩, hcycle⟩ := hrun
    have hstocked : Stocked observedBench Prod.snd [] m₁.world.2 clocks :=
      .opened (m := oneDevice) .empty hopen
    have hadded : Course observedBench Waiter.IsBeside Prod.snd m₁.world.2
        (start { freeRunning := true } clocks (.generic .zero)) m₂.world.2 o₁ :=
      Course.start.followed (.addSource hadd) rfl
    have hcourse : Course observedBench Waiter.IsBeside Prod.snd m₁.world.2
        (start { freeRunning := true } clocks (.generic .zero)) m'.world.2 o :=
      hadded.followed (.runCycle ⟨_, rfl⟩ hcycle) rfl
    obtain ⟨-, -, hseeds⟩ :=
      free_running_record (ownDevice_servoFromDevice {} {} id) rfl hstocked hcourse
    rcases hseeds {} {} id rfl 0 with hnone | hopened | ⟨_, frequency, answer, _, _, -, hseeded⟩
    · rw [hnone] at hlength
      cases hlength
    · rw [hopened] at hlength
      cases hlength
    · exact ⟨_, _, clocks, o, frequency, answer, hstocked, hcourse, hseeded⟩

end Orchestrator

end ClockDiscipline
