/-
  ClockDiscipline/Proofs/ServoStates.lean
  =======================================
  **The state that a clock keeps is the state of its servo.**

  A clock keeps a state beside its servo, which has one of its own.  Samples and
  unlocking change both, and whatever else is done to a clock leaves both alone.
  So a relation between a servo and a state, once it holds of new servos and
  survives samples and resets, holds of every clock after any operations
  (`Operates.every`).  Of proportional-integral servos it says that the two
  states agree and that an unlocked servo has nothing to forget, which is why
  none is reset twice (`servo_states`).
-/
import ClockDiscipline.Proofs.FreeRunning
import ClockDiscipline.Proofs.LiveHandles

namespace ClockDiscipline

open ClockDiscipline.Action

variable {W H S ε β : Type} {env : Environment W H S ε} {P : S → ServoState → Prop}

/-! ### Relations between servos and states -/

/-- The relation holds of every servo that is made, with the state of a new clock,
    and samples and resets keep it. -/
structure ServoLaw (env : Environment W H S ε) (P : S → ServoState → Prop) : Prop where
  made {handle : H} {servo : S} {m m' : Machine W} :
    Returns (env.makeServo handle) m (.ok servo) m' → P servo .unlocked
  reset {servo next : S} {state : ServoState} {m m' : Machine W} :
    P servo state → Returns (env.servo.reset servo) m next m' → P next .unlocked
  sampled {servo next : S} {state state' : ServoState} {offset localNanos : Int64}
    {weight adjustment : Float} {m m' : Machine W} :
    P servo state →
    Returns (env.servo.sample servo offset localNanos weight) m ((adjustment, state'), next) m' →
    P next state'

namespace Registry

variable {r r' : Registry H S} {id : ClockId}

/-- It holds of every clock. -/
def Every (P : S → ServoState → Prop) (r : Registry H S) : Prop :=
  ∀ id c, r.get? id = some c → P c.servo c.servoState

theorem every_empty : (empty : Registry H S).Every P := by
  intro id c hc
  simp [empty, get?] at hc

/-- Clocks that keep their servos and states keep the relation. -/
theorem Every.kept (h : r.Every P)
    (hkept : ∀ id c', r'.get? id = some c' →
      ∃ c, r.get? id = some c ∧ c'.servo = c.servo ∧ c'.servoState = c.servoState) :
    r'.Every P := by
  intro id c' hc'
  obtain ⟨c, hc, hservo, hstate⟩ := hkept id c' hc'
  rw [hservo, hstate]
  exact h id c hc

theorem Every.map (h : r.Every P) {f : ClockId → Clock H S → Clock H S}
    (hf : ∀ id c, (f id c).servo = c.servo ∧ (f id c).servoState = c.servoState)
    (hget : ∀ id, r'.get? id = (r.get? id).map (f id)) : r'.Every P := by
  refine h.kept fun id c' hc' => ?_
  rw [hget] at hc'
  obtain ⟨c, hc, rfl⟩ := Option.map_eq_some_iff.mp hc'
  exact ⟨c, hc, hf id c⟩

theorem Every.modify (h : r.Every P) {f : Clock H S → Clock H S}
    (hf : ∀ c, (f c).servo = c.servo ∧ (f c).servoState = c.servoState) :
    (r.modify id f).Every P := by
  refine h.map (f := fun other c => if other = id then f c else c) ?_ fun other => ?_
  · intro other c
    split
    · exact hf c
    · exact ⟨rfl, rfl⟩
  · rw [get?_modify]
    split
    · rfl
    · exact Option.map_id'.symm

theorem Every.set (h : r.Every P) {c : Clock H S} (hc : P c.servo c.servoState) :
    (r.set id c).Every P := by
  intro other own hown
  rw [Registry.set, get?_modify] at hown
  split at hown
  · obtain ⟨_, -, rfl⟩ := Option.map_eq_some_iff.mp hown
    exact hc
  · exact h other own hown

theorem Every.destroy {source : Option ClockId} {c : Clock H S} (h : r.Every P)
    (hdestroy : (r.destroy id source : Except (RegistryError ε) _) = .ok (c, r')) :
    r'.Every P := by
  refine h.kept fun other own hown => ?_
  obtain ⟨-, -, hget⟩ := destroy_cases hdestroy
  rw [hget] at hown
  split at hown
  · cases hown
  · exact ⟨own, hown, rfl, rfl⟩

/-- A clock that is opened has a servo that was made for it. -/
theorem Every.getOrCreate {name : String} {m m' : Machine W}
    {result : Except (RegistryError ε) ClockId} (hP : ServoLaw env P) (hr : r.Every P)
    (h : Returns (r.getOrCreate env name) m (result, r') m') : r'.Every P := by
  unfold Registry.getOrCreate at h
  split at h
  · simp only [returns_pure, Prod.mk.injEq] at h
    exact h.1.2 ▸ hr
  · simp only [returns_bind] at h
    obtain ⟨opened, m₁, -, h⟩ := h
    rcases opened with e | ⟨handle, index⟩
    · simp only [returns_pure, Prod.mk.injEq] at h
      exact h.1.2 ▸ hr
    · dsimp only at h
      split at h
      · simp only [returns_bind, returns_log, returns_pure, Prod.mk.injEq] at h
        obtain ⟨_, _, -, ⟨-, rfl⟩, -⟩ := h
        exact hr
      · simp only [returns_bind] at h
        obtain ⟨made, m₂, hmade, h⟩ := h
        rcases made with e | servo
        · simp only [returns_pure, Prod.mk.injEq] at h
          exact h.1.2 ▸ hr
        · simp only [returns_bind, returns_log, returns_pure, Prod.mk.injEq] at h
          obtain ⟨_, _, -, ⟨-, rfl⟩, -⟩ := h
          intro id c hc
          rw [get?_push] at hc
          split at hc
          · cases hc
            exact hP.made hmade
          · exact hr id c hc

end Registry

theorem Stocked.every {view : W → β} {seen₀ seen : β} {r : Registry H S}
    (h : Stocked env view seen₀ seen r) (hP : ServoLaw env P) : r.Every P := by
  induction h with
  | empty => exact Registry.every_empty
  | opened _ hcreate ih => exact ih.getOrCreate hP hcreate
  | destroyed _ hdestroy ih => exact ih.destroy hdestroy

/-! ### What is done to an orchestrator -/

namespace Orchestrator

variable {o o' : Orchestrator H S} {m m' : Machine W} {id : ClockId} {wait : Waiter W ε}
  (hP : ServoLaw env P) (ho : o.clocks.Every P)

include hP ho

theorem openClock_every {name : String} {result : Except (SyncError ε) ClockId}
    (h : Returns (o.openClock env name) m (result, o') m') : o'.clocks.Every P := by
  obtain ⟨opened, clocks, hcreate, ⟨_, -, -, rfl⟩ | ⟨own, -, -, rfl⟩⟩ := openClock_cases h
  · exact ho.getOrCreate hP hcreate
  · exact (ho.getOrCreate hP hcreate).modify fun _ => ⟨rfl, rfl⟩

theorem addSource_every {config : SourceConfig} {result : Except (SyncError ε) ClockId}
    (h : Returns (o.addSource env config) m (result, o') m') : o'.clocks.Every P := by
  rcases addSource_cases h with ⟨_, -, -, -, rfl, -⟩ | ⟨-, opened, o₁, m₁, hopen, hrest⟩
  · exact ho
  · have hopened := openClock_every hP ho hopen
    rcases hrest with ⟨_, -, -, rfl, -⟩ | ⟨source, c, ready, m₂, rfl, -, -, -, hrest⟩
    · exact hopened
    · rcases hrest with ⟨_, -, -, habandon⟩ | ⟨-, -, rfl, -⟩
      · obtain ⟨-, rfl | ⟨-, _, _, hdestroy, rfl⟩⟩ := abandonSource_cases habandon
        · exact hopened
        · exact hopened.destroy hdestroy
      · exact hopened.modify fun _ => ⟨rfl, rfl⟩

omit hP in
theorem reconfigure_every {selection : Option Selection}
    (h : Returns o.reconfigure m (selection, o') m') : o'.clocks.Every P := by
  rcases reconfigure_cases h with ⟨-, rfl⟩ | ⟨t, selected, -, -, -, -, hclocks⟩
  · exact ho
  · exact ho.map (f := Clock.selected t selected) (fun _ _ => ⟨rfl, rfl⟩) hclocks

omit hP in
theorem flushTimestamps_every : o.flushTimestamps.clocks.Every P :=
  ho.map (f := fun _ => Clock.flushTimestamp) (fun _ _ => ⟨rfl, rfl⟩) (o.clocks.get?_map _)

omit hP in
theorem Collecting.every {samples : List Sample} (h : Collecting env wait o m samples o' m') :
    o'.clocks.Every P := by
  -- events change the timestamps of clocks and nothing else
  refine ho.kept fun id c' hc' => ?_
  obtain ⟨c, hc, -⟩ := Registry.get?_of_parts_eq (parts_of_setup_eq h.setup).symm hc'
  rw [h.get? hc] at hc'
  cases hc'
  exact ⟨c, hc, rfl, rfl⟩

theorem unlockDestinations_every (h : Returns (o.unlockDestinations env) m o' m') :
    o'.clocks.Every P := by
  have hparts := parts_of_setup_eq (unlockClocks_setup h)
  intro id c' hc'
  obtain ⟨c, hc, -⟩ := Registry.get?_of_parts_eq hparts.symm hc'
  obtain ⟨own, hown, hset, hunset⟩ := unlockDestinations_get? h hc
  obtain rfl := Option.some.inj (hown.symm.trans hc')
  cases hdest : c.isDestination with
  | false =>
    rw [hunset hdest]
    exact ho id c hc
  | true =>
    cases hset hdest with
    | already => exact ho id c hc
    | reset _ hreset => exact hP.reset (ho id c hc) hreset

theorem poll_every {result : Except (SyncError ε) PollOutcome}
    (h : Returns (o.poll env wait) m (result, o') m') : o'.clocks.Every P := by
  obtain ⟨samples, o₁, m₁, hchain, ⟨rfl, -⟩ | ⟨-, hunlock⟩⟩ := poll_cases h
  · exact Collecting.every ho hchain
  · exact unlockDestinations_every hP (Collecting.every ho hchain) hunlock

omit hP in
theorem collectReference_every {result : Except (SyncError ε) Unit}
    (h : Returns (o.collectReference env) m (result, o') m') : o'.clocks.Every P := by
  cases result with
  | error e =>
    rw [collectReference_error h]
    exact ho
  | ok =>
    rcases collectReference_cases h with ⟨-, rfl⟩ | ⟨own, c, _, edge, _, -, hc, -, -, rfl⟩
    · exact ho
    · exact ho.set (c := { c with timestamp := some edge }) (ho own c hc)

omit hP in
theorem sourceTimestamp_every {edge : Option Instant}
    (h : Returns (o.sourceTimestamp env) m (edge, o') m') : o'.clocks.Every P := by
  by_cases hports : o.topology = none
  · rw [(sourceTimestamp_free hports h).1]
    exact ho
  · refine ho.map (f := fun id c => if o.sourceClock = some id then c.flushTimestamp else c) ?_
      (sourceTimestamp_ports hports h).2
    intro id c
    split
    · exact ⟨rfl, rfl⟩
    · exact ⟨rfl, rfl⟩

omit ho in
/-- A clock takes over the state that its servo answers with, whatever becomes of
    the adjustment. -/
theorem steer_servo {c c' : Clock H S} {offset : Duration} {t : Instant} {weight : Float}
    {report : ClockReport} (hc : P c.servo c.servoState)
    (h : Returns (steer env id c offset t weight) m (report, c') m') :
    P c'.servo c'.servoState := by
  simp only [steer, returns_bind, returns_log] at h
  obtain ⟨⟨⟨adjustment, state⟩, servo⟩, m₁, hsample, _, _, -, h⟩ := h
  have hsampled := hP.sampled hc hsample
  split at h
  · simp only [returns_pure, Prod.mk.injEq] at h
    obtain ⟨⟨-, rfl⟩, -⟩ := h
    exact hsampled
  · simp only [returns_bind] at h
    obtain ⟨adjusted, m₂, -, h⟩ := h
    cases adjusted with
    | ok =>
      simp only [returns_pure, Prod.mk.injEq] at h
      obtain ⟨⟨-, rfl⟩, -⟩ := h
      exact hsampled
    | error e =>
      simp only [returns_bind, returns_log, returns_pure, Prod.mk.injEq] at h
      obtain ⟨_, _, -, ⟨-, rfl⟩, -⟩ := h
      exact hsampled

omit ho in
theorem synchronizeClock_servo {c c' : Clock H S} {t sourceTime : Instant} {weight : Float}
    {report : ClockReport} (hc : P c.servo c.servoState)
    (h : Returns (synchronizeClock env id c t sourceTime weight) m (report, c') m') :
    P c'.servo c'.servoState := by
  simp only [synchronizeClock, returns_bind, returns_checked] at h
  obtain ⟨offset, _, -, h⟩ := h
  split at h
  · simp only [returns_bind, returns_log, returns_pure, Prod.mk.injEq] at h
    obtain ⟨_, _, -, ⟨-, rfl⟩, -⟩ := h
    exact hc
  · exact steer_servo (c := { c with lastOffset := some offset }) hP hc h

theorem synchronizeClocks_every {sourceTime : Instant} {ids : List ClockId}
    {reports : List ClockReport}
    (h : Returns (o.synchronizeClocks env sourceTime ids) m (reports, o') m') :
    o'.clocks.Every P := by
  induction ids generalizing o m reports with
  | nil =>
    simp only [synchronizeClocks, returns_pure, Prod.mk.injEq] at h
    obtain ⟨⟨-, rfl⟩, -⟩ := h
    exact ho
  | cons id ids ih =>
    obtain ⟨first, rest, o₁, m₁, -, hfirst, hrest⟩ := returns_synchronizeClocks_cons.mp h
    refine ih ?_ hrest
    rcases correctOne_cases hfirst with ⟨-, rfl⟩ | ⟨c, t, report, c', -, hc, -, -, rfl, hsync⟩
    · exact ho
    · exact ho.set (synchronizeClock_servo (c := c.flushTimestamp) hP (ho id c hc) hsync)

theorem synchronize_every {reports : List ClockReport}
    (h : Returns (o.synchronize env) m (reports, o') m') : o'.clocks.Every P := by
  simp only [synchronize, returns_bind] at h
  obtain ⟨⟨edge, o₁⟩, m₁, hsource, h⟩ := h
  have ho₁ := sourceTimestamp_every ho hsource
  cases edge with
  | none =>
    simp only [returns_pure, Prod.mk.injEq] at h
    obtain ⟨⟨-, rfl⟩, -⟩ := h
    exact ho₁
  | some t => exact synchronizeClocks_every hP ho₁ h

theorem runCycle_every {result : Except (SyncError ε) (List ClockReport)}
    (h : Returns (o.runCycle env wait) m (result, o') m') : o'.clocks.Every P := by
  obtain ⟨selection, o₁, m₁, outcome, o₂, m₂, hselect, hpoll, h⟩ := runCycle_cases h
  have ho₂ := poll_every hP (flushTimestamps_every (reconfigure_every ho hselect)) hpoll
  rcases h with ⟨rfl, -⟩ | ⟨-, stamped, o₃, m₃, hstamp, h⟩
  · exact ho₂
  · have ho₃ := collectReference_every ho₂ hstamp
    rcases h with ⟨rfl, -⟩ | ⟨-, reports, -, hsync⟩
    · exact ho₃
    · exact synchronize_every hP ho₃ hsync

theorem Operates.every {Waits : Waiter W ε → Prop} (h : Operates env Waits o m o' m') :
    o'.clocks.Every P := by
  cases h with
  | openClock h => exact openClock_every hP ho h
  | addSource h => exact addSource_every hP ho h
  | addPort h =>
    obtain ⟨o₁, m₁, hopen, ⟨_, -, rfl, -⟩ | ⟨_, t, -, -, rfl⟩⟩ := addPort_cases h
    · exact openClock_every hP ho hopen
    · have hopened := openClock_every hP ho hopen
      exact hopened
  | portStateChanged h =>
    rcases portStateChanged_cases h with ⟨rfl, -⟩ | ⟨t, t', -, -, rfl⟩
    · exact ho
    · exact ho
  | reconfigure h => exact reconfigure_every ho h
  | arm h => exact ho
  | flushTimestamps => exact flushTimestamps_every ho
  | poll _ h => exact poll_every hP ho h
  | collectReference h => exact collectReference_every ho h
  | synchronize h => exact synchronize_every hP ho h
  | runCycle _ h => exact runCycle_every hP ho h

theorem Course.every {Waits : Waiter W ε → Prop} {view : W → β} {seen seen' : β}
    (h : Course env Waits view seen o seen' o') : o'.clocks.Every P := by
  induction h with
  | start => exact ho
  | next _ hop ih => exact hop.every hP ih

end Orchestrator

/-! ### Proportional-integral servos -/

namespace PiServo

/-- Nothing has been integrated, and no offset has been judged. -/
structure Untouched (s : PiServo) : Prop where
  drift : s.drift = 0
  lock : s.lock = .start s.lock.thresholds

theorem untouched_reset (s : PiServo) : s.reset.Untouched := ⟨rfl, rfl⟩

theorem Untouched.reset {s : PiServo} (h : s.Untouched) : s.reset = s := by
  have hlock : s.lock.reset = s.lock := h.lock.symm
  rw [PiServo.reset, hlock, ← h.drift]

theorem Untouched.state {s : PiServo} (h : s.Untouched) : s.state = .unlocked := by
  rw [PiServo.state, h.lock]
  rfl

theorem untouched_start (gains : PiGains) (thresholds : LockThresholds)
    (frequency range interval : Float) :
    (start gains thresholds frequency range interval).Untouched := ⟨rfl, rfl⟩

/-- The state is that of the servo, and an unlocked servo is untouched. -/
structure Shows (s : PiServo) (state : ServoState) : Prop where
  state_eq : state = s.state
  untouched : state = .unlocked → s.Untouched

theorem Untouched.shows {s : PiServo} (h : s.Untouched) : s.Shows .unlocked :=
  ⟨h.state.symm, fun _ => h⟩

/-- No sample leads back to the unlocked state. -/
theorem shows_of_sampled {s next : PiServo} {offset localNanos : Int64} {weight adjustment : Float}
    {state : ServoState} {m m' : Machine W}
    (h : Returns (s.sampleNoted offset localNanos weight) m ((adjustment, state), next) m') :
    next.Shows state := by
  obtain ⟨hlock, rfl⟩ := sampleNoted_lock h
  refine ⟨(congrArg LockTracker.state hlock).symm, fun hunlocked => ?_⟩
  exact absurd hunlocked LockTracker.update_state_ne_unlocked

end PiServo

section Pi

variable {env : Environment W H PiServo ε}

theorem servoLaw_shows (hservo : env.servo = PiServo.interface)
    (hmake : ∀ handle m servo m', Returns (env.makeServo handle) m (.ok servo) m' →
      ∃ gains thresholds frequency range interval,
        servo = .start gains thresholds frequency range interval) :
    ServoLaw env PiServo.Shows where
  made hmade := by
    obtain ⟨_, _, _, _, _, rfl⟩ := hmake _ _ _ _ hmade
    exact (PiServo.untouched_start ..).shows
  reset _ hreset := by
    rw [hservo] at hreset
    obtain ⟨rfl, -⟩ := returns_pure.mp hreset
    exact (PiServo.untouched_reset _).shows
  sampled _ hsample := by
    rw [hservo] at hsample
    exact PiServo.shows_of_sampled hsample

namespace Orchestrator

variable {o o' : Orchestrator H PiServo} {m m' : Machine W}

/-- Unlocking resets the servos of all destinations, also of those it skips. -/
theorem unlockDestinations_reset (hservo : env.servo = PiServo.interface)
    (ho : o.clocks.Every PiServo.Shows) (h : Returns (o.unlockDestinations env) m o' m')
    (id : ClockId) :
    o'.clocks.get? id = (o.clocks.get? id).map fun c => if c.isDestination then
      { c with servo := c.servo.reset, servoState := .unlocked } else c := by
  have hparts := parts_of_setup_eq (unlockClocks_setup h)
  cases hc : o.clocks.get? id with
  | none =>
    rw [Option.map_none, Option.eq_none_iff_forall_ne_some]
    intro c' hc'
    obtain ⟨c, hsome, -⟩ := Registry.get?_of_parts_eq hparts.symm hc'
    rw [hc] at hsome
    cases hsome
  | some c =>
    obtain ⟨c', hc', hset, hunset⟩ := unlockDestinations_get? h hc
    rw [hc', Option.map_some, Option.some.injEq]
    by_cases hdest : c.isDestination = true
    · rw [if_pos hdest]
      cases hset hdest with
      -- what was unlocked is passed over, but its servo has nothing to forget
      | already hunlocked => rw [((ho id c hc).untouched hunlocked).reset, ← hunlocked]
      | reset _ hreset =>
        rw [hservo] at hreset
        obtain ⟨rfl, -⟩ := returns_pure.mp hreset
        rfl
    · rw [if_neg hdest, hunset (Bool.eq_false_iff.mpr hdest)]

/-- After any operations, each of which may have failed, on clocks that were opened
    before:

    every clock keeps the state of its own servo, and an unlocked one has
    integrated nothing and counted no offset.  So unlocking leaves the servos of
    all destinations as if each had been reset, and the next offset of a clock
    that keeps the unlocked state makes it jump by the threshold for first
    offsets, of any other clock by that for later ones. -/
theorem servo_states {config : SyncConfig} {clocks : Registry H PiServo} {reference : Reference}
    {view : W → β} {seen₀ seen : β} (hservo : env.servo = PiServo.interface)
    (hmake : ∀ handle m servo m', Returns (env.makeServo handle) m (.ok servo) m' →
      ∃ gains thresholds frequency range interval,
        servo = .start gains thresholds frequency range interval)
    (hclocks : Stocked env view seen₀ seen clocks)
    (h : Leads env (start config clocks reference) o) :
    (∀ id c, o.clocks.get? id = some c → c.servoState = c.servo.state ∧
      (c.servoState = .unlocked →
        c.servo.drift = 0 ∧ c.servo.lock = .start c.servo.lock.thresholds)) ∧
    (∀ m o' m', Returns (o.unlockDestinations env) m o' m' → ∀ id,
      o'.clocks.get? id = (o.clocks.get? id).map fun c => if c.isDestination then
        { c with servo := c.servo.reset, servoState := .unlocked } else c) ∧
    ∀ id c, o.clocks.get? id = some c → ∀ offset localNanos weight m adjustment state next m',
      Returns (env.servo.sample c.servo offset localNanos weight) m
        ((adjustment, state), next) m' →
      (state = .jump ↔ Exceeds (if c.servoState = .unlocked then c.servo.lock.thresholds.firstStep
        else c.servo.lock.thresholds.step) offset) := by
  have hlaw := servoLaw_shows hservo hmake
  have hshows := Course.every hlaw (hclocks.every hlaw) h
  refine ⟨fun id c hc => ?_, fun m o' m' hunlock id => ?_, ?_⟩
  · obtain ⟨hstate, huntouched⟩ := hshows id c hc
    exact ⟨hstate, fun hunlocked => ⟨(huntouched hunlocked).drift, (huntouched hunlocked).lock⟩⟩
  · exact unlockDestinations_reset hservo hshows hunlock id
  · intro id c hc offset localNanos weight m adjustment state next m' hsample
    rw [hservo] at hsample
    obtain ⟨-, rfl⟩ := PiServo.sampleNoted_lock hsample
    rw [LockTracker.update_state_eq_jump_iff, (hshows id c hc).state_eq]
    rfl

/-! ### A clock that has been unlocked again -/

/-- Feed the servo of a device an offset of 50 microseconds, and let the next cycle
    pass without an edge. -/
def edgeThenSilence : Action Bench.World (Orchestrator Nat PiServo) := do
  let (_, o) ← (start {} .empty (.generic .zero)).addSource (steeredBench {}) { device := "eth0" }
  Action.perform fun w => ((), w.change "eth0" { events := [⟨0, ⟨1000000050000⟩⟩] })
  let (_, o) ← o.runCycle (steeredBench {}) (Bench.wait [some 0])
  let (_, o) ← o.runCycle (steeredBench {}) (Bench.wait [some 0])
  return o

/-- Whether the offset has been measured and the clock is unlocked now. -/
def unlockedAgain : Except Fault (Orchestrator Nat PiServo) → Bool
  | .ok o => (o.clocks.get? ⟨0⟩).any fun c =>
    c.servoState == .unlocked && c.lastOffset == some ⟨50000⟩
  | .error _ => false

/-- Its servo has forgotten the offset. -/
theorem servo_states_edgeThenSilence :
    ∃ o c, Leads (steeredBench {}) (start {} .empty (.generic .zero)) o ∧
      o.clocks.get? ⟨0⟩ = some c ∧ c.lastOffset = some ⟨50000⟩ ∧ c.servo.state = .unlocked ∧
      c.servo.drift = 0 ∧ c.servo.lock = .start c.servo.lock.thresholds := by
  have hcheck : unlockedAgain (edgeThenSilence.outcome ⟨refusingSteps.world.1, #[]⟩).1 = true := by
    decide +kernel
  unfold unlockedAgain at hcheck
  split at hcheck
  · next o hrun =>
    obtain ⟨c, hc, hmeasured⟩ := (Option.any_eq_true _ _).mp hcheck
    simp only [Bool.and_eq_true, beq_iff_eq] at hmeasured
    have hreturns := returns_of_outcome hrun
    simp only [edgeThenSilence, returns_bind, returns_perform, returns_pure] at hreturns
    obtain ⟨⟨_, o₁⟩, _, h₁, _, _, ⟨-, rfl⟩, ⟨_, o₂⟩, _, h₂, ⟨_, o₃⟩, _, h₃, rfl, -⟩ := hreturns
    have hstart : Leads (steeredBench {}) (start {} .empty (.generic .zero))
        (start {} .empty (.generic .zero)) := .start
    have hleads := ((hstart.next (.addSource h₁)).next (.runCycle trivial h₂)).next
      (.runCycle trivial h₃)
    have hmake : ∀ handle m servo m',
        Returns ((steeredBench {}).makeServo handle) m (.ok servo) m' →
        ∃ gains thresholds frequency range interval,
          servo = .start gains thresholds frequency range interval := by
      intro handle m servo m' hmade
      obtain ⟨frequency, range, rfl⟩ := PiServo.forDevice_start hmade
      exact ⟨_, _, _, _, _, rfl⟩
    have hclocks : Stocked (steeredBench {}) Bench.World.calls #[] #[] .empty := .empty
    obtain ⟨hstates, -⟩ := servo_states rfl hmake hclocks hleads
    obtain ⟨hstate, huntouched⟩ := hstates _ c hc
    obtain ⟨hdrift, hlock⟩ := huntouched hmeasured.1
    exact ⟨o, c, hleads, hc, hmeasured.2, hstate ▸ hmeasured.1, hdrift, hlock⟩
  · cases hcheck

end Orchestrator

end Pi

end ClockDiscipline
