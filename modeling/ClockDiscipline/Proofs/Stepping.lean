/-
  ClockDiscipline/Proofs/Stepping.lean
  ====================================
  **What a kernel is asked for when a clock is corrected.**

  `Interface.noting` is any kernel, where each change that is asked of it is noted
  beside the world.  As long as it grants what it is asked for (`Obliging`), a clock
  that is to jump is stepped once, and the step is what takes the time of its edge to
  that of the source (`steps_onto_source`).  The changes that all clocks together
  give rise to are those that their reports tell of, in the order of the reports and
  no others (`synchronizeClocks_ends`).
-/
import ClockDiscipline.Proofs.FailedStep
import ClockDiscipline.Proofs.SplitTimes

namespace ClockDiscipline

open ClockDiscipline.Action

variable {W F S α β R : Type}

/-! ### Steps that keep a world good -/

/-- The step returns, the world is good after it, and its result and what it has put on
    record are as said. -/
def Action.Ends (good : W → Prop) (m : Machine (W × List R)) (a : Action (W × List R) α)
    (post : α → List R → Prop) : Prop :=
  ∃ x added m', Returns a m x m' ∧ good m'.world.1 ∧ Adds m added m' ∧ post x added

section Ends

variable {good : W → Prop} {m : Machine (W × List R)} {a : Action (W × List R) α}
  {post : α → List R → Prop} {goal : β → List R → Prop}

theorem ends_pure {x : α} (hgood : good m.world.1) (h : post x []) :
    Ends good m (pure x : Action (W × List R) α) post :=
  ⟨x, [], m, returns_pure.mpr ⟨rfl, rfl⟩, hgood, adds_nil m, h⟩

/-- One step after the other puts the two parts of the record together. -/
theorem Action.Ends.bind {f : α → Action (W × List R) β} (h : Ends good m a post)
    (hf : ∀ x first m₁, good m₁.world.1 → post x first →
      Ends good m₁ (f x) fun y second => goal y (first ++ second)) :
    Ends good m (a >>= f) goal := by
  obtain ⟨x, first, m₁, hreturns, hgood, hadds, hpost⟩ := h
  obtain ⟨y, second, m', hreturns', hgood', hadds', hgoal⟩ := hf x first m₁ hgood hpost
  exact ⟨y, first ++ second, m', returns_bind.mpr ⟨x, m₁, hreturns, hreturns'⟩, hgood',
    hadds.trans hadds', hgoal⟩

theorem Action.Ends.imp {goal : α → List R → Prop} (h : Ends good m a post)
    (himp : ∀ x added, post x added → goal x added) : Ends good m a goal := by
  obtain ⟨x, added, m', hreturns, hgood, hadds, hpost⟩ := h
  exact ⟨x, added, m', hreturns, hgood, hadds, himp x added hpost⟩

/-- Whatever holds when the step returns holds besides. -/
theorem Action.Ends.also {P : α → Prop} (h : Ends good m a post)
    (hreturned : ∀ x m', Returns a m x m' → P x) :
    Ends good m a fun x added => P x ∧ post x added := by
  obtain ⟨x, added, m', hreturns, hgood, hadds, hpost⟩ := h
  exact ⟨x, added, m', hreturns, hgood, hadds, hreturned x m' hreturns, hpost⟩

/-- What is written to the journal is not on record. -/
theorem ends_log_bind {severity : Severity} {text : String} {f : Unit → Action (W × List R) β}
    (h : Ends good (noted m severity text) (f ()) goal) :
    Ends good m (Action.log severity text >>= f) goal := by
  obtain ⟨y, added, m', hreturns, hrest⟩ := h
  exact ⟨y, added, m', returns_bind.mpr ⟨(), _, returns_log.mpr rfl, hreturns⟩, hrest⟩

theorem ends_checked_bind {x : Checked α} {w : α} {f : α → Action (W × List R) β} (hx : x = .ok w)
    (h : Ends good m (f w) goal) : Ends good m (checked x >>= f) goal := by
  obtain ⟨y, added, m', hreturns, hrest⟩ := h
  exact ⟨y, added, m', returns_bind.mpr ⟨w, m, returns_checked.mpr ⟨hx, rfl⟩, hreturns⟩, hrest⟩

theorem ends_recording {a : Action W α} (note : α → R) {x : α} {next : Machine W}
    (h : Returns a ⟨m.world.1, m.journal⟩ x next) (hgood : good next.world) :
    Ends good m (a.recording note) fun y added => y = x ∧ added = [note x] := by
  have hnoted : Returns (a.recording note) m x _ := returns_recording_iff.mpr ⟨next, h, rfl⟩
  exact ⟨x, [note x], _, hnoted, hgood, adds_of_recording hnoted, rfl, rfl⟩

theorem ends_beside {a : Action W α} {x : α} {next : Machine W}
    (h : Returns a ⟨m.world.1, m.journal⟩ x next) (hgood : good next.world) :
    Ends good m (a.beside : Action (W × List R) α) fun y added => y = x ∧ added = [] :=
  ⟨x, [], _, returns_beside_iff.mpr ⟨next, h, rfl⟩, hgood, adds_nil m, rfl, rfl⟩

end Ends

/-! ### Changes on record -/

namespace Phc

open Kernel

/-- The changes that a kernel was asked for, oldest first, with the files of the
    clocks. -/
abbrev ChangeLog (F : Type) := List (F × Adjustment)

def Interface.noting (kernel : Interface W F) : Interface (W × ChangeLog F) F where
  openFile path := (kernel.openFile path).beside
  realPath path := (kernel.realPath path).beside
  clocksOfInterface name := (kernel.clocksOfInterface name).beside
  readTime file := (kernel.readTime file).beside
  readFrequency file := (kernel.readFrequency file).beside
  adjust file adjustment := (kernel.adjust file adjustment).recording fun _ => (file, adjustment)
  capabilities file := (kernel.capabilities file).beside
  setInput file request := (kernel.setInput file request).beside
  readBytes file count := (kernel.readBytes file count).beside
  poll files timeoutMs := (kernel.poll files timeoutMs).beside

/-- Kernels refuse a shift whose nanoseconds make a second or more. -/
def Adjustment.Proper : Adjustment → Prop
  | .frequency _ => True
  | .shift _ nanos => nanos.toNat < 1000000000

/-- In a good world each proper change of this clock is granted and its time can be
    read, and the world stays good. -/
structure Interface.Obliging (kernel : Interface W F) (good : W → Prop) (file : F) : Prop where
  grants : ∀ (adjustment : Adjustment) (m : Machine W), adjustment.Proper → good m.world →
    ∃ m', Returns (kernel.adjust file adjustment) m (.ok ()) m' ∧ good m'.world
  shows : ∀ m : Machine W, good m.world →
    ∃ shown m', Returns (kernel.readTime file) m (.ok shown) m' ∧ good m'.world

section Obliging

variable {kernel : Interface W F} {good : W → Prop} {file : F} {m : Machine (W × ChangeLog F)}

/-- A change that is granted is made once, whether or not the time is read after it. -/
theorem Interface.Obliging.adjusts (h : kernel.Obliging good file) {adjustment : Adjustment}
    (hproper : adjustment.Proper) (hgood : good m.world.1) :
    Ends good m (Phc.adjust kernel.noting file adjustment) fun answer added =>
      answer = .ok () ∧ added = [(file, adjustment)] := by
  obtain ⟨next, hgrant, hnext⟩ := h.grants adjustment ⟨m.world.1, m.journal⟩ hproper hgood
  have hchange := ends_recording (fun _ => (file, adjustment)) hgrant hnext
  refine hchange.bind ?_
  rintro _ _ m₁ hm₁ ⟨rfl, rfl⟩
  by_cases hneeds : adjustment.needsTime = true
  · obtain ⟨shown, later, hshown, hlater⟩ := h.shows ⟨m₁.world.1, m₁.journal⟩ hm₁
    simp only [hneeds, if_true]
    refine (ends_beside hshown hlater).bind ?_
    rintro _ _ m₂ hm₂ ⟨rfl, rfl⟩
    exact ends_pure hm₂ ⟨rfl, rfl⟩
  · simp only [hneeds]
    exact ends_pure hm₁ ⟨rfl, rfl⟩

end Obliging

/-! ### Shifts -/

/-- An offset of either sign is asked for as whole seconds, rounded towards the past,
    and the nanoseconds after them. -/
theorem shiftOf_eq (offset : Duration) : ∃ secs nanos,
    shiftOf offset = .shift secs nanos ∧ SplitAs offset.nanos.toInt secs nanos :=
  ⟨_, _, rfl, splitAs_word offset.nanos⟩

theorem proper_shiftOf (offset : Duration) : (shiftOf offset).Proper :=
  (splitAs_word offset.nanos).below

/-- What is asked for so that a clock does what its servo has decided on.  A clock that
    is to jump is moved back by its offset. -/
def changes (file : F) (frequency : Float) (offset : Duration) : ServoState → ChangeLog F
  | .unlocked => []
  | .jump =>
    [(file, .frequency (scaledOfFrequency frequency)), (file, shiftOf ⟨-offset.nanos⟩)]
  | .locked | .lockedStable => [(file, .frequency (scaledOfFrequency frequency))]

end Phc

theorem Duration.neg_eq_ok {d : Duration} (h : IsWord (-d.nanos.toInt)) :
    d.neg = .ok ⟨-d.nanos⟩ := by
  have hword := Int64.toInt_ofInt_of_le h.1 h.2
  rw [Int64.ofInt_neg, Int64.ofInt_toInt] at hword
  exact Checked.map_eq_ok_iff.mpr ⟨_, Checked.word_eq_ok_iff.mpr hword, rfl⟩

/-- A proportional-integral servo always answers, and asks for no change itself. -/
theorem PiServo.sampleNoted_ends {good : W → Prop} {m : Machine (W × List R)} {s : PiServo}
    {offset localNanos : Int64} {weight : Float} (hgood : good m.world.1) :
    Ends good m (s.sampleNoted offset localNanos weight) fun answer added =>
      answer.1.2 = (s.lock.update offset).state ∧ added = [] := by
  have hlock := congrArg LockTracker.state (s.sample_lock offset weight)
  unfold sampleNoted
  dsimp only
  split
  · exact ends_log_bind (ends_pure hgood ⟨hlock, rfl⟩)
  · exact ends_pure hgood ⟨hlock, rfl⟩

/-! ### A computer whose clocks can be changed -/

namespace Bench

/-- The clock device at this position does what it is asked for. -/
def Computer.Obliges (position : Nat) (c : Computer) : Prop :=
  ∃ d, c.files[position]? = some d ∧ d.failure? .adjust = none ∧ d.failure? .readTime = none

theorem returns_fileRequest {operation : Operation} (f : DeviceFile → α)
    (effect : DeviceFile → Computer → Computer) {position : Nat} {m : Machine Computer}
    {d : DeviceFile} (hd : m.world.files[position]? = some d)
    (hgranted : d.failure? operation = none) :
    Returns (fileRequest operation f effect position) m (.ok (f d))
      { m with world := effect d m.world } := by
  apply returns_perform.mpr
  simp only [hd, hgranted, and_self]

theorem Computer.Obliges.modify {c : Computer} {position : Nat} {f : DeviceFile → DeviceFile}
    (h : c.Obliges position) (hf : ∀ d, (f d).failing = d.failing) :
    (c.modify position f).Obliges position := by
  obtain ⟨d, hd, hadjust, hread⟩ := h
  refine ⟨f d, ?_, ?_, ?_⟩
  · simp [Computer.modify, hd]
  · rwa [DeviceFile.failure?, hf]
  · rwa [DeviceFile.failure?, hf]

theorem DeviceFile.failing_adjust (d : DeviceFile) (adjustment : Phc.Adjustment) :
    (d.adjust adjustment).failing = d.failing := by
  -- the new time is a variable here, so that its arithmetic is never unfolded
  have htime (time : Int64) : ({ d with time := time } : DeviceFile).failing = d.failing := rfl
  cases adjustment with
  | frequency scaled => rfl
  | shift secs nanos => exact htime _

theorem clockKernel_obliging (position : Nat) :
    clockKernel.Obliging (Computer.Obliges position) position where
  grants adjustment m _ hgood := by
    obtain ⟨d, hd, hadjust, -⟩ := id hgood
    have hgrant := returns_fileRequest (fun _ => ())
      (fun d c => (c.modify position (·.adjust adjustment)).record (.adjusted d.name adjustment))
      hd hadjust
    exact ⟨_, hgrant, hgood.modify fun d => d.failing_adjust adjustment⟩
  shows m hgood := by
    obtain ⟨d, hd, -, hread⟩ := id hgood
    have hshown := returns_fileRequest (fun d => splitTime d.time)
      (fun _ c => c.modify position fun d => { d with time := d.time + d.step }) hd hread
    exact ⟨_, _, hshown, hgood.modify fun _ => rfl⟩

end Bench

/-- The changes that a report tells of, on the file of its clock. -/
def ClockReport.changes (r : ClockReport) (file : F) : Phc.ChangeLog F :=
  match r.frequency with
  | none => []
  | some frequency => Phc.changes file frequency r.offset r.state

namespace Orchestrator

open Phc

variable {kernel : Phc.Interface W F} {good : W → Prop}
  {env : Environment (W × ChangeLog F) F S PhcError} {m : Machine (W × ChangeLog F)}
  {id : ClockId} {c : Clock F S} {t sourceTime : Instant} {offset : Duration}
  {weight frequency : Float} {state : ServoState}

/-! ### Corrections on record -/

theorem adjust_ends {file : F} (hdevice : env.device = Phc.device kernel.noting)
    (hkernel : kernel.Obliging good file) (hback : IsWord (-offset.nanos.toInt))
    (hstate : state ≠ .unlocked) (hgood : good m.world.1) :
    Ends good m (adjust env file offset frequency state) fun answer added =>
      answer = .ok () ∧ added = changes file frequency offset state := by
  have hfrequency : Ends good m (env.device.setFrequency file frequency) fun answer added =>
      answer = .ok () ∧ added = [(file, .frequency (scaledOfFrequency frequency))] := by
    rw [hdevice]
    exact hkernel.adjusts trivial hgood
  cases state with
  | unlocked => exact absurd rfl hstate
  | locked => exact hfrequency
  | lockedStable => exact hfrequency
  | jump =>
    refine hfrequency.bind ?_
    rintro _ _ m₁ hm₁ ⟨rfl, rfl⟩
    refine ends_checked_bind (Duration.neg_eq_ok hback) ?_
    rw [hdevice]
    refine (hkernel.adjusts (proper_shiftOf ⟨-offset.nanos⟩) hm₁).imp ?_
    rintro _ _ ⟨rfl, rfl⟩
    exact ⟨rfl, rfl⟩

/-- Once the servo has answered, the clock gets what it has decided on, and the report
    tells so. -/
theorem steer_ends {answers : (Float × ServoState) × S → Prop}
    (hdevice : env.device = Phc.device kernel.noting)
    (hkernel : kernel.Obliging good c.handle) (hback : IsWord (-offset.nanos.toInt))
    (hsample : Ends good m (env.servo.sample c.servo offset.nanos t.nanos weight)
      fun answer added => answers answer ∧ added = []) :
    Ends good m (steer env id c offset t weight) fun (report, _) added =>
      ∃ adjustment state servo, answers ((adjustment, state), servo) ∧
        report = ⟨id, c.name, offset, state,
          if state = .unlocked then none else some (env.servo.frequency servo adjustment)⟩ ∧
        added = changes c.handle (env.servo.frequency servo adjustment) offset state := by
  refine hsample.bind ?_
  rintro ⟨⟨adjustment, state⟩, servo⟩ _ m₁ hm₁ ⟨hanswer, rfl⟩
  refine ends_log_bind ?_
  by_cases hunlocked : state = .unlocked
  · subst hunlocked
    exact ends_pure hm₁ ⟨adjustment, .unlocked, servo, hanswer, rfl, rfl⟩
  · simp only [hunlocked, if_false]
    refine Ends.bind (adjust_ends hdevice hkernel hback hunlocked ?_) ?_
    · exact hm₁
    · rintro _ _ m₂ hm₂ ⟨rfl, rfl⟩
      exact ends_pure hm₂ ⟨adjustment, state, servo, hanswer, by rw [if_neg hunlocked], by simp⟩

/-- A clock that is not just watched is steered by what it is ahead of the source. -/
theorem synchronizeClock_steered (hsteered : c.freeRunning = false)
    (hoffset : offset.nanos.toInt = t.nanos.toInt - sourceTime.nanos.toInt) {R : Type}
    {env : Environment (W × List R) F S PhcError} {m : Machine (W × List R)}
    {post : ClockReport × Clock F S → List R → Prop}
    (h : Ends good m (steer env id { c with lastOffset := some offset } offset t weight) post) :
    Ends good m (synchronizeClock env id c t sourceTime weight) post := by
  unfold synchronizeClock
  refine ends_checked_bind (Instant.since_eq_ok_iff.mpr hoffset) ?_
  have hnot : ¬c.freeRunning = true := by simp [hsteered]
  dsimp only
  rw [if_neg hnot]
  exact h

/-- A clock whose servo answers that it is to jump is stepped once, after its frequency is
    set.  The step is what the source is ahead of the clock, be that positive or
    negative, in whole seconds and less than a second of nanoseconds; it takes the
    time of the edge to that of the source. -/
theorem steps_onto_source (hdevice : env.device = Phc.device kernel.noting)
    (hkernel : kernel.Obliging good c.handle) (hsteered : c.freeRunning = false)
    (hoffset : offset.nanos.toInt = t.nanos.toInt - sourceTime.nanos.toInt)
    (hback : IsWord (-offset.nanos.toInt))
    (hjump : Ends good m (env.servo.sample c.servo offset.nanos t.nanos weight)
      fun answer added => answer.1.2 = .jump ∧ added = []) :
    Ends good m (synchronizeClock env id c t sourceTime weight) fun (report, _) added =>
      report.state = .jump ∧ report.offset = offset ∧
      ∃ frequency back secs nanos, report.frequency = some frequency ∧
        added = [(c.handle, .frequency (scaledOfFrequency frequency)),
          (c.handle, .shift secs nanos)] ∧
        SplitAs back.nanos.toInt secs nanos ∧
        sourceTime.since t = .ok back ∧ t.add back = .ok sourceTime := by
  refine synchronizeClock_steered hsteered hoffset ?_
  refine Ends.imp (steer_ends hdevice hkernel hback hjump) ?_
  rintro ⟨report, c'⟩ added ⟨adjustment, state, servo, hstate, hreport, hadded⟩
  obtain rfl : state = .jump := hstate
  obtain rfl : report = _ := hreport
  have hword : (-offset.nanos).toInt = -offset.nanos.toInt :=
    Duration.neg_nanos (Duration.neg_eq_ok hback)
  obtain ⟨secs, nanos, hshift, hsplit⟩ := shiftOf_eq ⟨-offset.nanos⟩
  refine ⟨rfl, rfl, env.servo.frequency servo adjustment, ⟨-offset.nanos⟩, secs, nanos, rfl, ?_,
    hsplit, ?_, ?_⟩
  · rw [hadded, changes, hshift]
  · apply Instant.since_eq_ok_iff.mpr
    dsimp only
    omega
  · apply Instant.add_eq_ok_iff.mpr
    dsimp only
    omega

/-- Clocks of a computer, with a record of what changes of them are asked for. -/
def notingComputer : Environment (Bench.Computer × ChangeLog Nat) Nat PiServo PhcError where
  device := Phc.device Bench.clockKernel.noting
  servo := PiServo.interface
  openClock := Phc.openClock Bench.clockKernel.noting
  makeServo := PiServo.forDevice (Phc.device Bench.clockKernel.noting) {} {}
  systemTime := Action.perform fun (c, log) => (⟨c.realtime⟩, (c, log))
  errorText := PhcError.text
  patience := Bench.waitLimit

/-- A computer with one clock, which has not been changed yet. -/
def oneClock : Machine (Bench.Computer × ChangeLog Nat) where
  world := ({ files := [{ name := "/dev/ptp0" }] }, [])
  journal := #[]

def firstClock : Clock Nat PiServo := .opened "/dev/ptp0" 0 0 (.start {} {} 0 0 1)

/-- A clock that is a second and a quarter ahead is stepped by two seconds less three
    quarters of one, and a clock that is a second and a half behind by a second and
    a half. -/
theorem steps_onto_source_bothSides :
    (Ends (Bench.Computer.Obliges 0) oneClock
      (synchronizeClock notingComputer ⟨0⟩ firstClock ⟨1001250000000⟩ ⟨1000000000000⟩ 1)
      fun (report, _) added => report.state = .jump ∧ ∃ scaled,
        added = [(0, .frequency scaled), (0, .shift (-2) 750000000)]) ∧
    Ends (Bench.Computer.Obliges 0) oneClock
      (synchronizeClock notingComputer ⟨0⟩ firstClock ⟨998500000000⟩ ⟨1000000000000⟩ 1)
      fun (report, _) added => report.state = .jump ∧ ∃ scaled,
        added = [(0, .frequency scaled), (0, .shift 1 500000000)] := by
  have hgood : Bench.Computer.Obliges 0 oneClock.world.1 := ⟨_, rfl, rfl, rfl⟩
  have hkernel := Bench.clockKernel_obliging 0
  have hjumps (offset localNanos : Int64)
      (h : ((LockTracker.start {}).update offset).state = .jump) :
      Ends (Bench.Computer.Obliges 0) oneClock
        (notingComputer.servo.sample firstClock.servo offset localNanos 1)
        fun answer added => answer.1.2 = .jump ∧ added = [] := by
    refine (PiServo.sampleNoted_ends hgood).imp ?_
    rintro answer added ⟨hstate, hadded⟩
    exact ⟨hstate.trans h, hadded⟩
  have hahead : SplitAs (1000000000000 - 1001250000000) (-2) 750000000 := ⟨by decide, by decide⟩
  have hbehind : SplitAs (1000000000000 - 998500000000) 1 500000000 := ⟨by decide, by decide⟩
  constructor
  · refine Ends.imp (steps_onto_source rfl hkernel rfl (by decide) ⟨by decide, by decide⟩
      (hjumps 1250000000 _ (by decide))) ?_
    rintro ⟨report, c'⟩ added ⟨hstate, -, frequency, back, secs, nanos, -, rfl, hsplit, hback, -⟩
    rw [Instant.since_eq_ok_iff.mp hback] at hsplit
    obtain ⟨rfl, rfl⟩ := hsplit.unique hahead
    exact ⟨hstate, _, rfl⟩
  · refine Ends.imp (steps_onto_source rfl hkernel rfl (by decide) ⟨by decide, by decide⟩
      (hjumps (-1500000000) _ (by decide))) ?_
    rintro ⟨report, c'⟩ added ⟨hstate, -, frequency, back, secs, nanos, -, rfl, hsplit, hback, -⟩
    rw [Instant.since_eq_ok_iff.mp hback] at hsplit
    obtain ⟨rfl, rfl⟩ := hsplit.unique hbehind
    exact ⟨hstate, _, rfl⟩

/-! ### All clocks -/

/-- A clock whose edge was at `t` can be corrected against the source: what the two are
    apart can be told and undone, changes of the clock are granted, and its servo
    answers without asking for any itself. -/
structure Correctable (env : Environment (W × ChangeLog F) F S PhcError)
    (kernel : Phc.Interface W F) (good : W → Prop) (c : Clock F S) (t sourceTime : Instant)
    (weight : Float) : Prop where
  apart : ∃ offset, t.since sourceTime = .ok offset ∧ IsWord (-offset.nanos.toInt)
  obliging : kernel.Obliging good c.handle
  answered : ∀ (offset : Duration) (m : Machine (W × ChangeLog F)), good m.world.1 →
    Ends good m (env.servo.sample c.servo offset.nanos t.nanos weight) fun _ added => added = []

/-- On a computer whose clock grants what it is asked for, a proportional-integral servo
    can correct the clock whenever the two times are not too far apart. -/
theorem correctable_notingComputer {c : Clock Nat PiServo}
    (hapart : ∃ offset, t.since sourceTime = .ok offset ∧ IsWord (-offset.nanos.toInt)) :
    Correctable notingComputer Bench.clockKernel (Bench.Computer.Obliges c.handle) c t sourceTime
      weight where
  apart := hapart
  obliging := Bench.clockKernel_obliging c.handle
  answered _ _ hgood := (PiServo.sampleNoted_ends hgood).imp fun _ _ h => h.2

theorem synchronizeClock_ends (hdevice : env.device = Phc.device kernel.noting)
    (h : Correctable env kernel good c t sourceTime weight) (hgood : good m.world.1) :
    Ends good m (synchronizeClock env id c t sourceTime weight) fun (report, _) added =>
      report.clock = id ∧ added = report.changes c.handle := by
  obtain ⟨offset, hoffset, hback⟩ := h.apart
  by_cases hfree : c.freeRunning = true
  · unfold synchronizeClock
    refine ends_checked_bind hoffset ?_
    dsimp only
    rw [if_pos hfree]
    exact ends_log_bind (ends_pure hgood ⟨rfl, rfl⟩)
  · refine synchronizeClock_steered (by simpa using hfree) (Instant.since_eq_ok_iff.mp hoffset) ?_
    have hanswered : Ends good m (env.servo.sample c.servo offset.nanos t.nanos weight)
        fun _ added => True ∧ added = [] :=
      (h.answered offset m hgood).imp fun _ _ hadded => ⟨trivial, hadded⟩
    refine Ends.imp (steer_ends hdevice h.obliging hback hanswered) ?_
    rintro ⟨report, c'⟩ added ⟨adjustment, state, servo, -, hreport, rfl⟩
    obtain rfl : report = _ := hreport
    refine ⟨rfl, ?_⟩
    by_cases hunlocked : state = .unlocked
    · subst hunlocked
      rfl
    · simp only [ClockReport.changes, hunlocked, if_false]

variable {o : Orchestrator F S}

/-- The changes that a report tells of, on the file of the clock that it is about. -/
def reported (o : Orchestrator F S) (r : ClockReport) : ChangeLog F :=
  match o.clocks.get? r.clock with
  | none => []
  | some c => r.changes c.handle

theorem correctOne_ends (hdevice : env.device = Phc.device kernel.noting)
    (hdue : ∀ c t, o.clocks.get? id = some c → c.isDestination = true → c.timestamp = some t →
      Correctable env kernel good c t sourceTime o.config.sampleWeight)
    (hgood : good m.world.1) :
    Ends good m (o.correctOne env sourceTime id) fun (reports, _) added =>
      added = reports.flatMap o.reported := by
  unfold correctOne
  cases hc : o.clocks.get? id with
  | none => exact ends_pure hgood rfl
  | some c =>
    dsimp only
    split
    · exact ends_pure hgood rfl
    · next hdestination =>
      cases ht : c.timestamp with
      | none => exact ends_log_bind (ends_pure hgood rfl)
      | some t =>
        obtain ⟨hapart, hobliging, hanswered⟩ := hdue c t hc (by simpa using hdestination) ht
        have hflushed : Correctable env kernel good c.flushTimestamp t sourceTime
            o.config.sampleWeight := ⟨hapart, hobliging, hanswered⟩
        refine (synchronizeClock_ends hdevice hflushed hgood).bind ?_
        rintro ⟨report, c'⟩ added m₁ hm₁ ⟨rfl, rfl⟩
        refine ends_pure hm₁ ?_
        simp [reported, hc, Clock.flushTimestamp]

/-- All reports are on clocks that were listed. -/
theorem clock_mem_of_synchronizeClocks {W : Type} {env : Environment W F S PhcError}
    {m m' : Machine W} {ids : List ClockId} {x : List ClockReport × Orchestrator F S}
    (hnodup : ids.Nodup) (h : Returns (o.synchronizeClocks env sourceTime ids) m x m') :
    ∀ r ∈ x.1, r.clock ∈ ids := by
  intro r hr
  have hmem : r.clock ∈ x.1.map (·.clock) := List.mem_map_of_mem hr
  rw [synchronizeClocks_clocks hnodup h] at hmem
  exact List.mem_of_mem_filter hmem

/-- Correcting the clocks asks for just the changes that the reports tell of, in the
    order of the reports. -/
theorem synchronizeClocks_ends {ids : List ClockId}
    (hdevice : env.device = Phc.device kernel.noting) (hnodup : ids.Nodup)
    (hdue : ∀ id ∈ ids, ∀ c t, o.clocks.get? id = some c → c.isDestination = true →
      c.timestamp = some t → Correctable env kernel good c t sourceTime o.config.sampleWeight)
    (hgood : good m.world.1) :
    Ends good m (o.synchronizeClocks env sourceTime ids) fun (reports, _) added =>
      added = reports.flatMap o.reported := by
  induction ids generalizing o m with
  | nil => exact ends_pure hgood rfl
  | cons id ids ih =>
    obtain ⟨hid, hnodup⟩ := List.nodup_cons.mp hnodup
    rw [synchronizeClocks_cons]
    have hkeeps (x : List ClockReport × Orchestrator F S) (m' : Machine (W × ChangeLog F))
        (h : Returns (o.correctOne env sourceTime id) m x m') :
        (∀ other ∈ ids, x.2.clocks.get? other = o.clocks.get? other) ∧
          x.2.config = o.config :=
      ⟨fun other hother => correctOne_get?_of_ne h fun heq => hid (heq ▸ hother),
        config_of_setup_eq (correctOne_setup h)⟩
    -- the clocks after this one are still as they were, so what was said of them holds
    refine ((correctOne_ends hdevice (hdue id (by simp)) hgood).also hkeeps).bind ?_
    rintro ⟨first, o₁⟩ _ m₁ hm₁ ⟨⟨hclocks, hconfig⟩, rfl⟩
    have hrest := ih hnodup (o := o₁) (fun other hother c t hc => by
      rw [hclocks other hother] at hc
      rw [hconfig]
      exact hdue other (List.mem_cons_of_mem id hother) c t hc) hm₁
    refine (hrest.also fun _ _ h => clock_mem_of_synchronizeClocks hnodup h).bind ?_
    rintro ⟨rest, o₂⟩ _ m₂ hm₂ ⟨hrest, rfl⟩
    refine ends_pure hm₂ ?_
    have hsame : rest.flatMap o₁.reported = rest.flatMap o.reported := by
      refine List.flatMap_congr fun r hr => ?_
      rw [reported, reported, hclocks r.clock (hrest r hr)]
    rw [hsame, List.append_nil]
    exact List.flatMap_append.symm

end Orchestrator

end ClockDiscipline
