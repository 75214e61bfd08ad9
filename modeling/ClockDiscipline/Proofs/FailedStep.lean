/-
  ClockDiscipline/Proofs/FailedStep.lean
  ======================================
  **Whether a clock that could not be stepped is stepped later.**

  A proportional-integral servo judges an offset by the offsets before it, and
  is not told whether the clock was really stepped.  After a jump, granted or
  not, a large offset therefore makes the clock jump again only if it exceeds
  the threshold for later offsets, or if the servo was reset in between
  (`stepped_again_of_run`).  With that threshold switched off, as it is unless
  configured, a step that failed is not made up for.
-/
import ClockDiscipline.Bench.Environment
import ClockDiscipline.Proofs.ClockLife
import ClockDiscipline.Proofs.LockHistory

namespace ClockDiscipline

open ClockDiscipline.Action

variable {W H S ε : Type}

/-! ### The requests for one sample -/

section Split

variable {env : Environment W H S ε} {requests before rest : List (ClockRequest ε)} {t : Tuning S}
  {offset : Int64} {adjustment : Float} {state : ServoState}

/-- Only the first request for a sample is a sample. -/
theorem Adjusted.not_sampled {d : Duration} {frequency : Float} {granted : Bool}
    (h : Adjusted d frequency state requests granted) (nanos : Int64) (x : Float)
    (s : ServoState) : .sampled nanos x s ∉ requests := by
  cases h <;> simp

/-- The next request is not to step the clock. -/
def NoStep (requests : List (ClockRequest ε)) : Prop :=
  ∀ back answer later, requests ≠ .step back answer :: later

theorem NoStep.append {later added : List (ClockRequest ε)} (hlater : NoStep later)
    (hadded : NoStep added) : NoStep (later ++ added) := by
  cases later with
  | nil => exact hadded
  | cons r later =>
    intro back answer tail heq
    exact hlater back answer later (by rw [(List.cons.inj heq).1])

/-- An element that is not among the last ones was there before these were
    added, or is the first of them. -/
theorem append_cons_cases {α : Type} {l front back rest : List α} {a x : α} (hx : x ∉ back)
    (h : l ++ a :: back = front ++ x :: rest) :
    (l = front ∧ a = x ∧ back = rest) ∨
      ∃ between, l = front ++ x :: between ∧ rest = between ++ a :: back := by
  rcases List.append_eq_append_iff.mp h with ⟨between, hfront, hlast⟩ | ⟨between, hl, hlast⟩
  · rcases between with _ | ⟨b, between⟩
    · obtain ⟨rfl, rfl⟩ := List.cons.inj hlast
      exact .inl ⟨by simpa using hfront.symm, rfl, rfl⟩
    · rw [(List.cons.inj hlast).2] at hx
      simp at hx
  · rcases between with _ | ⟨b, between⟩
    · obtain ⟨rfl, rfl⟩ := List.cons.inj hlast
      exact .inl ⟨by simpa using hl, rfl, rfl⟩
    · obtain ⟨rfl, rfl⟩ := List.cons.inj hlast
      exact .inr ⟨between, hl, rfl⟩

/-- A life is taken apart at a sample: into the life before it, the requests for
    it, and whatever comes after those. -/
theorem Life.split (h : Life env requests t)
    (hsplit : requests = before ++ .sampled offset adjustment state :: rest) :
    ∃ t₀ t₁ own later report, Life env before t₀ ∧
      Steered env t₀ (.sampled offset adjustment state :: own) t₁ report ∧ rest = own ++ later ∧
      NoStep later := by
  induction h generalizing rest with
  | opened hservo => cases before <;> simp at hsplit
  | @reset requests t servo m m' hlife hreset ih =>
    have hreset : NoStep [ClockRequest.reset (ε := ε)] := by simp [NoStep]
    rcases append_cons_cases List.not_mem_nil hsplit with ⟨-, hsame, -⟩ | ⟨between, hearlier, rfl⟩
    · cases hsame
    · obtain ⟨t₀, t₁, own, later, report, hbefore, hown, rfl, hlater⟩ := ih hearlier
      exact ⟨t₀, t₁, own, later ++ [.reset], report, hbefore, hown, List.append_assoc ..,
        hlater.append hreset⟩
  | measured _ hlife ih => exact ih hsplit
  | @steered requests added t t' report hlife hsteered ih =>
    -- the sample is the one that was fed here, or an earlier one
    have hfed := hsteered
    cases hfed with
    | @fed d localNanos weight x s servo own granted m m' hsample hadjusted =>
      have hadded : NoStep (.sampled d.nanos x s :: own) := by simp [NoStep]
      rcases append_cons_cases (hadjusted.not_sampled _ _ _) hsplit with
        ⟨rfl, hsame, rfl⟩ | ⟨between, hearlier, rfl⟩
      · rw [hsame] at hsteered
        exact ⟨t, _, own, [], _, hlife, hsteered, (List.append_nil own).symm, by simp [NoStep]⟩
      · obtain ⟨t₀, t₁, own', later, report', hbefore, hown', rfl, hlater⟩ := ih hearlier
        exact ⟨t₀, t₁, own', later ++ .sampled d.nanos x s :: own, report', hbefore, hown',
          List.append_assoc .., hlater.append hadded⟩

end Split

/-! ### Proportional-integral servos -/

/-- What a request tells a servo about its lock. -/
def ClockRequest.lockEvent? : ClockRequest ε → Option LockEvent
  | .sampled offset _ _ => some (.offset offset)
  | .reset => some .reset
  | .opened | .frequency .. | .step .. => none

/-- What the servo of a device has been told about its lock. -/
def lockEvents (requests : List (ClockRequest ε)) : List LockEvent :=
  requests.filterMap ClockRequest.lockEvent?

theorem lockEvents_append (requests added : List (ClockRequest ε)) :
    lockEvents (requests ++ added) = lockEvents requests ++ lockEvents added :=
  List.filterMap_append ..

theorem Adjusted.lockEvents {d : Duration} {frequency : Float} {state : ServoState}
    {requests : List (ClockRequest ε)} {granted : Bool}
    (h : Adjusted d frequency state requests granted) : lockEvents requests = [] := by
  cases h <;> rfl

theorem PiServo.sample_lock (s : PiServo) (offset : Int64) (weight : Float) :
    (s.sample offset weight).2.lock = s.lock.update offset := by
  unfold PiServo.sample
  dsimp only
  split <;> rfl

/-- The lock of a servo is updated by the offset, and its state is the answer. -/
theorem PiServo.sampleNoted_lock {s next : PiServo} {offset localNanos : Int64}
    {weight adjustment : Float} {state : ServoState} {m m' : Machine W}
    (h : Returns (s.sampleNoted offset localNanos weight) m ((adjustment, state), next) m') :
    next.lock = s.lock.update offset ∧ state = (s.lock.update offset).state := by
  have hlock := s.sample_lock offset weight
  simp only [PiServo.sampleNoted] at h
  generalize s.sample offset weight = answer at h hlock
  obtain ⟨x, servo⟩ := answer
  have hanswer : next = servo ∧ state = servo.state := by
    dsimp only at h
    split at h
    · simp only [returns_bind, returns_log, returns_pure, Prod.mk.injEq] at h
      obtain ⟨_, _, -, ⟨⟨-, rfl⟩, rfl⟩, -⟩ := h
      exact ⟨rfl, rfl⟩
    · simp only [returns_pure, Prod.mk.injEq] at h
      obtain ⟨⟨⟨-, rfl⟩, rfl⟩, -⟩ := h
      exact ⟨rfl, rfl⟩
  obtain ⟨rfl, rfl⟩ := hanswer
  exact ⟨hlock, congrArg LockTracker.state hlock⟩

section Pi

variable {env : Environment W H PiServo ε} {gains : PiGains} {thresholds : LockThresholds}
  {requests : List (ClockRequest ε)} {t : Tuning PiServo}

/-- The servo that is made for a device has not been fed anything yet. -/
theorem PiServo.forDevice_start {device : DeviceInterface W H ε} {handle : H} {servo : PiServo}
    {m m' : Machine W}
    (h : Returns (PiServo.forDevice device gains thresholds handle) m (.ok servo) m') :
    ∃ frequency range, servo = .start gains thresholds frequency range 1 := by
  simp only [PiServo.forDevice, returns_bind] at h
  obtain ⟨frequency, m₁, -, h⟩ := h
  cases frequency with
  | error e => simp at h
  | ok frequency =>
    simp only [returns_bind] at h
    obtain ⟨written, m₂, -, h⟩ := h
    cases written with
    | error e => simp at h
    | ok =>
      simp only [returns_bind] at h
      obtain ⟨greatest, m₃, -, h⟩ := h
      cases greatest with
      | error e => simp at h
      | ok greatest =>
        simp only [returns_pure, Except.ok.injEq] at h
        exact ⟨frequency, greatest, h.1⟩

/-- The lock of a servo is a matter of the offsets and resets it was told, and of
    nothing that was asked of the device. -/
theorem Life.lock (hservo : env.servo = PiServo.interface)
    (hmake : env.makeServo = PiServo.forDevice env.device gains thresholds)
    (h : Life env requests t) :
    t.servo.lock = (LockHistory.after thresholds (lockEvents requests)).tracker := by
  -- only resets and offsets reach the lock, so the two histories grow together
  induction h with
  | opened hopened =>
    rw [hmake] at hopened
    obtain ⟨_, _, rfl⟩ := PiServo.forDevice_start hopened
    rfl
  | reset hlife hreset ih =>
    rw [hservo] at hreset
    obtain ⟨rfl, -⟩ := returns_pure.mp hreset
    rw [lockEvents_append, LockHistory.after, List.foldl_append]
    exact congrArg LockTracker.reset ih
  | measured offset hlife ih => exact ih
  | steered hlife hsteered ih =>
    cases hsteered with
    | @fed offset localNanos weight adjustment state servo own granted m m' hsample hadjusted =>
      rw [hservo] at hsample
      obtain ⟨hupdated, -⟩ := PiServo.sampleNoted_lock hsample
      have htold : lockEvents (.sampled offset.nanos adjustment state :: own) =
          [.offset offset.nanos] :=
        congrArg (LockEvent.offset offset.nanos :: ·) hadjusted.lockEvents
      rw [lockEvents_append, htold, LockHistory.after, List.foldl_append]
      exact hupdated.trans (congrArg (·.update offset.nanos) ih)

/-- The next request is to step the clock back by an offset. -/
def StepsBack (offset : Int64) : List (ClockRequest ε) → Prop
  | .step back _ :: _ => back.nanos.toInt = -offset.toInt
  | _ => False

theorem Duration.neg_nanos {d back : Duration} (h : d.neg = .ok back) :
    back.nanos.toInt = -d.nanos.toInt := by
  cases hword : Checked.neg d.nanos with
  | error e => simp [Duration.neg, hword] at h
  | ok nanos =>
    obtain rfl : Duration.ofNanos nanos = back := by simpa [Duration.neg, hword] using h
    exact Checked.word_eq_ok_iff.mp hword

/-- A locked servo, and one whose clock is to jump, first sets a frequency; if that
    is granted and the clock is to jump, it is stepped next, and else it is not. -/
theorem Adjusted.stepsBack_iff {d : Duration} {frequency : Float} {state : ServoState}
    {granted : Bool} {later : List (ClockRequest ε)} (hstate : state ≠ .unlocked)
    (h : Adjusted d frequency state requests granted) (hlater : NoStep later) :
    ∃ answer tail, requests ++ later = .frequency frequency answer :: tail ∧
      (StepsBack d.nanos tail ↔ state = .jump ∧ answer = .ok ()) ∧
      (StepsBack d.nanos tail ∨ NoStep tail) := by
  have hnone : ¬StepsBack d.nanos later := by
    intro hsteps
    unfold StepsBack at hsteps
    split at hsteps
    · exact hlater _ _ _ rfl
    · exact hsteps
  cases h with
  | unlocked => exact absurd rfl hstate
  | refused => exact ⟨_, later, rfl, by simp [hnone], .inr hlater⟩
  | given hlocked =>
    have hnot : state ≠ .jump := by
      rintro rfl
      cases hlocked
    exact ⟨_, later, rfl, by simp [hnone, hnot], .inr hlater⟩
  | stepped hback =>
    have hnegated := Duration.neg_nanos hback
    exact ⟨_, _, rfl, by simp [StepsBack, hnegated], .inl hnegated⟩
  | stuck hback =>
    have hnegated := Duration.neg_nanos hback
    exact ⟨_, _, rfl, by simp [StepsBack, hnegated], .inl hnegated⟩

/-- After a jump, whatever became of it, a clock is at its first offset again only
    if the servo was reset. -/
theorem sinceReset_after_jump {before middle : List (ClockRequest ε)} {first : Int64}
    {adjustment : Float} :
    sinceReset (lockEvents (before ++ .sampled first adjustment .jump :: middle)) = [] ↔
      (lockEvents middle).getLast? = some .reset := by
  have htold : lockEvents (before ++ .sampled first adjustment .jump :: middle) =
      lockEvents before ++ .offset first :: lockEvents middle := lockEvents_append ..
  rw [htold, sinceReset_eq_nil_iff, List.getLast?_append, List.getLast?_cons]
  cases (lockEvents middle).getLast? <;> simp

/-! ### Any run -/

/-- Let a clock be steered by a proportional-integral servo, and let it be to jump
    at some time, whatever its device answers to that.  When it has an offset
    later that would make it jump at first, a frequency is set, and the clock
    is stepped next, back by the offset, exactly if

    the frequency is granted, and either the servo was reset after the last
    offset, or the offset exceeds the threshold for later offsets as well. -/
theorem stepped_again_of_run {record : Record ε} {o : Orchestrator (Numbered H) (Numbered PiServo)}
    {id : ClockId} {c : Clock (Numbered H) (Numbered PiServo)}
    {before middle rest : List (ClockRequest ε)} {first offset : Int64}
    {adjustment adjustment' : Float} {state : ServoState}
    (hservo : env.servo = PiServo.interface)
    (hmake : env.makeServo = PiServo.forDevice env.device gains thresholds)
    (hfirst : 0 < thresholds.firstStep.toInt)
    (hrun : Orchestrator.Run env record o) (hc : o.clocks.get? id = some c)
    (hrequests : record.of c.handle.number =
      (before ++ .sampled first adjustment .jump :: middle) ++
        .sampled offset adjustment' state :: rest)
    (hlarge : thresholds.firstStep.toInt < offsetSize offset) :
    (state = .jump ↔
      (lockEvents middle).getLast? = some .reset ∨ Exceeds thresholds.step offset) ∧
    ∃ frequency answer tail, rest = .frequency frequency answer :: tail ∧
      (StepsBack offset tail ↔ state = .jump ∧ answer = .ok ()) ∧
      (StepsBack offset tail ∨ NoStep tail) := by
  obtain ⟨t, t', own, later, report, hlife, hsteered, rfl, hlater⟩ :=
    (hrun.chronicle.clock id c hc).life.split hrequests
  have hlock := hlife.lock hservo hmake
  generalize hown : .sampled offset adjustment' state :: own = requests at hsteered
  cases hsteered with
  | @fed d localNanos weight x s servo own' granted m m' hsample hadjusted =>
    obtain ⟨⟨rfl, rfl, rfl⟩, rfl⟩ := by simpa using hown
    rw [hservo] at hsample
    obtain ⟨-, hstate⟩ := PiServo.sampleNoted_lock hsample
    rw [hlock] at hstate
    have hjump : state = .jump ↔
        (lockEvents middle).getLast? = some .reset ∨ Exceeds thresholds.step d.nanos := by
      have hexceeds : Exceeds thresholds.firstStep d.nanos := ⟨hfirst, hlarge⟩
      rw [hstate, LockHistory.update_state_eq_jump_iff]
      by_cases hreset : (lockEvents middle).getLast? = some .reset
      · rw [if_pos (sinceReset_after_jump.mpr hreset)]
        simp [hexceeds, hreset]
      · rw [if_neg (mt sinceReset_after_jump.mp hreset)]
        simp [hreset]
    have hlocked : state ≠ .unlocked := hstate ▸ LockTracker.update_state_ne_unlocked
    obtain ⟨answer, tail, hrest, hsteps⟩ := hadjusted.stepsBack_iff hlocked hlater
    exact ⟨hjump, _, answer, tail, hrest, hsteps⟩

end Pi

/-! ### A device that can not be stepped -/

/-- A bench on which clocks are steered by proportional-integral servos. -/
def steeredBench (thresholds : LockThresholds) :
    Environment Bench.World Nat PiServo Bench.Failure where
  device := Bench.devices
  servo := PiServo.interface
  openClock := Bench.openClock
  makeServo := PiServo.forDevice Bench.devices {} thresholds
  systemTime := Action.perform fun w => (w.systemTime, w)
  errorText := Bench.Failure.text
  patience := Bench.waitLimit

def refusingSteps : Machine (Bench.World × Record Bench.Failure) where
  world :=
    ({ devices := [{ name := "eth0", failing := [.step] }], systemTime := ⟨1000000000000⟩ }, [])
  journal := #[]

/-- Run a cycle once an edge has come in that is 50 microseconds late. -/
def cycleWithLateEdge (thresholds : LockThresholds)
    (o : Orchestrator (Numbered Nat) (Numbered PiServo)) :
    Action (Bench.World × Record Bench.Failure)
      (Except (SyncError Bench.Failure) (List ClockReport) ×
        Orchestrator (Numbered Nat) (Numbered PiServo)) := do
  Action.perform fun (w, record) =>
    ((), (w.change "eth0" { events := [⟨0, ⟨1000000050000⟩⟩] }, record))
  o.runCycle (steeredBench thresholds).recorded (Bench.wait [some 0]).beside

/-- Listen to the device, and run two such cycles. -/
def twoLateEdges (thresholds : LockThresholds) : Action (Bench.World × Record Bench.Failure)
    (Orchestrator (Numbered Nat) (Numbered PiServo)) := do
  let (_, o) ← (Orchestrator.start {} .empty (.generic .zero)).addSource
    (steeredBench thresholds).recorded { device := "eth0" }
  let (_, o) ← cycleWithLateEdge thresholds o
  let (_, o) ← cycleWithLateEdge thresholds o
  return o

/-- Whether the only clock was to jump and could not be stepped, and which state
    the second edge then led to. -/
def endsIn (state : ServoState) (record : Record Bench.Failure) :
    Except Fault (Orchestrator (Numbered Nat) (Numbered PiServo)) → Bool
  | .ok o => (o.clocks.get? ⟨0⟩).any fun c =>
    match record.of c.handle.number with
    | .opened :: .sampled first _ .jump :: .frequency _ (.ok ()) :: .step _ (.error _) ::
        .sampled second _ state' :: _ => first == 50000 && second == 50000 && state' == state
    | _ => false
  | .error _ => false

theorem exists_twoLateEdges {thresholds : LockThresholds} {state : ServoState}
    (h : endsIn state ((twoLateEdges thresholds).outcome refusingSteps).2.world.2
      ((twoLateEdges thresholds).outcome refusingSteps).1 = true) :
    ∃ (record : Record Bench.Failure) (o : Orchestrator (Numbered Nat) (Numbered PiServo))
      (c : Clock (Numbered Nat) (Numbered PiServo)) (adjustment frequency adjustment' : Float)
      (back : Duration) (e : Bench.Failure) (rest : List (ClockRequest Bench.Failure)),
      Orchestrator.Run (steeredBench thresholds) record o ∧ o.clocks.get? ⟨0⟩ = some c ∧
      record.of c.handle.number =
        ([.opened] ++ .sampled 50000 adjustment .jump ::
          [.frequency frequency (.ok ()), .step back (.error e)]) ++
          .sampled 50000 adjustment' state :: rest := by
  rcases hrun : (twoLateEdges thresholds).outcome refusingSteps with ⟨_ | o, m'⟩
  · rw [hrun] at h
    cases h
  · rw [hrun] at h
    replace hrun : Returns (twoLateEdges thresholds) refusingSteps o m' := hrun
    obtain ⟨c, hc, hrequests⟩ := (Option.any_eq_true _ _).mp h
    split at hrequests
    · next first x f back e second x' state' rest hrecord =>
      simp only [Bool.and_eq_true, beq_iff_eq] at hrequests
      obtain ⟨⟨rfl, rfl⟩, rfl⟩ := hrequests
      simp only [twoLateEdges, cycleWithLateEdge, returns_bind, returns_perform, returns_pure]
        at hrun
      obtain ⟨⟨_, o₁⟩, m₁, hadd, ⟨_, o₂⟩, m₂, ⟨_, _, ⟨-, rfl⟩, hfirst⟩, ⟨_, o₃⟩, m₃,
        ⟨_, _, ⟨-, rfl⟩, hsecond⟩, rfl, rfl⟩ := hrun
      have hstart : Orchestrator.Run (steeredBench thresholds) []
          (.start {} .empty (.generic .zero)) := .start _ _ .empty
      have hadded := hstart.next (.addSource hadd) rfl
      have hjumped := hadded.next (.runCycle hfirst) rfl
      exact ⟨_, _, c, x, f, x', back, e, rest, hjumped.next (.runCycle hsecond) rfl, hc, hrecord⟩
    · cases hrequests

/-- With a threshold for later offsets the clock is stepped again. -/
theorem stepped_again_of_run_lateEdges :
    ∃ (record : Record Bench.Failure) (o : Orchestrator (Numbered Nat) (Numbered PiServo))
      (c : Clock (Numbered Nat) (Numbered PiServo)) (requests : List (ClockRequest Bench.Failure))
      (adjustment frequency : Float) (answer : Except Bench.Failure Unit)
      (tail : List (ClockRequest Bench.Failure)),
      Orchestrator.Run (steeredBench { step := 20000 }) record o ∧
      o.clocks.get? ⟨0⟩ = some c ∧
      record.of c.handle.number = requests ++
        .sampled 50000 adjustment .jump :: .frequency frequency answer :: tail ∧
      (StepsBack 50000 tail ↔ answer = .ok ()) := by
  have hend : endsIn .jump ((twoLateEdges { step := 20000 }).outcome refusingSteps).2.world.2
      ((twoLateEdges { step := 20000 }).outcome refusingSteps).1 = true := by decide +kernel
  obtain ⟨record, o, c, x, f, x', back, e, rest, hrun, hc, hrequests⟩ := exists_twoLateEdges hend
  have hmake : (steeredBench { step := 20000 }).makeServo =
      PiServo.forDevice Bench.devices {} { step := 20000 } := rfl
  obtain ⟨-, frequency, answer, tail, rfl, hsteps, -⟩ :=
    stepped_again_of_run rfl hmake (by decide) hrun hc hrequests (by decide)
  exact ⟨record, o, c, _, x', frequency, answer, tail, hrun, hc, hrequests, by simpa using hsteps⟩

/-- By default a step that was refused is not made up for, however large the next
    offset is. -/
theorem not_forall_stepped_again :
    ¬∀ record o, Orchestrator.Run (steeredBench {}) record o →
      ∀ id c, o.clocks.get? id = some c →
      ∀ before middle rest first adjustment offset adjustment' state,
        record.of c.handle.number =
          (before ++ .sampled first adjustment .jump :: middle) ++
            .sampled offset adjustment' state :: rest →
        (∃ request ∈ middle, (∃ value e, request = .frequency value (.error e)) ∨
          ∃ back e, request = .step back (.error e)) →
        (∀ nanos x s, .sampled nanos x s ∉ middle) →
        ({} : LockThresholds).firstStep.toInt < offsetSize offset →
        state = .jump := by
  intro hall
  have hend : endsIn .locked ((twoLateEdges {}).outcome refusingSteps).2.world.2
      ((twoLateEdges {}).outcome refusingSteps).1 = true := by decide +kernel
  obtain ⟨record, o, c, x, f, x', back, e, rest, hrun, hc, hrequests⟩ := exists_twoLateEdges hend
  have hjump := hall record o hrun ⟨0⟩ c hc _ _ _ _ _ _ _ _ hrequests
    ⟨.step back (.error e), by simp, .inr ⟨back, e, rfl⟩⟩ (by simp) (by decide)
  cases hjump

end ClockDiscipline
