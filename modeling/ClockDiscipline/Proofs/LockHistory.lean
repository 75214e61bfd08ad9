/-
  ClockDiscipline/Proofs/LockHistory.lean
  =======================================
  **The state of a lock as a function of every offset since the last reset.**

  A tracker keeps a state and a counter and forgets the offsets.  Here they are
  kept, each with the state that was reported for it, and the state reported
  next is read off them: by the position of an offset, by its size, and for a
  stable lock by the last few reports (`reported_state`).  The counter stops
  at the greatest word, which no configured count exceeds.
-/
import ClockDiscipline.Servo.Lock
import Mathlib.Data.List.DropRight

namespace ClockDiscipline

/-- The distance of an offset from zero, where the least word counts as the
    greatest. -/
def offsetSize (offset : Int64) : Int := min offset.toInt.natAbs 0x7FFFFFFFFFFFFFFF

theorem Checked.toInt_magnitude (a : Int64) : (Checked.magnitude a).toInt = offsetSize a := by
  have hlow : -0x8000000000000000 ≤ a.toInt := a.le_toInt
  have hhigh : a.toInt < 0x8000000000000000 := a.toInt_lt
  unfold Checked.magnitude offsetSize
  split
  · next hleast =>
    rw [Int64.toInt_ofInt_of_le (by decide) (by decide), hleast]
    rfl
  · next hnot =>
    rw [Int64.toInt_ofInt_of_le (by omega) (by omega)]
    omega

/-! ### What a tracker is told, and what it reports -/

inductive LockEvent where
  | offset (nanos : Int64)
  | reset
deriving DecidableEq, Repr

def LockEvent.offset? : LockEvent → Option Int64
  | .offset nanos => some nanos
  | .reset => none

/-- The offsets after the last reset, oldest first. -/
def sinceReset (events : List LockEvent) : List Int64 :=
  (events.rtakeWhile fun e => e ≠ .reset).filterMap LockEvent.offset?

theorem sinceReset_eq_nil_iff {events : List LockEvent} :
    sinceReset events = [] ↔ events = [] ∨ events.getLast? = some .reset := by
  induction events using List.reverseRecOn with
  | nil => simp [sinceReset]
  | append_singleton events e =>
    cases e with
    | reset => simp [sinceReset]
    | offset nanos => simp [sinceReset, LockEvent.offset?]

structure Judgement where
  offset : Int64
  state : ServoState
deriving DecidableEq, Repr

/-- A tracker and what it has reported since it was made or last reset, oldest
    first. -/
structure LockHistory where
  tracker : LockTracker
  judged : List Judgement
deriving DecidableEq, Repr

namespace LockHistory

def start (thresholds : LockThresholds) : LockHistory := ⟨.start thresholds, []⟩

def next (h : LockHistory) : LockEvent → LockHistory
  | .offset nanos =>
    ⟨h.tracker.update nanos, h.judged ++ [⟨nanos, (h.tracker.update nanos).state⟩]⟩
  | .reset => ⟨h.tracker.reset, []⟩

/-- A tracker made with these thresholds, after these events. -/
def after (thresholds : LockThresholds) (events : List LockEvent) : LockHistory :=
  events.foldl next (start thresholds)

end LockHistory

/-! ### Runs of small offsets -/

/-- A threshold is switched on and smaller than the offset. -/
def Exceeds (threshold offset : Int64) : Prop :=
  0 < threshold.toInt ∧ threshold.toInt < offsetSize offset

namespace LockThresholds

/-- How many reports in a row it takes for a stable lock. -/
def needed (thresholds : LockThresholds) : Nat := max thresholds.stableCount.toNat 1

/-- Whether a report counts towards a stable lock. -/
def Calm (thresholds : LockThresholds) (j : Judgement) : Prop :=
  j.state ≠ .jump ∧ offsetSize j.offset ≤ thresholds.stableOffset.toInt

instance (thresholds : LockThresholds) (j : Judgement) : Decidable (thresholds.Calm j) :=
  inferInstanceAs (Decidable (_ ∧ _))

/-- How many reports up to the last one count towards a stable lock. -/
def streak (thresholds : LockThresholds) (judged : List Judgement) : Nat :=
  (judged.rtakeWhile fun j => thresholds.Calm j).length

theorem streak_concat (thresholds : LockThresholds) (judged : List Judgement) (j : Judgement) :
    thresholds.streak (judged ++ [j]) =
      if thresholds.Calm j then thresholds.streak judged + 1 else 0 := by
  unfold streak
  rw [List.rtakeWhile_concat]
  by_cases h : thresholds.Calm j <;> simp [h]

end LockThresholds

/-- A list ends with at least `n` elements of a kind exactly if its last `n`
    elements exist and are all of it. -/
theorem le_length_rtakeWhile_iff {α : Type} {p : α → Bool} {n : Nat} {l : List α} :
    n ≤ (l.rtakeWhile p).length ↔ n ≤ l.length ∧ ∀ x ∈ l.rtake n, p x = true := by
  induction l using List.reverseRecOn generalizing n with
  | nil => simp
  | append_singleton l x ih =>
    cases n with
    | zero => simp
    | succ n =>
      rw [List.rtakeWhile_concat, List.rtake_concat_succ, List.forall_mem_append]
      by_cases hx : p x = true
      · simp [hx, ih]
      · simp [hx]

/-! ### One offset -/

namespace LockTracker

variable {t : LockTracker} {offset magnitude : Int64}

theorem exceeds_iff {threshold : Int64} :
    exceeds threshold (Checked.magnitude offset) = true ↔ Exceeds threshold offset := by
  simp [exceeds, Exceeds, Checked.toInt_magnitude]

theorem update_of_exceeds (h : Exceeds t.stepThreshold offset) :
    t.update offset = { t with state := .jump, stableSamples := 0 } := by
  simp [update, exceeds_iff.mpr h]

theorem update_of_not_exceeds (h : ¬Exceeds t.stepThreshold offset) :
    t.update offset = t.settle (Checked.magnitude offset) := by
  simp [update, mt exceeds_iff.mp h]

theorem settle_isLocked : (t.settle magnitude).state.isLocked = true := by
  unfold settle
  split
  · rfl
  · dsimp only
    split <;> split <;> rfl

/-- The clock is to jump exactly if the threshold for this offset is
    exceeded. -/
theorem update_state_eq_jump_iff :
    (t.update offset).state = .jump ↔ Exceeds t.stepThreshold offset := by
  by_cases h : Exceeds t.stepThreshold offset
  · simp [update_of_exceeds h, h]
  · have hlocked : (t.settle (Checked.magnitude offset)).state.isLocked = true := settle_isLocked
    simp only [update_of_not_exceeds h, h, iff_false]
    intro hjump
    simp [hjump, ServoState.isLocked] at hlocked

theorem update_state_ne_unlocked : (t.update offset).state ≠ .unlocked := by
  by_cases h : Exceeds t.stepThreshold offset
  · simp [update_of_exceeds h]
  · have hlocked : (t.settle (Checked.magnitude offset)).state.isLocked = true := settle_isLocked
    rw [update_of_not_exceeds h]
    intro hunlocked
    simp [hunlocked, ServoState.isLocked] at hlocked

theorem update_thresholds : (t.update offset).thresholds = t.thresholds := by
  by_cases h : Exceeds t.stepThreshold offset
  · rw [update_of_exceeds h]
  · rw [update_of_not_exceeds h]
    unfold settle
    split <;> rfl

/-- The counter counts offsets that are small enough and starts again at all
    others. -/
theorem update_stableSamples (hon : 0 < t.thresholds.stableOffset.toInt) :
    (t.update offset).stableSamples.toNat =
      if t.thresholds.Calm ⟨offset, (t.update offset).state⟩ then
        min (t.stableSamples.toNat + 1) 0xFFFFFFFF
      else 0 := by
  by_cases h : Exceeds t.stepThreshold offset
  · have hjump := update_state_eq_jump_iff.mpr h
    rw [if_neg fun hcalm => hcalm.1 hjump, update_of_exceeds h]
    rfl
  · have hcalm : t.thresholds.Calm ⟨offset, (t.update offset).state⟩ ↔
        offsetSize offset ≤ t.thresholds.stableOffset.toInt :=
      and_iff_right (mt update_state_eq_jump_iff.mp h)
    have hcount : min (t.stableSamples.toNat + 1) 0xFFFFFFFF < UInt32.size := by
      simp only [UInt32.size]
      omega
    rw [if_congr hcalm rfl rfl, update_of_not_exceeds h]
    simp only [settle, Int.not_le.mpr hon, if_false, Checked.toInt_magnitude]
    split
    · exact UInt32.toNat_ofNat_of_lt' hcount
    · rfl

/-- A lock is stable exactly if enough offsets have been counted. -/
theorem update_state_eq_lockedStable_iff :
    (t.update offset).state = .lockedStable ↔
      (t.update offset).state ≠ .jump ∧ 0 < t.thresholds.stableOffset.toInt ∧
        t.thresholds.needed ≤ (t.update offset).stableSamples.toNat := by
  by_cases h : Exceeds t.stepThreshold offset
  · simp [update_of_exceeds h]
  · have hnot := mt update_state_eq_jump_iff.mp h
    have hstable (samples : Nat) :
        (if t.thresholds.needed ≤ samples then ServoState.lockedStable else .locked) =
          .lockedStable ↔ t.thresholds.needed ≤ samples := by
      split <;> simp_all
    rw [ne_eq, and_iff_right hnot, update_of_not_exceeds h]
    unfold settle
    split
    · next hoff => simp [Int.not_lt.mpr hoff]
    · next hon =>
      rw [and_iff_right (Int.not_le.mp hon)]
      exact hstable _

end LockTracker

/-! ### One event after the other -/

namespace LockHistory

variable {thresholds : LockThresholds} {h : LockHistory} {events : List LockEvent}

/-- What a tracker still knows of its past. -/
structure Remembers (thresholds : LockThresholds) (h : LockHistory) : Prop where
  thresholds_eq : h.tracker.thresholds = thresholds
  unlocked_iff : h.tracker.state = .unlocked ↔ h.judged = []
  samples : 0 < thresholds.stableOffset.toInt →
    h.tracker.stableSamples.toNat = min (thresholds.streak h.judged) 0xFFFFFFFF

theorem remembers_start (thresholds : LockThresholds) :
    Remembers thresholds (start thresholds) where
  thresholds_eq := rfl
  unlocked_iff := by simp [start, LockTracker.start]
  samples _ := rfl

theorem Remembers.next (hr : Remembers thresholds h) (e : LockEvent) :
    Remembers thresholds (h.next e) := by
  have hsame := hr.thresholds_eq
  cases e with
  | reset =>
    constructor
    · exact hsame
    · simp [LockHistory.next, LockTracker.reset, LockTracker.start]
    · intro _
      rfl
  | offset nanos =>
    constructor
    · exact LockTracker.update_thresholds.trans hsame
    · simp [LockHistory.next, LockTracker.update_state_ne_unlocked]
    · intro hon
      have hsamples := hr.samples hon
      simp only [LockHistory.next]
      rw [LockTracker.update_stableSamples (hsame ▸ hon), hsame, LockThresholds.streak_concat]
      split
      · rw [hsamples]
        omega
      · rfl

theorem remembers_after (thresholds : LockThresholds) (events : List LockEvent) :
    Remembers thresholds (after thresholds events) := by
  induction events using List.reverseRecOn with
  | nil => exact remembers_start thresholds
  | append_singleton events e ih =>
    rw [after, List.foldl_append]
    exact ih.next e

theorem judged_offsets (thresholds : LockThresholds) (events : List LockEvent) :
    (after thresholds events).judged.map Judgement.offset = sinceReset events := by
  induction events using List.reverseRecOn with
  | nil => rfl
  | append_singleton events e ih =>
    rw [after, List.foldl_append]
    cases e with
    | reset => simp [next, sinceReset]
    | offset nanos =>
      have hjudged := ih
      simp only [after, sinceReset] at hjudged
      simp [next, sinceReset, hjudged, LockEvent.offset?]

theorem unlocked_iff_sinceReset :
    (after thresholds events).tracker.state = .unlocked ↔ sinceReset events = [] := by
  rw [(remembers_after thresholds events).unlocked_iff, ← judged_offsets thresholds events,
    List.map_eq_nil_iff]

/-- The first offset and the later ones are held against different
    thresholds. -/
theorem update_state_eq_jump_iff {offset : Int64} :
    ((after thresholds events).tracker.update offset).state = .jump ↔
      if sinceReset events = [] then Exceeds thresholds.firstStep offset
      else Exceeds thresholds.step offset := by
  rw [LockTracker.update_state_eq_jump_iff, LockTracker.stepThreshold,
    (remembers_after thresholds events).thresholds_eq]
  simp only [unlocked_iff_sinceReset]
  split <;> rfl

/-! ### The next report -/

/-- Whatever a tracker was told before, what it reports for an offset follows
    from the offsets since it was made or last reset:

    the clock jumps exactly if the offset is the first one and exceeds the
    first threshold, or is a later one and exceeds the second; the lock is
    stable exactly if the last reports, this one included and as many as are
    needed, were all made for small offsets and none for a jump; and it is
    locked otherwise, and never unlocked. -/
theorem reported_state (thresholds : LockThresholds) (events : List LockEvent) (offset : Int64) :
    let past := after thresholds events
    let state := (past.tracker.update offset).state
    let reports := past.judged ++ [⟨offset, state⟩]
    past.judged.map Judgement.offset = sinceReset events ∧
    (state = .jump ↔
      if sinceReset events = [] then Exceeds thresholds.firstStep offset
      else Exceeds thresholds.step offset) ∧
    (state = .lockedStable ↔
      state ≠ .jump ∧ 0 < thresholds.stableOffset.toInt ∧
      thresholds.needed ≤ reports.length ∧
      ∀ j ∈ reports.rtake thresholds.needed, thresholds.Calm j) ∧
    (state = .locked ↔ state ≠ .jump ∧ state ≠ .lockedStable) ∧
    state ≠ .unlocked := by
  intro past state reports
  have hpast : Remembers thresholds past := remembers_after thresholds events
  have hnext : Remembers thresholds (past.next (.offset offset)) := hpast.next _
  have hne : state ≠ .unlocked := LockTracker.update_state_ne_unlocked
  refine ⟨judged_offsets thresholds events, update_state_eq_jump_iff, ?_, ?_, hne⟩
  · rw [LockTracker.update_state_eq_lockedStable_iff, hpast.thresholds_eq]
    refine and_congr_right fun _ => and_congr_right fun hon => ?_
    have hsamples : (past.tracker.update offset).stableSamples.toNat = _ := hnext.samples hon
    have hcount : thresholds.needed ≤ 0xFFFFFFFF := by
      have hword := thresholds.stableCount.toNat_lt
      unfold LockThresholds.needed
      omega
    rw [hsamples, Nat.le_min, and_iff_left hcount, LockThresholds.streak, le_length_rtakeWhile_iff]
    simp only [decide_eq_true_eq]
    rfl
  · cases hstate : state <;> simp_all

end LockHistory

end ClockDiscipline
