/-
  ClockDiscipline/Proofs/EmptyWaits.lean
  ======================================
  **A wait that names no file has not always lasted until its end.**

  The orchestrator takes the empty answer of a wait for silence, and unlocks
  the destinations if no source has been handled before.  The kernel gives
  files that are ready, but its answers come down to the empty one in three
  ways: the time is over, a signal has come first, or something has happened to
  the files that leaves nothing to be read (`PollResult.ready_eq_nil_iff`).  So
  the destinations are unlocked after the last two as well
  (`Orchestrator.unlocked_iff_endsUnheard`).
-/
import ClockDiscipline.Daemon.Still
import ClockDiscipline.Proofs.ElectedSource
import ClockDiscipline.Proofs.SpoiledCycle

namespace ClockDiscipline

open ClockDiscipline.Action Kernel

/-! ### Answers without a file -/

namespace Kernel.PollResult

/-- The wait has ended before its time was over, and no file can be read. -/
inductive Cut : PollResult → Prop where
  | interrupted : Cut (.failed .interrupted)
  | unreadable {flags : List PollFlags} : (∃ f ∈ flags, f ≠ 0) →
      (∀ f ∈ flags, f.isReadable = false) → Cut (.returned flags)

theorem ready_returned_eq_nil_iff {flags : List PollFlags} :
    (returned flags).ready = .ok [] ↔ ∀ f ∈ flags, f.isReadable = false := by
  simp only [ready, Except.ok.injEq, List.filterMap_eq_nil_iff, Prod.forall]
  constructor
  · intro h f hf
    obtain ⟨i, hi⟩ := List.getElem?_of_mem hf
    simpa using h f i (List.mk_mem_zipIdx_iff_getElem?.mpr hi)
  · intro h f i hi
    have hmem : f ∈ flags := List.mem_of_getElem? (List.mk_mem_zipIdx_iff_getElem?.mp hi)
    simp [h f hmem]

theorem Cut.isTimeout {r : PollResult} (h : r.Cut) : r.isTimeout = false := by
  cases h with
  | interrupted => rfl
  | @unreadable flags hsome _ =>
    obtain ⟨f, hf, hne⟩ := hsome
    rw [PollResult.isTimeout, List.all_eq_false]
    exact ⟨f, hf, by simpa using hne⟩

/-- No file is ready once the time is over, and otherwise only if the wait has
    been cut short. -/
theorem ready_eq_nil_iff (r : PollResult) :
    r.ready = .ok [] ↔ r.isTimeout = true ∨ r.Cut := by
  cases r with
  | failed e =>
    constructor
    · intro h
      by_cases he : e = .interrupted
      · subst he
        exact .inr .interrupted
      · simp [ready, he] at h
    · rintro (h | h)
      · cases h
      · cases h
        rfl
  | returned flags =>
    rw [ready_returned_eq_nil_iff]
    constructor
    · intro h
      by_cases hsome : ∃ f ∈ flags, f ≠ 0
      · exact .inr (.unreadable hsome h)
      · refine .inl (List.all_eq_true.mpr fun f hf => ?_)
        have hzero : ¬f ≠ 0 := fun hne => hsome ⟨f, hf, hne⟩
        simpa using hzero
    · rintro (h | h)
      · intro f hf
        have hzero : f = 0 := by simpa using List.all_eq_true.mp h f hf
        subst hzero
        decide
      · cases h with
        | unreadable _ hnone => exact hnone

end Kernel.PollResult

/-! ### Waiting for the files of sources -/

open Phc

variable {W H S F : Type} {env : Environment W H S PhcError}
  {poll : List F → UInt64 → Action W PollResult} {files : List F} {r : PollResult}

theorem Phc.answered_eq_ok_iff {α : Type} {x : Except Errno α} {a : α} :
    answered x = .ok a ↔ x = .ok a := by
  cases x <;> simp [answered, Except.mapError]

theorem Phc.returns_wait_iff {timeout : UInt64} {m m' : Machine W}
    {answer : Except PhcError (List Nat)} :
    Returns (Phc.wait poll files timeout) m answer m' ↔
      ∃ r, Returns (poll files (waitMs timeout)) m r m' ∧ answer = answered r.ready := by
  simp only [Phc.wait, returns_bind, returns_pure]
  constructor
  · rintro ⟨r, m₁, hpoll, rfl, rfl⟩
    exact ⟨r, hpoll, rfl⟩
  · rintro ⟨r, hpoll, rfl⟩
    exact ⟨r, m', hpoll, rfl, rfl⟩

namespace Orchestrator

variable {o o' : Orchestrator H S} {m m' : Machine W}

/-- Before any source has been handled, a wait ends in this way. -/
def EndsUnheard (env : Environment W H S PhcError) (poll : List F → UInt64 → Action W PollResult)
    (files : List F) (o : Orchestrator H S) (m : Machine W) (r : PollResult) : Prop :=
  ∃ samples o₁ p m₁ m₂, Polling env (Phc.wait poll files) o m samples o₁ p [] m₁ ∧
    ¬p.handled.all id = true ∧ ¬p.handled.any id = true ∧
    Returns (poll files (waitMs o.config.pollTimeoutMs)) m₁ r m₂

/-- What the orchestrator takes for silence. -/
theorem silent_iff_endsUnheard :
    Silent env (Phc.wait poll files) o m ↔
      ∃ r, EndsUnheard env poll files o m r ∧ (r.isTimeout = true ∨ r.Cut) := by
  constructor
  · rintro ⟨samples, o₁, p, m₁, m₂, hpoint, hall, hany, hwait⟩
    obtain ⟨r, hpoll, hanswer⟩ := returns_wait_iff.mp hwait
    have hempty : r.ready = .ok [] := answered_eq_ok_iff.mp hanswer.symm
    have hconfig : o₁.config = o.config := congrArg Setup.config hpoint.setup
    rw [hconfig] at hpoll
    exact ⟨r, ⟨samples, o₁, p, m₁, m₂, hpoint, hall, hany, hpoll⟩, r.ready_eq_nil_iff.mp hempty⟩
  · rintro ⟨r, ⟨samples, o₁, p, m₁, m₂, hpoint, hall, hany, hpoll⟩, hends⟩
    have hconfig : o₁.config = o.config := congrArg Setup.config hpoint.setup
    refine ⟨samples, o₁, p, m₁, m₂, hpoint, hall, hany, returns_wait_iff.mpr ⟨r, ?_, ?_⟩⟩
    · rw [hconfig]
      exact hpoll
    · rw [r.ready_eq_nil_iff.mpr hends]
      rfl

/-- Without sources there is no point at which one is missing. -/
theorem Silent.sources_ne_nil {wait : Waiter W PhcError} (h : Silent env wait o m) :
    o.sources ≠ [] := by
  intro hnone
  obtain ⟨samples, o₁, p, m₁, m₂, hpoint, hall, -, -⟩ := h
  have hstart : (Progress.start o).handled.all id = true := by simp [Progress.start, hnone]
  have hstays : ∀ {samples o₁ p ready m₁}, Polling env wait o m samples o₁ p ready m₁ →
      p = .start o ∧ ready = [] := by
    intro samples o₁ p ready m₁ hpoint
    induction hpoint with
    | start => exact ⟨rfl, rfl⟩
    | answered _ hall _ _ ih =>
      rw [ih.1] at hall
      exact absurd hstart hall
    | kept _ _ _ ih => cases ih.2
    | passed _ _ _ ih => cases ih.2
  rw [(hstays hpoint).1] at hall
  exact hall hstart

/-- Polling unlocks a destination exactly if there was silence. -/
theorem poll_unlocked_iff {wait : Waiter W PhcError}
    {result : Except (SyncError PhcError) PollOutcome} {id : ClockId} {c : Clock H S}
    (h : Returns (o.flushTimestamps.poll env wait) m (result, o') m')
    (hc : o.clocks.get? id = some c) (hset : c.isDestination = true)
    (hlocked : c.servoState ≠ .unlocked) :
    ∃ c', o'.clocks.get? id = some c' ∧
      (c'.servoState = .unlocked ↔ Silent env wait o.flushTimestamps m) := by
  have hflushed : o.flushTimestamps.clocks.get? id = some c.flushTimestamp := by
    rw [flushTimestamps, Registry.get?_map, hc, Option.map_some]
  by_cases hsources : o.flushTimestamps.sources = []
  · have hsame : o' = o.flushTimestamps := by
      simp only [Orchestrator.poll, hsources, List.isEmpty_nil, if_true, returns_bind] at h
      obtain ⟨answer, m₁, -, h⟩ := h
      cases answer <;> exact (Prod.mk.inj (returns_pure.mp h).1).2
    subst hsame
    refine ⟨c.flushTimestamp, hflushed, ?_⟩
    constructor
    · intro hunlocked
      exact absurd hunlocked hlocked
    · intro hsilent
      exact absurd hsources hsilent.sources_ne_nil
  · obtain ⟨c', hc', huncorrected⟩ := poll_uncorrected hsources h hc rfl
    have hpart : c'.part = c.flushTimestamp.part := by
      obtain ⟨c₁, hc₁, hpart⟩ := Registry.get?_of_parts_eq
        (parts_of_setup_eq (poll_setup h)) hflushed
      rw [Option.some.inj (hc'.symm.trans hc₁)]
      exact hpart
    have hset' : c'.isDestination = true := (congrArg ClockPart.isDestination hpart).trans hset
    refine ⟨c', hc', ?_⟩
    constructor
    · intro hunlocked
      refine Classical.by_contradiction fun hheard => hlocked ?_
      rw [← (huncorrected.untouched fun hboth => hheard hboth.1).2]
      exact hunlocked
    · intro hsilent
      exact (huncorrected.unlocked hsilent hset').1

/-- Waiting for the files of its sources, an orchestrator unlocks a destination
    that was locked exactly if, before any source was handled, the time of a wait
    was over or the wait was cut short: by a signal, or by flags of its files that
    leave nothing to be read.  The empty answer stands for these and no others,
    and only the first of them is a timeout. -/
theorem unlocked_iff_endsUnheard {result : Except (SyncError PhcError) PollOutcome}
    (h : Returns (o.flushTimestamps.poll env (Phc.wait poll files)) m (result, o') m') :
    (∀ r : PollResult, r.ready = .ok [] ↔ r.isTimeout = true ∨ r.Cut) ∧
    (∀ r : PollResult, r.Cut → r.isTimeout = false) ∧
    ∀ id c, o.clocks.get? id = some c → c.isDestination = true → c.servoState ≠ .unlocked →
      ∃ c', o'.clocks.get? id = some c' ∧ (c'.servoState = .unlocked ↔
        ∃ r, EndsUnheard env poll files o.flushTimestamps m r ∧ (r.isTimeout = true ∨ r.Cut)) := by
  refine ⟨PollResult.ready_eq_nil_iff, fun r hcut => hcut.isTimeout, ?_⟩
  intro id c hc hset hlocked
  obtain ⟨c', hc', hunlocked⟩ := poll_unlocked_iff h hc hset hlocked
  exact ⟨c', hc', hunlocked.trans silent_iff_endsUnheard⟩

/-! ### A signal while a clock is locked -/

/-- A destination that is locked, and its source. -/
def lockedInput : Orchestrator Unit PiServo where
  config := {}
  clocks := ⟨[some { Clock.opened "/dev/ptp0" 0 () (.start {} {} 0 500000 1) with
    servoState := .locked, isDestination := true }]⟩
  reference := .generic .zero
  sources := [.usual "/dev/ptp0" ⟨0⟩]
  topology := none
  sourceClock := none

/-- The host on which a signal comes first in every wait. -/
def signalled : Daemon.Host Unit Unit := Daemon.Still.host (.failed .interrupted)

def signalledPoll : List Unit → UInt64 → Action Unit PollResult := signalled.waitWith (pure ())

theorem poll_signalled : ∃ o' m', Returns
    (lockedInput.flushTimestamps.poll (signalled.environment {}) (Phc.wait signalledPoll [()]))
    ⟨(), #[]⟩ (.ok .timeout, o') m' := ⟨_, _, rfl⟩

theorem endsUnheard_signalled (o : Orchestrator Unit PiServo) (m : Machine Unit)
    (hall : ¬(Progress.start o).handled.all id = true)
    (hany : ¬(Progress.start o).handled.any id = true) :
    EndsUnheard (signalled.environment {}) signalledPoll [()] o m (.failed .interrupted) :=
  ⟨_, _, _, m, m, .start, hall, hany, returns_pure.mpr ⟨rfl, rfl⟩⟩

/-- The clock is unlocked, although the time was not over. -/
theorem unlocked_iff_endsUnheard_signalled :
    ∃ o' m' c', Returns
        (lockedInput.flushTimestamps.poll (signalled.environment {}) (Phc.wait signalledPoll [()]))
        ⟨(), #[]⟩ (.ok .timeout, o') m' ∧
      o'.clocks.get? ⟨0⟩ = some c' ∧ c'.servoState = .unlocked := by
  obtain ⟨o', m', hpoll⟩ := poll_signalled
  obtain ⟨-, -, hclocks⟩ := unlocked_iff_endsUnheard hpoll
  obtain ⟨c', hc', hunlocked⟩ := hclocks ⟨0⟩ _ rfl rfl (by decide)
  refine ⟨o', m', c', hpoll, hc', hunlocked.mpr ⟨.failed .interrupted, ?_, .inr .interrupted⟩⟩
  exact endsUnheard_signalled _ _ (by decide) (by decide)

/-- An empty answer need not be a timeout, nor need one precede it that the
    destinations are unlocked. -/
theorem not_forall_timeout :
    (¬∀ r : PollResult, r.ready = .ok [] → r.isTimeout = true) ∧
    ¬∀ (poll : List Unit → UInt64 → Action Unit PollResult) (o o' : Orchestrator Unit PiServo)
      (m m' : Machine Unit) (result : Except (SyncError PhcError) PollOutcome) (id : ClockId)
      (c c' : Clock Unit PiServo),
      Returns (o.flushTimestamps.poll (signalled.environment {}) (Phc.wait poll [()])) m
        (result, o') m' →
      o.clocks.get? id = some c → c.isDestination = true → c.servoState ≠ .unlocked →
      o'.clocks.get? id = some c' → c'.servoState = .unlocked →
      ∃ r, EndsUnheard (signalled.environment {}) poll [()] o.flushTimestamps m r ∧
        r.isTimeout = true := by
  constructor
  · intro h
    cases h (.failed .interrupted) rfl
  · intro h
    obtain ⟨o', m', hpoll⟩ := poll_signalled
    have hc : lockedInput.clocks.get? ⟨0⟩ = some _ := rfl
    obtain ⟨c', hc', hunlocked⟩ := poll_unlocked_iff hpoll hc rfl (by decide)
    have hsilent := silent_iff_endsUnheard.mpr
      ⟨_, endsUnheard_signalled lockedInput.flushTimestamps ⟨(), #[]⟩ (by decide) (by decide),
        .inr .interrupted⟩
    obtain ⟨r, ⟨_, _, _, _, _, -, -, -, hends⟩, htimeout⟩ :=
      h _ _ _ _ _ _ _ _ _ hpoll hc rfl (by decide) hc' (hunlocked.mpr hsilent)
    -- every wait of this host is interrupted
    rw [(returns_pure.mp hends).1] at htimeout
    cases htimeout

end Orchestrator

end ClockDiscipline
