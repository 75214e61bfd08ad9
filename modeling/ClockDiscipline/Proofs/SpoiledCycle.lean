/-
  ClockDiscipline/Proofs/SpoiledCycle.lean
  ========================================
  **A cycle in which anything goes wrong corrects nothing.**

  An event that can not be attributed, a wait that fails or times out, and a
  reference clock without an edge each spoil the whole cycle.  The requests
  that correct a clock are not made then: the cycle ends in the same way,
  whatever they would do (`spoiled_cycle`).  Servos are touched only after a
  silent wait, to unlock those of the destinations.
-/
import ClockDiscipline.Bench.Environment
import ClockDiscipline.Proofs.Unlocking

namespace ClockDiscipline

open ClockDiscipline.Action

variable {W H S ε : Type} {env : Environment W H S ε} {wait : Waiter W ε}

/-! ### The requests that correct a clock -/

/-- The same environment, with other answers to the requests that correct a
    clock. -/
def Environment.withCorrections (env : Environment W H S ε)
    (sample : S → Int64 → Int64 → Float → Action W ((Float × ServoState) × S))
    (setFrequency : H → Float → Action W (Except ε Unit))
    (step : H → Duration → Action W (Except ε Unit)) : Environment W H S ε where
  device := { env.device with setFrequency := setFrequency, step := step }
  servo := { env.servo with sample := sample }
  openClock := env.openClock
  makeServo := env.makeServo
  systemTime := env.systemTime
  errorText := env.errorText
  patience := env.patience

namespace Orchestrator

section Requests

variable {sample : S → Int64 → Int64 → Float → Action W ((Float × ServoState) × S)}
  {setFrequency : H → Float → Action W (Except ε Unit)}
  {step : H → Duration → Action W (Except ε Unit)}

theorem handleReady_withCorrections (o : Orchestrator H S) (p : Progress) (ready : List Nat) :
    o.handleReady (env.withCorrections sample setFrequency step) p ready =
      o.handleReady env p ready := by
  induction ready generalizing o p with
  | nil => rfl
  | cons index ready ih =>
    unfold handleReady
    simp only [ih]
    rfl

theorem unlockClocks_withCorrections (o : Orchestrator H S) (ids : List ClockId) :
    o.unlockClocks (env.withCorrections sample setFrequency step) ids =
      o.unlockClocks env ids := by
  induction ids generalizing o with
  | nil => rfl
  | cons id ids ih =>
    unfold unlockClocks
    simp only [ih]
    rfl

theorem collect_withCorrections (patience : Nat) (o : Orchestrator H S) (p : Progress) :
    collect (env.withCorrections sample setFrequency step) wait patience o p =
      collect env wait patience o p := by
  induction patience generalizing o p with
  | zero => rfl
  | succ patience ih =>
    rw [collect.eq_def, collect.eq_def]
    simp only [ih, handleReady_withCorrections, unlockDestinations, unlockClocks_withCorrections]

theorem poll_withCorrections (o : Orchestrator H S) :
    o.poll (env.withCorrections sample setFrequency step) wait = o.poll env wait := by
  unfold poll
  rw [collect_withCorrections]
  rfl

theorem collectReference_withCorrections (o : Orchestrator H S) :
    o.collectReference (env.withCorrections sample setFrequency step) =
      o.collectReference env := rfl

end Requests

/-! ### What spoils a cycle -/

/-- The event that a source has is taken off its queue and can not be attributed
    to an edge. -/
inductive Unattributed (env : Environment W H S ε) (o : Orchestrator H S) (source : EdgeSource)
    (m : Machine W) : Prop where
  | ambiguous {c : Clock H S} {event : EdgeEvent} {reference : Instant} {m₁ m₂ : Machine W} :
      o.clocks.get? source.clock = some c →
      Returns (source.takeEvent env c.handle) m (.ok event) m₁ →
      Returns (o.reference.now env o.clocks) m₁ (.ok reference) m₂ →
      pairEvent event.time source.correction reference source.polarity source.window =
        .ok .ambiguous →
      Unattributed env o source m
  | unreadable {c : Clock H S} {event : EdgeEvent} {e : ReferenceError ε} {m₁ m₂ : Machine W} :
      o.clocks.get? source.clock = some c →
      Returns (source.takeEvent env c.handle) m (.ok event) m₁ →
      Returns (o.reference.now env o.clocks) m₁ (.error e) m₂ →
      Unattributed env o source m

/-- What can go wrong from the point on at which polling begins. -/
inductive Spoiled (env : Environment W H S ε) (wait : Waiter W ε) (o : Orchestrator H S)
    (m : Machine W) : Prop where
  | event {samples : List Sample} {o' : Orchestrator H S} {p : Progress} {index : Nat}
      {ready : List Nat} {m' : Machine W} {source : EdgeSource} :
      Polling env wait o m samples o' p (index :: ready) m' →
      o'.sources[index]? = some source → Unattributed env o' source m' → Spoiled env wait o m
  | timeout {samples : List Sample} {o' : Orchestrator H S} {p : Progress} {m₁ m₂ : Machine W} :
      Polling env wait o m samples o' p [] m₁ → ¬p.handled.all id = true →
      Returns (wait o'.config.pollTimeoutMs) m₁ (.ok []) m₂ → Spoiled env wait o m
  | failure {samples : List Sample} {o' : Orchestrator H S} {p : Progress} {m₁ m₂ : Machine W}
      {e : ε} :
      Polling env wait o m samples o' p [] m₁ → ¬p.handled.all id = true →
      Returns (wait o'.config.pollTimeoutMs) m₁ (.error e) m₂ → Spoiled env wait o m
  | reference {samples : List Sample} {o' o'' : Orchestrator H S} {p : Progress}
      {m₁ m₂ : Machine W} {e : SyncError ε} :
      Polling env wait o m samples o' p [] m₁ → p.handled.all id = true →
      Returns (o'.collectReference env) m₁ (.error e, o'') m₂ → Spoiled env wait o m

/-- A wait times out before any source has been handled. -/
def Silent (env : Environment W H S ε) (wait : Waiter W ε) (o : Orchestrator H S)
    (m : Machine W) : Prop :=
  ∃ samples o' p m₁ m₂, Polling env wait o m samples o' p [] m₁ ∧ ¬p.handled.all id = true ∧
    ¬p.handled.any id = true ∧ Returns (wait o'.config.pollTimeoutMs) m₁ (.ok []) m₂

section Spoiling

variable {o o' : Orchestrator H S} {m m' : Machine W} {p p' : Progress}
  {result : Except (SyncError ε) PollOutcome}

theorem handleEvent_of_unattributed {source : EdgeSource} {answer : Except (EventError ε) Pairing}
    (hspoiled : Unattributed env o source m)
    (h : Returns (o.handleEvent env source) m (answer, o') m') : answer = .ok .ambiguous := by
  cases hspoiled with
  | @ambiguous c event reference m₁ m₂ hc htake hnow hpair =>
    have hrest : Returns (o.afterReading env source event (.ok reference)) m₂ (answer, o') m' :=
      (outcome_handleEvent hc htake hnow).symm.trans h
    simp only [afterReading, pairAndKeep, returns_bind, returns_pure] at hrest
    obtain ⟨⟨pairing', o₁⟩, m₃, ⟨pairing, m₄, hreturns, hkept⟩, hresult, -⟩ := hrest
    obtain rfl := Except.ok.inj (hpair.symm.trans (pair_returns hreturns).1)
    simp only [returns_pure, Prod.mk.injEq] at hkept hresult
    rw [hresult.1, hkept.1.1]
  | @unreadable c event e m₁ m₂ hc htake hnow =>
    have hrest : Returns (o.afterReading env source event (.error e)) m₂ (answer, o') m' :=
      (outcome_handleEvent hc htake hnow).symm.trans h
    simp only [afterReading, returns_bind, returns_pure, Prod.mk.injEq] at hrest
    obtain ⟨_, _, -, ⟨rfl, -⟩, -⟩ := hrest
    rfl

theorem collect_of_ambiguous {patience : Nat} (hp : p.ambiguous = true)
    (h : Returns (collect env wait patience o p) m (result, o') m') :
    result ≠ .ok .collected := by
  replace h := turns_of_returns h
  induction h with
  | handled hall => simp [hp]
  | failed hall hwait => simp
  | late hall hwait hany => simp
  | silent hall hwait hany hunlock => simp
  | answered hall hwait hready hturns ih => exact ih (handleReady_ambiguous hready hp)

/-- If the events of a spoiled cycle are collected nevertheless, it is for the
    edge of the reference clock that it ends. -/
theorem Spoiled.collected (hspoiled : Spoiled env wait o m) (hsources : o.sources ≠ [])
    (h : Returns (o.poll env wait) m (.ok .collected, o') m') :
    ∃ e o'' m'', Returns (o'.collectReference env) m' (.error e, o'') m'' := by
  cases hspoiled with
  | @event samples o₁ p index ready m₁ source hpoint hsource hevent =>
    rcases hpoint.outcome_poll hsources with hfault | ⟨patience, heq⟩
    · rw [h] at hfault
      cases hfault
    have hrest := returns_bind.mp (heq.symm.trans h)
    obtain ⟨⟨p', o₂⟩, m₂, hready, hcollect⟩ := hrest
    rcases handleReady_cons hready with
      ⟨hnone, -⟩ | ⟨own, answer, _, _, _, _, hown, hhandled, -, hnoted, hready⟩
    · rw [hsource] at hnone
      cases hnone
    · obtain rfl := Option.some.inj (hsource.symm.trans hown)
      obtain rfl := handleEvent_of_unattributed hevent hhandled
      have hambiguous : p'.ambiguous = true := handleReady_ambiguous hready (by simp [hnoted])
      exact absurd rfl (collect_of_ambiguous hambiguous hcollect)
  | timeout hpoint hall hwait =>
    obtain ⟨patience, hafter⟩ := hpoint.returns_answered hsources hall hwait h
    cases (afterAnswer_timeout hafter).1
  | failure hpoint hall hwait =>
    obtain ⟨patience, hafter⟩ := hpoint.returns_answered hsources hall hwait h
    simp [afterAnswer] at hafter
  | @reference samples o₁ o₂ p m₁ m₂ e hpoint hall hstamp =>
    obtain ⟨-, rfl, rfl⟩ := hpoint.returns_handled hsources hall h
    exact ⟨e, o₂, m₂, hstamp⟩

end Spoiling

theorem Spoiled.outcome_runCycle {o o₁ : Orchestrator H S} {m m₁ : Machine W}
    {selection : Option Selection} (hselect : Returns o.reconfigure m (selection, o₁) m₁)
    (hsources : o₁.sources ≠ []) (hspoiled : Spoiled env wait o₁.flushTimestamps m₁)
    (sample : S → Int64 → Int64 → Float → Action W ((Float × ServoState) × S))
    (setFrequency : H → Float → Action W (Except ε Unit))
    (step : H → Duration → Action W (Except ε Unit)) :
    (o.runCycle (env.withCorrections sample setFrequency step) wait).outcome m =
      (o.runCycle env wait).outcome m := by
  unfold runCycle
  rw [hselect.outcome_bind, hselect.outcome_bind]
  dsimp only
  rw [poll_withCorrections, outcome_bind, outcome_bind]
  cases hpoll : (o₁.flushTimestamps.poll env wait).outcome m₁ with
  | mk answer m₂ =>
    cases answer with
    | error fault => rfl
    | ok answer =>
      obtain ⟨outcome, o₂⟩ := answer
      rcases outcome with e | (_ | _ | _)
      · rfl
      · obtain ⟨e, o₃, m₃, hstamp⟩ := hspoiled.collected hsources hpoll
        dsimp only
        rw [collectReference_withCorrections, hstamp.outcome_bind, hstamp.outcome_bind]
      · rfl
      · rfl

/-! ### What is left after a spoiled cycle -/

/-- What a cycle that corrects nothing may do to a clock: unlock it, if it is a
    destination and a wait was silent. -/
structure Uncorrected (env : Environment W H S ε) (silent : Prop) (c c' : Clock H S) : Prop where
  lastOffset : c'.lastOffset = c.lastOffset
  lastFrequency : c'.lastFrequency = c.lastFrequency
  untouched : ¬(silent ∧ c'.isDestination = true) →
    c'.servo = c.servo ∧ c'.servoState = c.servoState
  unlocked : silent → c'.isDestination = true → c'.servoState = .unlocked ∧
    (c.servoState = .unlocked ∧ c'.servo = c.servo ∨
      c.servoState ≠ .unlocked ∧ ∃ m m', Returns (env.servo.reset c.servo) m c'.servo m')

section Clocks

variable {o o' : Orchestrator H S} {m m' : Machine W} {id : ClockId} {c : Clock H S}
  {silent : Prop}

theorem Uncorrected.of_tuning {c' : Clock H S} (h : c'.tuning = c.tuning) (hsilent : ¬silent) :
    Uncorrected env silent c c' where
  lastOffset := congrArg Tuning.lastOffset h
  lastFrequency := congrArg Tuning.lastFrequency h
  untouched _ := ⟨congrArg Tuning.servo h, congrArg Tuning.servoState h⟩
  unlocked hs := absurd hs hsilent

theorem Uncorrected.of_unlocked {c₁ c' : Clock H S} (h : c₁.tuning = c.tuning) (hs : silent)
    (hset : c₁.isDestination = true → c₁.Unlocked env c')
    (hunset : c₁.isDestination = false → c' = c₁) : Uncorrected env silent c c' := by
  have hservo : c₁.servo = c.servo := congrArg Tuning.servo h
  have hstate : c₁.servoState = c.servoState := congrArg Tuning.servoState h
  have hoffset : c₁.lastOffset = c.lastOffset := congrArg Tuning.lastOffset h
  have hfrequency : c₁.lastFrequency = c.lastFrequency := congrArg Tuning.lastFrequency h
  cases hdestination : c₁.isDestination with
  | false =>
    obtain rfl := hunset hdestination
    refine ⟨hoffset, hfrequency, fun _ => ⟨hservo, hstate⟩, ?_⟩
    intro _ hset
    rw [hdestination] at hset
    cases hset
  | true =>
    cases hset hdestination with
    | already hunlocked =>
      refine ⟨hoffset, hfrequency, fun _ => ⟨hservo, hstate⟩, ?_⟩
      intro _ _
      exact ⟨hunlocked, .inl ⟨hstate ▸ hunlocked, hservo⟩⟩
    | @reset servo m m' hlocked hreset =>
      refine ⟨hoffset, hfrequency, ?_, ?_⟩
      · intro hnot
        exact absurd ⟨hs, hdestination⟩ hnot
      · intro _ _
        exact ⟨rfl, .inr ⟨hstate ▸ hlocked, m, m', hservo ▸ hreset⟩⟩

/-- What polling does to the clocks in a cycle: nothing, or after a silent wait
    it unlocks the destinations. -/
theorem poll_uncorrected {result : Except (SyncError ε) PollOutcome} {c₀ : Clock H S}
    (hsources : o.flushTimestamps.sources ≠ [])
    (h : Returns (o.flushTimestamps.poll env wait) m (result, o') m')
    (hc : o.clocks.get? id = some c₀) (hsame : c₀.tuning = c.tuning) :
    ∃ c', o'.clocks.get? id = some c' ∧
      Uncorrected env (Silent env wait o.flushTimestamps m) c c' := by
  by_cases hsilent : Silent env wait o.flushTimestamps m
  · have hsilent' := hsilent
    obtain ⟨samples, o₁, p, m₁, m₂, hpoint, hall, hany, hwait⟩ := hsilent'
    obtain ⟨patience, hafter⟩ := hpoint.returns_answered hsources hall hwait h
    obtain ⟨-, ⟨hsome, -⟩ | ⟨-, hunlock⟩⟩ := afterAnswer_timeout hafter
    · exact absurd hsome hany
    · obtain ⟨c₁, hc₁, htuning⟩ := hpoint.tuning hc
      obtain ⟨c', hc', hset, hunset⟩ := unlockDestinations_get? hunlock hc₁
      exact ⟨c', hc', .of_unlocked (htuning.trans hsame) hsilent hset hunset⟩
  · have hpoints : ∀ {samples o₁ p m₁},
        Polling env wait o.flushTimestamps m samples o₁ p [] m₁ →
        ∃ c', o₁.clocks.get? id = some c' ∧
          Uncorrected env (Silent env wait o.flushTimestamps m) c c' := by
      intro samples o₁ p m₁ hpoint
      obtain ⟨c', hc', htuning⟩ := hpoint.tuning hc
      exact ⟨c', hc', .of_tuning (htuning.trans hsame) hsilent⟩
    cases polled_of_returns hsources h with
    | handled hpoint hall => exact hpoints hpoint
    | failed hpoint hall hwait => exact hpoints hpoint
    | late hpoint hall hwait hany => exact hpoints hpoint
    | silent hpoint hall hwait hany hunlock =>
      exact absurd ⟨_, _, _, _, _, hpoint, hall, hany, hwait⟩ hsilent

end Clocks

/-- A cycle that is spoiled from the point on at which it polls makes no request
    that corrects a clock, reports nothing, and leaves on every clock what was
    last measured and set.  Only a silent wait touches servos: all destinations
    are unlocked then, and no other clock. -/
theorem spoiled_cycle {o o₁ : Orchestrator H S} {m m₁ : Machine W} {selection : Option Selection}
    (hsources : o.sources ≠ []) (hselect : Returns o.reconfigure m (selection, o₁) m₁)
    (hspoiled : Spoiled env wait o₁.flushTimestamps m₁) :
    (∀ sample setFrequency step,
      (o.runCycle (env.withCorrections sample setFrequency step) wait).outcome m =
        (o.runCycle env wait).outcome m) ∧
    ∀ result o' m', Returns (o.runCycle env wait) m (result, o') m' →
      (∀ reports, result = .ok reports → reports = []) ∧
      ∀ id c, o.clocks.get? id = some c → ∃ c', o'.clocks.get? id = some c' ∧
        Uncorrected env (Silent env wait o₁.flushTimestamps m₁) c c' := by
  have hsources₁ : o₁.flushTimestamps.sources ≠ [] := by
    show o₁.sources ≠ []
    rw [reconfigure_sources hselect]
    exact hsources
  refine ⟨hspoiled.outcome_runCycle hselect hsources₁, ?_⟩
  intro result o' m' h
  obtain ⟨selection', o₁', m₁', outcome, o₂, m₂, hselect', hpoll, hphases⟩ := runCycle_cases h
  obtain ⟨hsame, rfl⟩ := hselect.unique hselect'
  cases hsame
  -- nothing comes after polling but the attempt to keep the edge of a reference
  have hend : (∀ reports, result = .ok reports → reports = []) ∧ o' = o₂ := by
    rcases hphases with ⟨rfl, hnone⟩ | ⟨rfl, stamped, o₃, m₃, hstamp, hrest⟩
    · exact ⟨hnone, rfl⟩
    · obtain ⟨e, o₄, m₄, herror⟩ := hspoiled.collected hsources₁ hpoll
      obtain ⟨hsame, rfl⟩ := hstamp.unique herror
      cases hsame
      rcases hrest with ⟨rfl, hnone⟩ | ⟨hok, -⟩
      · refine ⟨?_, collectReference_error herror⟩
        intro reports heq
        exact absurd heq (hnone reports)
      · cases hok
  obtain ⟨hnone, rfl⟩ := hend
  refine ⟨hnone, ?_⟩
  intro id c hc
  obtain ⟨c₁, hc₁, htuning⟩ := reconfigure_tuning hselect hc
  exact poll_uncorrected hsources₁ hpoll hc₁ htuning

/-! ### A silent source -/

def noEvents : Machine Bench.World := ⟨{ devices := [{ name := "eth0" }] }, #[]⟩

/-- A locked clock whose source has nothing to say. -/
def silentInput : Orchestrator Nat Bench.Servo where
  config := {}
  clocks := ⟨[some { Clock.opened "eth0" 0 0 .prepared with
    servoState := .locked, isDestination := true }]⟩
  reference := .generic .zero
  sources := [.usual "eth0" ⟨0⟩]
  topology := none
  sourceClock := none

/-- Whether a cycle has ended without a report and with the first clock a
    destination. -/
def reportsNothing :
    Except Fault (Except (SyncError Bench.Failure) (List ClockReport) ×
      Orchestrator Nat Bench.Servo) → Bool
  | .ok (.ok [], o) => (o.clocks.get? ⟨0⟩).any (·.isDestination)
  | _ => false

def silentCycle :
    Action Bench.World (Except (SyncError Bench.Failure) (List ClockReport) ×
      Orchestrator Nat Bench.Servo) :=
  silentInput.runCycle (Bench.environment .prepared noEvents.world)
    (Bench.wait silentInput.sourceHandles)

/-- The wait times out, and the clock is unlocked. -/
theorem spoiled_cycle_silent :
    silentInput.sources ≠ [] ∧
    Returns silentInput.reconfigure noEvents (none, silentInput) noEvents ∧
    Spoiled (Bench.environment .prepared noEvents.world) (Bench.wait silentInput.sourceHandles)
      silentInput.flushTimestamps noEvents ∧
    ∃ o' m' c', Returns silentCycle noEvents (.ok [], o') m' ∧
      o'.clocks.get? ⟨0⟩ = some c' ∧ c'.servoState = .unlocked := by
  have hsources : silentInput.sources ≠ [] := List.cons_ne_nil _ _
  have hselect : Returns silentInput.reconfigure noEvents (none, silentInput) noEvents := rfl
  have hwait : Returns (Bench.wait silentInput.sourceHandles 2000) noEvents (.ok [])
      ⟨{ noEvents.world with waits := 1, timeoutMs := 2000 }, #[]⟩ := rfl
  have hpoint : Polling (Bench.environment .prepared noEvents.world)
      (Bench.wait silentInput.sourceHandles) silentInput.flushTimestamps noEvents []
      silentInput.flushTimestamps (.start silentInput.flushTimestamps) [] noEvents := .start
  have hspoiled : Spoiled (Bench.environment .prepared noEvents.world)
      (Bench.wait silentInput.sourceHandles) silentInput.flushTimestamps noEvents :=
    .timeout hpoint (by decide) hwait
  have hsilent : Silent (Bench.environment .prepared noEvents.world)
      (Bench.wait silentInput.sourceHandles) silentInput.flushTimestamps noEvents :=
    ⟨_, _, _, _, _, hpoint, by decide, by decide, hwait⟩
  refine ⟨hsources, hselect, hspoiled, ?_⟩
  have hend : reportsNothing (silentCycle.outcome noEvents).1 = true := by decide +kernel
  unfold reportsNothing at hend
  split at hend
  · next o' hrun =>
    obtain ⟨-, hreturned⟩ := spoiled_cycle hsources hselect hspoiled
    obtain ⟨-, hclocks⟩ := hreturned _ _ _ (returns_of_outcome hrun)
    obtain ⟨c', hc', huncorrected⟩ := hclocks ⟨0⟩ _ rfl
    rw [hc'] at hend
    exact ⟨o', _, c', returns_of_outcome hrun, hc', (huncorrected.unlocked hsilent hend).1⟩
  · cases hend

end Orchestrator

end ClockDiscipline
