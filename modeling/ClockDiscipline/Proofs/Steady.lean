/-
  ClockDiscipline/Proofs/Steady.lean
  ==================================
  **What handling events can not do.**

  Handling events makes three requests: for the next event, for the time of a
  clock and for the time of the system; unlocking resets servos.  Whatever
  these leave alone in the world is left alone by the handling as a whole; and
  if they all return, then so does the handling, unless a time leaves its
  range.
-/
import ClockDiscipline.Proofs.Action
import ClockDiscipline.Proofs.Edges
import ClockDiscipline.Sync.Cycle

namespace ClockDiscipline

open ClockDiscipline.Action

variable {W H S ε β : Type}

/-- The requests made while events are handled and destinations are unlocked
    return, and none of them changes the view. -/
structure Environment.Steady (env : Environment W H S ε) (view : W → β) : Prop where
  nextEvent : ∀ handle, Action.Steady view (env.device.nextEvent handle)
  now : ∀ handle, Action.Steady view (env.device.now handle)
  systemTime : Action.Steady view env.systemTime
  reset : ∀ servo, Action.Steady view (env.servo.reset servo)

namespace Environment.Steady

variable {env : Environment W H S ε} {view : W → β} (hsteady : env.Steady view)
include hsteady

theorem takeEvent (source : EdgeSource) (handle : H) :
    Action.Steady view (source.takeEvent env handle) := by
  refine steady_bind (hsteady.nextEvent handle) fun next => ?_
  cases next with
  | error e => exact steady_pure _ _
  | ok next =>
    cases next with
    | none => exact steady_pure _ _
    | some event =>
      dsimp only
      split
      · exact steady_pure _ _
      · exact steady_pure _ _

theorem referenceNow (reference : Reference) (clocks : Registry H S) :
    Action.Steady view (reference.now env clocks) := by
  cases reference with
  | generic utcOffset =>
    exact steady_bind hsteady.systemTime fun utc =>
      steady_bind (steady_checked _ fun _ => Instant.add_overflows) fun t => steady_pure _ _
  | phc id =>
    unfold Reference.now
    cases hclock : clocks.get? id with
    | none => simpa only [hclock] using steady_pure _ _
    | some clock =>
      simp only [hclock]
      exact steady_bind (hsteady.now clock.handle) fun t => steady_pure _ _

omit hsteady in
theorem pair (source : EdgeSource) (event : EdgeEvent) (reference : Instant) :
    Action.Steady view (source.pair event reference : Action W Pairing) := by
  refine steady_bind (steady_checked _ fun _ => pairEvent_overflows) fun pairing => ?_
  dsimp only
  split
  · exact steady_bind (steady_log _ _ _) fun _ => steady_pure _ _
  · exact steady_pure _ _

omit hsteady in
theorem pairAndKeep (o : Orchestrator H S) (source : EdgeSource) (event : EdgeEvent)
    (reference : Instant) :
    Action.Steady view
      (o.pairAndKeep source event reference : Action W (Pairing × Orchestrator H S)) := by
  refine steady_bind (pair source event reference) fun pairing => ?_
  split
  · refine steady_bind (steady_bind (steady_log _ _ _) fun _ => steady_pure _ _) fun _ => ?_
    exact steady_pure _ _
  · exact steady_pure _ _

theorem handleEvent (o : Orchestrator H S) (source : EdgeSource) :
    Action.Steady view (o.handleEvent env source) := by
  unfold Orchestrator.handleEvent
  split
  · exact steady_pure _ _
  · refine steady_bind (hsteady.takeEvent source _) fun taken => ?_
    split
    · exact steady_pure _ _
    · refine steady_bind (hsteady.referenceNow _ _) fun reading => ?_
      split
      · exact steady_bind (steady_log _ _ _) fun _ => steady_pure _ _
      · exact steady_bind (pairAndKeep o source _ _) fun _ => steady_pure _ _

theorem handleReady (o : Orchestrator H S) (p : Orchestrator.Progress) (ready : List Nat) :
    Action.Steady view (o.handleReady env p ready) := by
  induction ready generalizing o p with
  | nil => exact steady_pure _ _
  | cons index ready ih =>
    unfold Orchestrator.handleReady
    split
    · exact ih o p
    · refine steady_bind (hsteady.handleEvent o _) fun handled => ?_
      dsimp only
      split
      · exact steady_bind (steady_pure _ _) fun _ => ih _ _
      · exact steady_bind (steady_pure _ _) fun _ => ih _ _
      · exact steady_bind (steady_log _ _ _) fun _ => steady_bind (steady_pure _ _) fun _ => ih _ _

theorem unlockClocks (o : Orchestrator H S) (ids : List ClockId) :
    Action.Steady view (o.unlockClocks env ids) := by
  induction ids generalizing o with
  | nil => exact steady_pure _ _
  | cons id ids ih =>
    unfold Orchestrator.unlockClocks
    split
    · exact ih o
    · split
      · refine steady_bind (steady_log _ _ _) fun _ => steady_bind ?_ fun _ => ih _
        exact steady_bind (hsteady.reset _) fun _ => steady_pure _ _
      · exact ih o

end Environment.Steady

end ClockDiscipline
