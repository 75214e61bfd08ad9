/-
  ClockDiscipline/Proofs/Waiting.lean
  ===================================
  **When collecting the events of a cycle comes to an end.**

  A poller is any infinite sequence of answers.  An answer settles the wait if
  it is a failure or a timeout, or if every source has been named by then.
  Collecting ends by itself with the first such answer, however much patience
  is left.  Nothing else ends it: while every wait names some source and one
  of the sources is never named, it goes on waiting, and so it never returns
  (`polling_returns_iff_settled`).
-/
import ClockDiscipline.Bench.Environment
import ClockDiscipline.Proofs.Collecting
import ClockDiscipline.Proofs.Steady

namespace ClockDiscipline

open ClockDiscipline.Action

variable {W H S ε α : Type}

/-! ### Pollers -/

/-- A world and the number of waits made so far. -/
structure Awaited (W : Type) where
  world : W
  waits : Nat

/-- A step that knows nothing of the waits. -/
def Action.unaware (a : Action W α) : Action (Awaited W) α :=
  ExceptT.mk fun m =>
    let (result, m') := a.outcome ⟨m.world.world, m.journal⟩
    (result, ⟨⟨m'.world, m.world.waits⟩, m'.journal⟩)

theorem Action.unaware_steady {a : Action W α} (h : Action.Steady (fun _ => ()) a) :
    Action.Steady Awaited.waits a.unaware where
  keeps _ := rfl
  overflows he := h.overflows he

/-- The same requests, with the patience for that many waits. -/
def Environment.unaware (env : Environment W H S ε) (patience : Nat) :
    Environment (Awaited W) H S ε where
  device := {
    now := fun handle => (env.device.now handle).unaware
    frequency := fun handle => (env.device.frequency handle).unaware
    setFrequency := fun handle f => (env.device.setFrequency handle f).unaware
    step := fun handle offset => (env.device.step handle offset).unaware
    maxFrequency := fun handle => (env.device.maxFrequency handle).unaware
    pinCount := fun handle => (env.device.pinCount handle).unaware
    setPinFunction := fun handle pin channel =>
      (env.device.setPinFunction handle pin channel).unaware
    enableEdges := fun handle channel polarity =>
      (env.device.enableEdges handle channel polarity).unaware
    disableEdges := fun handle channel => (env.device.disableEdges handle channel).unaware
    nextEvent := fun handle => (env.device.nextEvent handle).unaware }
  servo := {
    sample := fun servo offset localNanos weight =>
      (env.servo.sample servo offset localNanos weight).unaware
    reset := fun servo => (env.servo.reset servo).unaware
    frequency := env.servo.frequency }
  openClock name := (env.openClock name).unaware
  makeServo handle := (env.makeServo handle).unaware
  systemTime := env.systemTime.unaware
  errorText := env.errorText
  patience := patience

theorem Environment.unaware_steady {env : Environment W H S ε} (h : env.Steady fun _ => ())
    (patience : Nat) : (env.unaware patience).Steady Awaited.waits where
  nextEvent handle := Action.unaware_steady (h.nextEvent handle)
  now handle := Action.unaware_steady (h.now handle)
  systemTime := Action.unaware_steady h.systemTime
  reset servo := Action.unaware_steady (h.reset servo)

/-- The poller that gives these answers one after the other, while the rest of
    the world goes on as `pass` says. -/
def answering (answers : Nat → Except ε (List Nat)) (pass : Nat → W → W) :
    Waiter (Awaited W) ε := fun _ =>
  Action.perform fun w => (answers w.waits, ⟨pass w.waits w.world, w.waits + 1⟩)

/-- One of the first `n` answers names the source `i`. -/
def Named (answers : Nat → Except ε (List Nat)) (n i : Nat) : Prop :=
  ∃ k < n, ∃ ready, answers k = .ok ready ∧ i ∈ ready

/-- An answer that ends the wait whatever has been handled: a failure or a
    timeout. -/
def EndsWait : Except ε (List Nat) → Prop
  | .error _ => True
  | .ok ready => ready = []

/-- The wait for so many sources is over with the answer number `n`. -/
def Settled (answers : Nat → Except ε (List Nat)) (sources n : Nat) : Prop :=
  EndsWait (answers n) ∨ ∀ i < sources, Named answers (n + 1) i

theorem named_succ {answers : Nat → Except ε (List Nat)} {n i : Nat} {ready : List Nat}
    (h : answers n = .ok ready) : Named answers (n + 1) i ↔ Named answers n i ∨ i ∈ ready := by
  constructor
  · rintro ⟨k, hk, ready', hanswer, hmem⟩
    by_cases heq : k = n
    · subst heq
      rw [h] at hanswer
      cases hanswer
      exact .inr hmem
    · exact .inl ⟨k, by omega, ready', hanswer, hmem⟩
  · rintro (⟨k, hk, ready', hanswer, hmem⟩ | hmem)
    · exact ⟨k, by omega, ready', hanswer, hmem⟩
    · exact ⟨n, by omega, ready, h, hmem⟩

namespace Orchestrator

/-! ### The loop and its invariant -/

/-- After that many waits the loop is still running: no answer has ended it,
    and the marked sources are those that have been named. -/
structure Underway (answers : Nat → Except ε (List Nat)) (o : Orchestrator H S) (p : Progress)
    (waits : Nat) : Prop where
  length : p.handled.length = o.sources.length
  marked : ∀ i, p.handled[i]? = some true ↔ i < o.sources.length ∧ Named answers waits i
  running : ∀ k < waits, ¬EndsWait (answers k)

namespace Underway

variable {answers : Nat → Except ε (List Nat)} {o o' : Orchestrator H S} {p p' : Progress}
  {waits : Nat} {V : Type} {env : Environment V H S ε} {m m' : Machine V} {ready : List Nat}

theorem all_handled_iff (h : Underway answers o p waits) :
    p.handled.all id = true ↔ ∀ i < o.sources.length, Named answers waits i := by
  simp only [List.all_eq_true, id_eq]
  constructor
  · intro hall i hi
    have hi' : i < p.handled.length := h.length ▸ hi
    have hget : p.handled[i]? = some true := by
      rw [List.getElem?_eq_getElem hi', hall _ (List.getElem_mem hi')]
    exact ((h.marked i).mp hget).2
  · intro hnamed b hb
    obtain ⟨i, hi, rfl⟩ := List.getElem_of_mem hb
    have hi' : i < o.sources.length := h.length ▸ hi
    have hget := (h.marked i).mpr ⟨hi', hnamed i hi'⟩
    simpa [List.getElem?_eq_getElem hi] using hget

/-- Handling the ready sources of an answer takes the loop to the next
    wait. -/
theorem step (h : Underway answers o p waits) (hanswer : answers waits = .ok ready)
    (hready : ready ≠ []) (hrun : Returns (o.handleReady env p ready) m (p', o') m') :
    Underway answers o' p' (waits + 1) := by
  have hsources : o'.sources = o.sources := sources_of_setup_eq (handleReady_setup hrun)
  obtain ⟨hlength, hmarked⟩ := handleReady_handled hrun h.length
  refine ⟨by rw [hlength, hsources], fun i => ?_, fun k hk => ?_⟩
  · rw [hmarked, h.marked, hsources, named_succ hanswer]
    exact and_or_left.symm
  · by_cases heq : k = waits
    · subst heq
      rw [hanswer]
      exact hready
    · exact h.running k (by omega)

/-- Nothing is marked before the first wait. -/
theorem start (o : Orchestrator H S) :
    Underway answers o ⟨o.sources.map fun _ => false, false⟩ 0 where
  length := List.length_map _
  marked i := by
    have hunmarked : (o.sources.map fun _ => false)[i]? ≠ some true := by
      rw [List.getElem?_map]
      cases o.sources[i]? <;> simp
    constructor
    · exact fun hmarked => absurd hmarked hunmarked
    · rintro ⟨-, k, hk, -⟩
      exact absurd hk (Nat.not_lt_zero k)
  running k hk := absurd hk (Nat.not_lt_zero k)

/-- When every source has been handled, the last answer was the one that
    settled the wait. -/
theorem settled (h : Underway answers o p waits) (hsources : o.sources ≠ [])
    (hall : p.handled.all id = true) : ∃ n < waits, Settled answers o.sources.length n := by
  have hnamed := h.all_handled_iff.mp hall
  have hpos : 0 < o.sources.length := List.length_pos_iff.mpr hsources
  obtain ⟨k, hk, -⟩ := hnamed 0 hpos
  refine ⟨waits - 1, by omega, .inr ?_⟩
  rwa [Nat.sub_add_cancel (by omega)]

/-- A settled wait that is still running has handled every source. -/
theorem all_handled_of_settled (h : Underway answers o p waits) {n : Nat} (hn : n < waits)
    (hsettled : Settled answers o.sources.length n) : p.handled.all id = true := by
  refine h.all_handled_iff.mpr fun i hi => ?_
  rcases hsettled with hends | hnamed
  · exact absurd hends (h.running n hn)
  · obtain ⟨k, hk, ready, hanswer, hmem⟩ := hnamed i hi
    exact ⟨k, by omega, ready, hanswer, hmem⟩

end Underway

/-! ### When the loop returns -/

section Loop

variable {env : Environment (Awaited W) H S ε} {answers : Nat → Except ε (List Nat)}
  {pass : Nat → W → W} {o o' : Orchestrator H S} {p : Progress} {m m' : Machine (Awaited W)}

theorem answering_returns (timeoutMs : UInt64) (m : Machine (Awaited W)) :
    Returns (answering answers pass timeoutMs) m (answers m.world.waits)
      ⟨⟨pass m.world.waits m.world.world, m.world.waits + 1⟩, m.journal⟩ := rfl

/-- Handling the sources that an answer names takes the loop to the next
    wait. -/
theorem handleReady_underway (hsteady : env.Steady Awaited.waits) {ready : List Nat}
    {p' : Progress} (h : Underway answers o p m.world.waits)
    (hanswer : answers m.world.waits = .ok ready) (hready : ready ≠ [])
    {m₁ : Machine (Awaited W)} (hwait : m₁.world.waits = m.world.waits + 1)
    (hrun : Returns (o.handleReady env p ready) m₁ (p', o') m') :
    o'.sources = o.sources ∧ m'.world.waits = m.world.waits + 1 ∧
      Underway answers o' p' m'.world.waits := by
  have hwaits : m'.world.waits = m.world.waits + 1 :=
    ((hsteady.handleReady o p ready).of_returns hrun).trans hwait
  have hnext := h.step hanswer hready hrun
  rw [← hwaits] at hnext
  exact ⟨sources_of_setup_eq (handleReady_setup hrun), hwaits, hnext⟩

theorem afterTimeout_steady (hsteady : env.Steady Awaited.waits)
    (wait : Waiter (Awaited W) ε) (patience : Nat) (o : Orchestrator H S) (p : Progress) :
    Steady Awaited.waits (afterAnswer env wait patience o p (.ok [])) := by
  refine steady_bind (steady_log _ _ _) fun _ => ?_
  split
  · exact steady_pure _ _
  · exact steady_bind (hsteady.unlockClocks o _) fun _ => steady_pure _ _

/-- The loop returns only if one of the answers it has patience for settles
    the wait. -/
theorem settled_of_collect_returns (hsteady : env.Steady Awaited.waits) {patience : Nat}
    {result : Except (SyncError ε) PollOutcome} (h : Underway answers o p m.world.waits)
    (hsources : o.sources ≠ [])
    (hrun : Returns (collect env (answering answers pass) patience o p) m (result, o') m') :
    ∃ n < m.world.waits + patience, Settled answers o.sources.length n := by
  -- `Underway` carries the induction over the waits that are left
  induction patience generalizing o p m with
  | zero =>
    by_cases hall : p.handled.all id = true
    · exact h.settled hsources hall
    · rw [collect_impatient hall] at hrun
      simp at hrun
  | succ patience ih =>
    by_cases hall : p.handled.all id = true
    · obtain ⟨n, hn, hsettled⟩ := h.settled hsources hall
      exact ⟨n, by omega, hsettled⟩
    · rw [collect_waits hall, returns_bind] at hrun
      obtain ⟨answer, m₁, hwait, hrun⟩ := hrun
      obtain ⟨hanswer, rfl⟩ := hwait.unique (answering_returns _ m)
      cases answer with
      | error e => exact ⟨m.world.waits, by omega, .inl (by rw [← hanswer]; trivial)⟩
      | ok ready =>
        cases ready with
        | nil => exact ⟨m.world.waits, by omega, .inl (by rw [← hanswer]; rfl)⟩
        | cons index ready =>
          simp only [afterAnswer, returns_bind] at hrun
          obtain ⟨⟨p₁, o₁⟩, m₂, hready, hrun⟩ := hrun
          obtain ⟨hsame, hwaits, hnext⟩ := handleReady_underway hsteady h hanswer.symm
            (List.cons_ne_nil index ready) rfl hready
          obtain ⟨n, hn, hsettled⟩ := ih hnext (hsame ▸ hsources) hrun
          exact ⟨n, by omega, hsame ▸ hsettled⟩

/-- When the loop has patience for the answer that settles the wait, nothing
    but an overflow keeps it from returning. -/
theorem collect_overflows (hsteady : env.Steady Awaited.waits) {patience n : Nat} {e : Fault}
    (h : Underway answers o p m.world.waits) (hn : n < m.world.waits + patience)
    (hsettled : Settled answers o.sources.length n)
    (hrun : ((collect env (answering answers pass) patience o p).outcome m).1 = .error e) :
    e = .overflow := by
  induction patience generalizing o p m with
  | zero =>
    -- the settling answer is past, so the loop is not entered any more
    rw [collect_handled (h.all_handled_of_settled hn hsettled)] at hrun
    cases hrun
  | succ patience ih =>
    by_cases hall : p.handled.all id = true
    · rw [collect_handled hall] at hrun
      cases hrun
    · rw [collect_waits hall, (answering_returns _ m).outcome_bind] at hrun
      cases hanswer : answers m.world.waits with
      | error _ =>
        rw [hanswer] at hrun
        cases hrun
      | ok ready =>
        cases ready with
        | nil =>
          rw [hanswer] at hrun
          exact (afterTimeout_steady hsteady _ patience o p).overflows hrun
        | cons index ready =>
          rw [hanswer] at hrun
          simp only [afterAnswer, outcome_bind] at hrun
          split at hrun
          · next handled m₂ hready =>
            obtain ⟨p₁, o₁⟩ := handled
            obtain ⟨hsame, hwaits, hnext⟩ := handleReady_underway hsteady h hanswer
              (List.cons_ne_nil index ready) rfl hready
            exact ih hnext (by omega) (hsame ▸ hsettled) hrun
          · next e' m₂ hready =>
            cases hrun
            exact (hsteady.handleReady o p (index :: ready)).overflows (congrArg Prod.fst hready)

end Loop

/-! ### The poll of a cycle -/

section Polling

variable {env : Environment W H S ε} {answers : Nat → Except ε (List Nat)} {pass : Nat → W → W}
  {o : Orchestrator H S} {m : Machine W} {patience : Nat}

/-- How polling for the events of a cycle ends when the poller gives these
    answers and there is patience for so many waits. -/
def polling (env : Environment W H S ε) (answers : Nat → Except ε (List Nat))
    (pass : Nat → W → W) (o : Orchestrator H S) (m : Machine W) (patience : Nat) :
    Except Fault (Except (SyncError ε) PollOutcome × Orchestrator H S) × Machine (Awaited W) :=
  (o.poll (env.unaware patience) (answering answers pass)).outcome ⟨⟨m.world, 0⟩, m.journal⟩

theorem polling_eq_collect (hsources : o.sources ≠ []) :
    polling env answers pass o m patience =
      (collect (env.unaware patience) (answering answers pass) patience o
        ⟨o.sources.map fun _ => false, false⟩).outcome ⟨⟨m.world, 0⟩, m.journal⟩ := by
  have hempty : ¬o.sources.isEmpty = true := by simpa using hsources
  rw [polling, poll, if_neg hempty]
  rfl

theorem settled_of_polling_returns (hsteady : env.Steady fun _ => ()) (hsources : o.sources ≠ [])
    {result : Except (SyncError ε) PollOutcome × Orchestrator H S}
    (h : (polling env answers pass o m patience).1 = .ok result) :
    ∃ n < patience, Settled answers o.sources.length n := by
  rw [polling_eq_collect hsources] at h
  obtain ⟨n, hn, hsettled⟩ := settled_of_collect_returns
    (Environment.unaware_steady hsteady patience) (.start o) hsources (returns_of_outcome h)
  exact ⟨n, by simpa using hn, hsettled⟩

theorem polling_overflows (hsteady : env.Steady fun _ => ()) (hsources : o.sources ≠ [])
    (hsettled : ∃ n < patience, Settled answers o.sources.length n) {e : Fault}
    (h : (polling env answers pass o m patience).1 = .error e) : e = .overflow := by
  rw [polling_eq_collect hsources] at h
  obtain ⟨n, hn, hsettled⟩ := hsettled
  exact collect_overflows (Environment.unaware_steady hsteady patience) (.start o)
    (by simpa using hn) hsettled h

/-- Collecting ends, unless the times leave their range, exactly if one of the
    answers settles the wait. -/
theorem polling_returns_iff_settled (hsteady : env.Steady fun _ => ())
    (hsources : o.sources ≠ []) (answers : Nat → Except ε (List Nat)) (pass : Nat → W → W)
    (m : Machine W) (patience : Nat) :
    (polling env answers pass o m patience).1 = .error .overflow ∨
      ((∃ result, (polling env answers pass o m patience).1 = .ok result) ↔
        ∃ n < patience, Settled answers o.sources.length n) := by
  cases hend : (polling env answers pass o m patience).1 with
  | ok result =>
    refine .inr ⟨fun _ => ?_, fun _ => ⟨result, rfl⟩⟩
    exact settled_of_polling_returns hsteady hsources hend
  | error e =>
    by_cases hsettled : ∃ n < patience, Settled answers o.sources.length n
    · exact .inl (congrArg _ (polling_overflows hsteady hsources hsettled hend))
    · refine .inr ⟨fun ⟨_, hresult⟩ => ?_, fun h => absurd h hsettled⟩
      cases hresult

end Polling

/-! ### One of two sources silent -/

/-- The requests of a bench return. -/
theorem bench_steady (plan : Bench.ServoPlan) (w : Bench.World) :
    (Bench.environment plan w).Steady fun _ => () where
  nextEvent _ := ⟨fun _ => rfl, fun h => by cases h⟩
  now _ := ⟨fun _ => rfl, fun h => by cases h⟩
  systemTime := ⟨fun _ => rfl, fun h => by cases h⟩
  reset servo := by
    cases servo with
    | pi s => exact steady_pure _ _
    | prepared => exact ⟨fun _ => rfl, fun h => by cases h⟩

def twoClocks : Machine Bench.World where
  world := { devices := [{ name := "eth0" }, { name := "eth1", index := 1 }] }
  journal := #[]

def twoInputs : Orchestrator Nat Bench.Servo where
  config := {}
  clocks := ⟨[some (.opened "eth0" 0 0 .prepared), some (.opened "eth1" 1 1 .prepared)]⟩
  reference := .generic .zero
  sources := [.usual "eth0" ⟨0⟩, .usual "eth1" ⟨1⟩]
  topology := none
  sourceClock := none

theorem twoInputs_sources : twoInputs.sources ≠ [] := List.cons_ne_nil _ _

/-- While the first of two sources is ready at every wait, nothing gives up
    the silent one. -/
theorem not_settled_of_silent (n : Nat) :
    ¬Settled (fun _ => (.ok [0] : Except Bench.Failure (List Nat))) twoInputs.sources.length n := by
  rintro (hends | hnamed)
  · cases hends
  · obtain ⟨k, -, ready, hanswer, hmem⟩ := hnamed 1 (by decide)
    cases hanswer
    simp at hmem

/-- It is not so that every sequence of answers lets the poll return. -/
theorem not_forall_polling_returns :
    ¬ ∀ (env : Environment Bench.World Nat Bench.Servo Bench.Failure)
      (answers : Nat → Except Bench.Failure (List Nat)) (o : Orchestrator Nat Bench.Servo)
      (m : Machine Bench.World), (env.Steady fun _ => ()) → o.sources ≠ [] →
      ∃ patience result, (polling env answers (fun _ w => w) o m patience).1 = .ok result := by
  intro hreturns
  have hsteady := bench_steady .prepared twoClocks.world
  obtain ⟨patience, result, hrun⟩ :=
    hreturns _ (fun _ => .ok [0]) twoInputs twoClocks hsteady twoInputs_sources
  obtain ⟨n, -, hsettled⟩ := settled_of_polling_returns hsteady twoInputs_sources hrun
  exact not_settled_of_silent n hsettled

/-- With the second source ready at the second wait, the poll returns. -/
theorem polling_returns_iff_settled_secondWait :
    ((Bench.environment .prepared twoClocks.world).Steady fun _ => ()) ∧
    twoInputs.sources ≠ [] ∧
    ∃ result, (polling (Bench.environment .prepared twoClocks.world) (fun n => .ok [n])
      (fun _ w => w) twoInputs twoClocks 2).1 = .ok result := by
  have hsteady := bench_steady .prepared twoClocks.world
  have hreturns := polling_returns_iff_settled hsteady twoInputs_sources (fun n => .ok [n])
    (fun _ w => w) twoClocks 2
  have hsettled : Settled (fun n => (.ok [n] : Except Bench.Failure (List Nat))) 2 1 := by
    refine .inr fun i hi => ⟨i, hi, [i], rfl, List.mem_singleton_self i⟩
  refine ⟨hsteady, twoInputs_sources, ?_⟩
  rcases hreturns with hoverflow | hiff
  · have hok : (polling (Bench.environment .prepared twoClocks.world) (fun n => .ok [n])
        (fun _ w => w) twoInputs twoClocks 2).1.toBool = true := by decide +kernel
    rw [hoverflow] at hok
    cases hok
  · exact hiff.mpr ⟨1, by decide, hsettled⟩

end Orchestrator

end ClockDiscipline
