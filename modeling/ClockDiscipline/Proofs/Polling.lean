/-
  ClockDiscipline/Proofs/Polling.lean
  ===================================
  **Every point that polling comes to.**

  `Polling` reaches exactly the points at which the collecting loop stands: at
  its head, with nothing left of the last answer, or with ready sources still
  to be handled.  A run that returns ends at one of them (`polled_of_returns`);
  the other way round, whatever follows from such a point is how polling ends
  (`Polling.outcome_poll`).
-/
import ClockDiscipline.Proofs.Cycle

namespace ClockDiscipline

open ClockDiscipline.Action

variable {W H S ε : Type} {env : Environment W H S ε} {wait : Waiter W ε}

namespace Orchestrator

/-! ### One ready source -/

section Ready

variable {o o' : Orchestrator H S} {p p' : Progress} {m m' : Machine W} {index : Nat}
  {ready : List Nat}

/-- What follows once an event is taken and the reference has been read for it. -/
def afterReading (env : Environment W H S ε) (o : Orchestrator H S) (source : EdgeSource)
    (event : EdgeEvent) :
    Except (ReferenceError ε) Instant →
      Action W (Except (EventError ε) Pairing × Orchestrator H S)
  | .error e => do
    Action.log .debug s!"reference time not valid: {e.debugText env.errorText}"
    return (.ok .ambiguous, o)
  | .ok reference => do
    let (pairing, o) ← o.pairAndKeep source event reference
    return (.ok pairing, o)

theorem outcome_handleEvent {source : EdgeSource} {c : Clock H S} {event : EdgeEvent}
    {reading : Except (ReferenceError ε) Instant} {m₁ m₂ : Machine W}
    (hc : o.clocks.get? source.clock = some c)
    (htake : Returns (source.takeEvent env c.handle) m (.ok event) m₁)
    (hnow : Returns (o.reference.now env o.clocks) m₁ reading m₂) :
    (o.handleEvent env source).outcome m =
      (o.afterReading env source event reading).outcome m₂ := by
  simp only [handleEvent, hc]
  rw [htake.outcome_bind, hnow.outcome_bind]
  cases reading <;> rfl

theorem handleEvent_of_accepts {s : Sample} {c : Clock H S} (h : o.Accepts env s c m m') :
    Returns (o.handleEvent env s.source) m (.ok (.sample s.offset s.localTime), o.keeping s c)
      m' := by
  obtain ⟨hc, ⟨-, hpair⟩, m₁, m₂, htake, hnow, rfl⟩ := h
  have hpaired : Returns (s.source.pair s.event s.reference) m₂ (.sample s.offset s.localTime)
      m₂ :=
    returns_bind.mpr ⟨_, m₂, returns_checked.mpr ⟨hpair, rfl⟩, returns_pure.mpr ⟨rfl, rfl⟩⟩
  refine (outcome_handleEvent hc htake hnow).trans ?_
  refine returns_bind.mpr ⟨(_, _), _, ?_, returns_pure.mpr ⟨rfl, rfl⟩⟩
  refine returns_bind.mpr ⟨_, m₂, hpaired, ?_⟩
  simp [hc, Clock.addTimestamp, keeping]

theorem handleReady_cons_eq : o.handleReady env p (index :: ready) =
    o.handleReady env p [index] >>= fun first => first.2.handleReady env first.1 ready := by
  simp only [handleReady]
  cases o.sources[index]? with
  | none => simp
  | some source =>
    simp only [bind_assoc]
    refine bind_congr fun handled => ?_
    rcases handled with ⟨e | (_ | _), o⟩ <;> simp

theorem handleReady_of_accepts {s : Sample} {c : Clock H S}
    (hsource : o.sources[index]? = some s.source) (h : o.Accepts env s c m m') :
    Returns (o.handleReady env p [index]) m
      (⟨p.handled.set index true, p.ambiguous⟩, o.keeping s c) m' := by
  simp only [handleReady, hsource]
  refine returns_bind.mpr ⟨_, m', handleEvent_of_accepts h, ?_⟩
  simp

theorem handleReady_ambiguous (h : Returns (o.handleReady env p ready) m (p', o') m')
    (hp : p.ambiguous = true) : p'.ambiguous = true := by
  induction ready generalizing o p m with
  | nil =>
    simp only [handleReady, returns_pure, Prod.mk.injEq] at h
    rw [h.1.1]
    exact hp
  | cons index ready ih =>
    rcases handleReady_cons h with ⟨-, h⟩ | ⟨_, _, _, _, _, ambiguous, -, -, -, hambiguous, h⟩
    · exact ih h hp
    · refine ih h ?_
      rw [hambiguous, hp, Bool.true_or]

end Ready

/-! ### The points of the loop -/

/-- What is marked and noted before the first wait. -/
def Progress.start (o : Orchestrator H S) : Progress := ⟨o.sources.map fun _ => false, false⟩

/-- From the orchestrator `o₀` and the machine `m₀` on, the loop has kept these
    samples and comes to a point at which so many of the ready sources are
    still to be handled. -/
inductive Polling (env : Environment W H S ε) (wait : Waiter W ε) (o₀ : Orchestrator H S)
    (m₀ : Machine W) :
    List Sample → Orchestrator H S → Progress → List Nat → Machine W → Prop where
  | start : Polling env wait o₀ m₀ [] o₀ (.start o₀) [] m₀
  | answered {samples : List Sample} {o : Orchestrator H S} {p : Progress} {ready : List Nat}
      {m m' : Machine W} :
      Polling env wait o₀ m₀ samples o p [] m → ¬p.handled.all id = true →
      Returns (wait o.config.pollTimeoutMs) m (.ok ready) m' → ready ≠ [] →
      Polling env wait o₀ m₀ samples o p ready m'
  | kept {samples : List Sample} {o : Orchestrator H S} {p : Progress} {index : Nat}
      {ready : List Nat} {m m' : Machine W} {s : Sample} {c : Clock H S} :
      Polling env wait o₀ m₀ samples o p (index :: ready) m →
      o.sources[index]? = some s.source → o.Accepts env s c m m' →
      Polling env wait o₀ m₀ (samples ++ [s]) (o.keeping s c)
        ⟨p.handled.set index true, p.ambiguous⟩ ready m'
  | passed {samples : List Sample} {o o' : Orchestrator H S} {p p' : Progress} {index : Nat}
      {ready : List Nat} {m m' : Machine W} :
      Polling env wait o₀ m₀ samples o p (index :: ready) m →
      (∀ s c m', o.sources[index]? = some s.source → ¬o.Accepts env s c m m') →
      Returns (o.handleReady env p [index]) m (p', o') m' →
      Polling env wait o₀ m₀ samples o' p' ready m'

/-- How polling ends, and at which point. -/
inductive Polled (env : Environment W H S ε) (wait : Waiter W ε) (o₀ : Orchestrator H S)
    (m₀ : Machine W) :
    Except (SyncError ε) PollOutcome → Orchestrator H S → Machine W → Prop where
  | handled {samples : List Sample} {o : Orchestrator H S} {p : Progress} {m : Machine W} :
      Polling env wait o₀ m₀ samples o p [] m → p.handled.all id = true →
      Polled env wait o₀ m₀ (.ok (if p.ambiguous then .ambiguous else .collected)) o m
  | failed {samples : List Sample} {o : Orchestrator H S} {p : Progress} {m m' : Machine W}
      {e : ε} :
      Polling env wait o₀ m₀ samples o p [] m → ¬p.handled.all id = true →
      Returns (wait o.config.pollTimeoutMs) m (.error e) m' →
      Polled env wait o₀ m₀ (.error (.poll e)) o m'
  | late {samples : List Sample} {o : Orchestrator H S} {p : Progress} {m m' : Machine W} :
      Polling env wait o₀ m₀ samples o p [] m → ¬p.handled.all id = true →
      Returns (wait o.config.pollTimeoutMs) m (.ok []) m' → p.handled.any id = true →
      Polled env wait o₀ m₀ (.ok .timeout) o (noted m' .debug "poll returned no events")
  | silent {samples : List Sample} {o o' : Orchestrator H S} {p : Progress}
      {m m₁ m' : Machine W} :
      Polling env wait o₀ m₀ samples o p [] m → ¬p.handled.all id = true →
      Returns (wait o.config.pollTimeoutMs) m (.ok []) m₁ → ¬p.handled.any id = true →
      Returns (o.unlockDestinations env) (noted m₁ .debug "poll returned no events") o' m' →
      Polled env wait o₀ m₀ (.ok .timeout) o' m'

section Points

variable {o₀ o o' : Orchestrator H S} {m₀ m m' : Machine W} {samples : List Sample}
  {p p' : Progress} {ready : List Nat} {result : Except (SyncError ε) PollOutcome}

/-! ### Polling passes through its points -/

theorem Polling.handleReady (h : Polling env wait o₀ m₀ samples o p ready m)
    (hrun : Returns (o.handleReady env p ready) m (p', o') m') :
    ∃ later, Polling env wait o₀ m₀ later o' p' [] m' := by
  -- each ready source is one more step, by which of the two constructors its
  -- event decides
  induction ready generalizing samples o p m with
  | nil =>
    simp only [Orchestrator.handleReady, returns_pure, Prod.mk.injEq] at hrun
    obtain ⟨⟨rfl, rfl⟩, rfl⟩ := hrun
    exact ⟨samples, h⟩
  | cons index ready ih =>
    rw [handleReady_cons_eq, returns_bind] at hrun
    obtain ⟨⟨p₁, o₁⟩, m₁, hfirst, hrest⟩ := hrun
    by_cases haccepts : ∃ s c m₁, o.sources[index]? = some s.source ∧ o.Accepts env s c m m₁
    · obtain ⟨s, c, m₂, hsource, haccepts⟩ := haccepts
      obtain ⟨hsame, rfl⟩ := hfirst.unique (handleReady_of_accepts hsource haccepts)
      cases hsame
      exact ih (h.kept hsource haccepts) hrest
    · refine ih (h.passed ?_ hfirst) hrest
      intro s c m₂ hsource hs
      exact haccepts ⟨s, c, m₂, hsource, hs⟩

theorem Polling.collect (h : Polling env wait o₀ m₀ samples o p [] m) {patience : Nat}
    (hrun : Returns (collect env wait patience o p) m (result, o') m') :
    Polled env wait o₀ m₀ result o' m' := by
  replace hrun := turns_of_returns hrun
  induction hrun generalizing samples with
  | handled hall => exact .handled h hall
  | failed hall hwait => exact .failed h hall hwait
  | late hall hwait hany => exact .late h hall hwait hany
  | silent hall hwait hany hunlock => exact .silent h hall hwait hany hunlock
  | answered hall hwait hready hturns ih =>
    obtain ⟨later, hnext⟩ := (h.answered hall hwait (List.cons_ne_nil _ _)).handleReady hready
    exact ih hnext

theorem poll_eq_collect (hsources : o.sources ≠ []) :
    o.poll env wait = Orchestrator.collect env wait env.patience o (.start o) := by
  have hempty : ¬o.sources.isEmpty = true := by simpa using hsources
  rw [poll, if_neg hempty]
  rfl

theorem polled_of_returns (hsources : o₀.sources ≠ [])
    (h : Returns (o₀.poll env wait) m₀ (result, o') m') : Polled env wait o₀ m₀ result o' m' := by
  rw [poll_eq_collect hsources] at h
  exact Polling.start.collect h

/-- Only a poll that has handled every source, and none of them with an
    ambiguous event, has collected the events. -/
theorem exists_polling_of_collected
    (h : Returns (o₀.poll env wait) m₀ (.ok .collected, o') m') :
    o₀.sources ≠ [] ∧ ∃ samples p, Polling env wait o₀ m₀ samples o' p [] m' ∧
      p.handled.all id = true ∧ p.ambiguous = false := by
  have hsources : o₀.sources ≠ [] := by
    intro hnone
    simp only [poll, hnone, List.isEmpty_nil, if_true, returns_bind] at h
    obtain ⟨answer, m₁, -, h⟩ := h
    cases answer <;> simp at h
  refine ⟨hsources, ?_⟩
  have hpolled := polled_of_returns hsources h
  generalize hresult : (.ok .collected : Except (SyncError ε) PollOutcome) = result at hpolled
  cases hpolled with
  | @handled samples o p m hpoint hall =>
    refine ⟨samples, p, hpoint, hall, ?_⟩
    cases hambiguous : p.ambiguous with
    | true => simp [hambiguous] at hresult
    | false => rfl
  | failed => cases hresult
  | late => cases hresult
  | silent => cases hresult

/-! ### What follows from a point -/

/-- If polling comes to a point at all, it ends as it does from there, unless
    it runs out of patience on the way. -/
theorem Polling.outcome_poll (hsources : o₀.sources ≠ [])
    (h : Polling env wait o₀ m₀ samples o p ready m) :
    ((o₀.poll env wait).outcome m₀).1 = .error .unfinished ∨
      ∃ patience, (o₀.poll env wait).outcome m₀ =
        outcome (o.handleReady env p ready >>= fun rest =>
          Orchestrator.collect env wait patience rest.2 rest.1) m := by
  -- only an answer uses up patience, the sources that it names do not
  induction h with
  | start =>
    refine .inr ⟨env.patience, ?_⟩
    rw [poll_eq_collect hsources]
    simp [Orchestrator.handleReady]
  | @answered samples o p ready m m' h hall hwait hready ih =>
    rcases ih with hfault | ⟨patience, heq⟩
    · exact .inl hfault
    · simp only [Orchestrator.handleReady, pure_bind] at heq
      cases patience with
      | zero =>
        refine .inl ?_
        rw [heq, collect_impatient hall, outcome_checked]
      | succ patience =>
        refine .inr ⟨patience, ?_⟩
        rw [heq, collect_waits hall, hwait.outcome_bind]
        cases ready with
        | nil => exact absurd rfl hready
        | cons index ready => rfl
  | @kept samples o p index ready m m' s c h hsource haccepts ih =>
    rcases ih with hfault | ⟨patience, heq⟩
    · exact .inl hfault
    · refine .inr ⟨patience, ?_⟩
      rw [heq, handleReady_cons_eq, bind_assoc,
        (handleReady_of_accepts hsource haccepts).outcome_bind]
  | @passed samples o o' p p' index ready m m' h hnone hrun ih =>
    rcases ih with hfault | ⟨patience, heq⟩
    · exact .inl hfault
    · refine .inr ⟨patience, ?_⟩
      rw [heq, handleReady_cons_eq, bind_assoc, hrun.outcome_bind]

theorem Polling.returns_collect (hsources : o₀.sources ≠ [])
    (h : Polling env wait o₀ m₀ samples o p [] m)
    (hrun : Returns (o₀.poll env wait) m₀ (result, o') m') :
    ∃ patience, Returns (Orchestrator.collect env wait patience o p) m (result, o') m' := by
  rcases h.outcome_poll hsources with hfault | ⟨patience, heq⟩
  · rw [hrun] at hfault
    cases hfault
  · simp only [Orchestrator.handleReady, pure_bind] at heq
    exact ⟨patience, heq.symm.trans hrun⟩

theorem Polling.returns_handled (hsources : o₀.sources ≠ [])
    (h : Polling env wait o₀ m₀ samples o p [] m) (hall : p.handled.all id = true)
    (hrun : Returns (o₀.poll env wait) m₀ (result, o') m') :
    result = .ok (if p.ambiguous then .ambiguous else .collected) ∧ o' = o ∧ m' = m := by
  obtain ⟨patience, hrun⟩ := h.returns_collect hsources hrun
  simp only [collect_handled hall, returns_pure, Prod.mk.injEq] at hrun
  exact ⟨hrun.1.1, hrun.1.2, hrun.2⟩

theorem Polling.returns_answered (hsources : o₀.sources ≠ [])
    (h : Polling env wait o₀ m₀ samples o p [] m) (hall : ¬p.handled.all id = true)
    {answer : Except ε (List Nat)} {m₁ : Machine W}
    (hwait : Returns (wait o.config.pollTimeoutMs) m answer m₁)
    (hrun : Returns (o₀.poll env wait) m₀ (result, o') m') :
    ∃ patience, Returns (afterAnswer env wait patience o p answer) m₁ (result, o') m' := by
  obtain ⟨patience, hrun⟩ := h.returns_collect hsources hrun
  cases patience with
  | zero =>
    rw [collect_impatient hall] at hrun
    simp at hrun
  | succ patience =>
    rw [collect_waits hall, returns_bind] at hrun
    obtain ⟨answer', m₂, hwait', hrun⟩ := hrun
    obtain ⟨rfl, rfl⟩ := hwait.unique hwait'
    exact ⟨patience, hrun⟩

/-! ### The clocks at a point -/

theorem Polling.collecting (h : Polling env wait o₀ m₀ samples o p ready m) :
    Collecting env wait o₀ m₀ samples o m := by
  induction h with
  | start => exact .done _ _
  | @answered samples o p ready m m' h hall hwait hready ih =>
    rw [← List.append_nil samples]
    exact ih.trans (.waited hwait (.done _ _))
  | kept h hsource haccepts ih =>
    exact ih.trans (.kept (List.mem_of_getElem? hsource) haccepts (.done _ _))
  | @passed samples o o' p p' index ready m m' h hnone hrun ih =>
    rw [← List.append_nil samples]
    refine ih.trans ?_
    rcases handleReady_cons hrun with
      ⟨-, hrun⟩ | ⟨source, result, o₁, m₁, m₂, _, hsource, hevent, hm, -, hrun⟩
    · simp only [Orchestrator.handleReady, returns_pure, Prod.mk.injEq] at hrun
      obtain ⟨⟨-, rfl⟩, rfl⟩ := hrun
      exact .done _ _
    · simp only [Orchestrator.handleReady, returns_pure, Prod.mk.injEq] at hrun
      obtain ⟨⟨-, rfl⟩, rfl⟩ := hrun
      rcases handleEvent_cases hevent with ⟨s, c, rfl, haccepts, -, -⟩ | ⟨rfl, hresult⟩
      · exact absurd haccepts (hnone s c m₁ hsource)
      · refine .dropped (List.mem_of_getElem? hsource) hevent hresult ?_
        rcases hm with rfl | ⟨text, rfl⟩
        · exact .done _ _
        · exact .noted _ _ (.done _ _)

end Points

end Orchestrator

end ClockDiscipline
