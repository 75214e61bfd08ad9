/-
  ClockDiscipline/Proofs/Cycle.lean
  =================================
  **The phases of a cycle, and what each of them leaves alone.**

  Every phase of a cycle is known by what it does to the clocks: collecting
  keeps samples and may unlock servos, the edge of a reference clock goes to
  that clock, and correcting works through the destinations one by one.  After
  the source has been selected none of them touches the setup
  (`runCycle_setup`).
-/
import ClockDiscipline.Proofs.Correcting

namespace ClockDiscipline

open ClockDiscipline.Action

variable {W H S ε : Type} {env : Environment W H S ε} {wait : Waiter W ε}

namespace Orchestrator

variable {o o' : Orchestrator H S} {m m' : Machine W}

theorem setup_modifyClock {id : ClockId} {f : Clock H S → Clock H S}
    (h : ∀ c, (f c).part = c.part) : (o.modifyClock id f).setup = o.setup :=
  setup_clocks (Registry.parts_modify fun c _ => h c)

theorem setup_flushTimestamps (o : Orchestrator H S) : o.flushTimestamps.setup = o.setup :=
  setup_clocks (Registry.parts_map Clock.part_flushTimestamp)

/-! ### Collecting -/

theorem unlockClocks_setup {ids : List ClockId} (h : Returns (o.unlockClocks env ids) m o' m') :
    o'.setup = o.setup := by
  induction ids generalizing o m with
  | nil =>
    simp only [unlockClocks, returns_pure] at h
    rw [h.1]
  | cons id ids ih =>
    cases hc : o.clocks.get? id with
    | none =>
      simp only [unlockClocks, hc] at h
      exact ih h
    | some c =>
      simp only [unlockClocks, hc] at h
      split at h
      · simp only [Clock.unlock, returns_bind, returns_log, returns_pure] at h
        obtain ⟨_, m₁, -, c', m₂, ⟨servo, m₃, -, rfl, -⟩, h⟩ := h
        exact (ih h).trans (setup_set hc rfl)
      · exact ih h

/-- Polling is the same chain of steps as collecting. -/
theorem poll_cases {result : Except (SyncError ε) PollOutcome}
    (h : Returns (o.poll env wait) m (result, o') m') :
    ∃ samples o₁ m₁, Collecting env wait o m samples o₁ m₁ ∧
      ((o' = o₁ ∧ m' = m₁) ∨
        (result = .ok .timeout ∧ Returns (o₁.unlockDestinations env) m₁ o' m')) := by
  unfold poll at h
  split at h
  · simp only [returns_bind] at h
    obtain ⟨answer, m₁, hwait, h⟩ := h
    cases answer with
    | error e =>
      simp only [returns_pure, Prod.mk.injEq] at h
      obtain ⟨⟨-, rfl⟩, rfl⟩ := h
      exact ⟨[], _, _, .waited hwait (.done _ _), .inl ⟨rfl, rfl⟩⟩
    | ok ready =>
      simp only [returns_pure, Prod.mk.injEq] at h
      obtain ⟨⟨-, rfl⟩, rfl⟩ := h
      exact ⟨[], _, _, .waited hwait (.done _ _), .inl ⟨rfl, rfl⟩⟩
  · exact collect_cases h

theorem poll_setup {result : Except (SyncError ε) PollOutcome}
    (h : Returns (o.poll env wait) m (result, o') m') : o'.setup = o.setup := by
  obtain ⟨samples, o₁, m₁, hchain, ⟨rfl, -⟩ | ⟨-, hunlock⟩⟩ := poll_cases h
  · exact hchain.setup
  · exact (unlockClocks_setup hunlock).trans hchain.setup

/-! ### The edge of a reference clock -/

/-- The edge of a reference clock becomes its timestamp. -/
theorem collectReference_cases (h : Returns (o.collectReference env) m (.ok (), o') m') :
    (o.reference.clock? = none ∧ o' = o) ∨
    ∃ id c t edge m₁, o.reference.clock? = some id ∧ o.clocks.get? id = some c ∧
      Returns (o.reference.now env o.clocks) m (.ok t) m₁ ∧
      approximateEdge t o.config.phase = .ok edge ∧
      o' = { o with clocks := o.clocks.set id { c with timestamp := some edge } } := by
  unfold collectReference at h
  cases hid : o.reference.clock? with
  | none =>
    simp only [hid, returns_pure, Prod.mk.injEq] at h
    exact .inl ⟨rfl, h.1.2⟩
  | some id =>
    simp only [hid, Reference.edge, returns_bind] at h
    obtain ⟨edge, m₁, ⟨reading, m₂, hnow, hedge⟩, h⟩ := h
    cases reading with
    | error e =>
      simp only [returns_pure] at hedge
      obtain ⟨rfl, rfl⟩ := hedge
      simp at h
    | ok t =>
      simp only [returns_bind, returns_checked, returns_pure] at hedge
      obtain ⟨edge, m₃, ⟨happrox, rfl⟩, rfl, rfl⟩ := hedge
      cases hc : o.clocks.get? id with
      | none => simp [hc] at h
      | some c =>
        simp only [hc, Clock.addTimestamp, returns_bind, returns_log, returns_pure,
          Prod.mk.injEq] at h
        obtain ⟨_, m₄, ⟨_, m₅, -, rfl, -⟩, ⟨-, rfl⟩, -⟩ := h
        exact .inr ⟨id, c, t, edge, m₁, rfl, hc, hnow, happrox, rfl⟩

theorem collectReference_error {e : SyncError ε}
    (h : Returns (o.collectReference env) m (.error e, o') m') : o' = o := by
  unfold collectReference at h
  cases hid : o.reference.clock? with
  | none => simp [hid] at h
  | some id =>
    simp only [hid, returns_bind] at h
    obtain ⟨edge, m₁, -, h⟩ := h
    cases edge with
    | error e' =>
      simp only [returns_pure, Prod.mk.injEq] at h
      exact h.1.2
    | ok edge =>
      cases hc : o.clocks.get? id with
      | none =>
        simp only [hc, returns_pure, Prod.mk.injEq] at h
        exact h.1.2
      | some c => simp [hc] at h

theorem collectReference_setup {result : Except (SyncError ε) Unit}
    (h : Returns (o.collectReference env) m (result, o') m') : o'.setup = o.setup := by
  cases result with
  | ok u =>
    rcases collectReference_cases h with ⟨-, rfl⟩ | ⟨id, c, t, edge, m₁, -, hc, -, -, rfl⟩
    · rfl
    · exact setup_set hc rfl
  | error e => rw [collectReference_error h]

/-! ### The source, and the whole cycle -/

/-- Without ports the reference is read for its edge, and that is all. -/
theorem sourceTimestamp_free {time? : Option Instant} (hports : o.topology = none)
    (h : Returns (o.sourceTimestamp env) m (time?, o') m') :
    o' = o ∧
      ((time? = none ∧ ∃ e m₁, Returns (o.reference.now env o.clocks) m (.error e) m₁) ∨
        ∃ t edge, time? = some edge ∧ Returns (o.reference.now env o.clocks) m (.ok t) m' ∧
          approximateEdge t o.config.phase = .ok edge) := by
  simp only [sourceTimestamp, hports, Reference.edge, returns_bind] at h
  obtain ⟨result, m₁, ⟨reading, m₂, hnow, hedge⟩, h⟩ := h
  cases reading with
  | error e =>
    simp only [returns_pure] at hedge
    obtain ⟨rfl, rfl⟩ := hedge
    simp only [returns_bind, returns_log, returns_pure, Prod.mk.injEq] at h
    obtain ⟨_, _, -, ⟨rfl, rfl⟩, -⟩ := h
    exact ⟨rfl, .inl ⟨rfl, e, m₁, hnow⟩⟩
  | ok t =>
    simp only [returns_bind, returns_checked, returns_pure] at hedge
    obtain ⟨edge, _, ⟨happrox, rfl⟩, rfl, rfl⟩ := hedge
    simp only [returns_pure, Prod.mk.injEq] at h
    obtain ⟨⟨rfl, rfl⟩, rfl⟩ := h
    exact ⟨rfl, .inr ⟨t, edge, rfl, hnow, happrox⟩⟩

theorem sourceTimestamp_cases {edge : Instant} (hports : o.topology = none)
    (h : Returns (o.sourceTimestamp env) m (some edge, o') m') :
    o' = o ∧ ∃ t, Returns (o.reference.now env o.clocks) m (.ok t) m' ∧
      approximateEdge t o.config.phase = .ok edge := by
  obtain ⟨rfl, ⟨hnone, -⟩ | ⟨t, _, hsome, hnow, happrox⟩⟩ := sourceTimestamp_free hports h
  · cases hnone
  · cases hsome
    exact ⟨rfl, t, hnow, happrox⟩

/-- With ports, the clock they have selected is the source. -/
def IsSource (o : Orchestrator H S) (id : ClockId) : Prop :=
  o.topology ≠ none ∧ o.sourceClock = some id

/-- With ports the time of the source is taken off its clock. -/
theorem sourceTimestamp_ports {time? : Option Instant} (hports : o.topology ≠ none)
    (h : Returns (o.sourceTimestamp env) m (time?, o') m') :
    (∀ t, time? = some t ↔
      ∃ id c, o.sourceClock = some id ∧ o.clocks.get? id = some c ∧ c.timestamp = some t) ∧
    ∀ id, o'.clocks.get? id =
      (o.clocks.get? id).map fun c => if o.sourceClock = some id then c.flushTimestamp else c := by
  unfold sourceTimestamp at h
  split at h
  · next hnone => exact absurd hnone hports
  · cases hid : o.sourceClock with
    | none =>
      simp only [hid, returns_bind, returns_log, returns_pure, Prod.mk.injEq] at h
      obtain ⟨_, _, -, ⟨rfl, rfl⟩, -⟩ := h
      simp
    | some id =>
      simp only [hid] at h
      cases hc : o.clocks.get? id with
      | none =>
        simp only [hc, returns_pure, Prod.mk.injEq] at h
        obtain ⟨⟨rfl, rfl⟩, -⟩ := h
        refine ⟨by simp [hc], fun other => ?_⟩
        by_cases hother : id = other
        · subst hother
          simp [hc]
        · simp [hother]
      | some c =>
        have hresult : time? = c.timestamp ∧ o' = o.modifyClock id Clock.flushTimestamp := by
          simp only [hc] at h
          split at h
          · simp only [returns_bind, returns_log, returns_pure, Prod.mk.injEq] at h
            obtain ⟨_, _, -, h, -⟩ := h
            exact h
          · simp only [returns_pure, Prod.mk.injEq] at h
            exact h.1
        obtain ⟨rfl, rfl⟩ := hresult
        refine ⟨by simp [hc], fun other => ?_⟩
        rw [modifyClock, Registry.get?_modify]
        by_cases hother : other = id
        · simp [hother]
        · have hne : ¬id = other := fun heq => hother heq.symm
          simp [hother, hne]

theorem sourceTimestamp_setup {edge : Option Instant}
    (h : Returns (o.sourceTimestamp env) m (edge, o') m') : o'.setup = o.setup := by
  unfold sourceTimestamp at h
  split at h
  · simp only [returns_bind] at h
    obtain ⟨result, m₁, -, h⟩ := h
    cases result with
    | ok t =>
      simp only [returns_pure, Prod.mk.injEq] at h
      rw [h.1.2]
    | error e =>
      simp only [returns_bind, returns_log, returns_pure, Prod.mk.injEq] at h
      obtain ⟨_, _, -, ⟨-, rfl⟩, -⟩ := h
      rfl
  · split at h
    · simp only [returns_bind, returns_log, returns_pure, Prod.mk.injEq] at h
      obtain ⟨_, _, -, ⟨-, rfl⟩, -⟩ := h
      rfl
    · split at h
      · simp only [returns_pure, Prod.mk.injEq] at h
        rw [h.1.2]
      · next id c hc =>
        split at h
        · simp only [returns_bind, returns_log, returns_pure, Prod.mk.injEq] at h
          obtain ⟨_, _, -, ⟨-, rfl⟩, -⟩ := h
          exact setup_modifyClock Clock.part_flushTimestamp
        · simp only [returns_pure, Prod.mk.injEq] at h
          obtain ⟨⟨-, rfl⟩, -⟩ := h
          exact setup_modifyClock Clock.part_flushTimestamp

theorem synchronize_setup {reports : List ClockReport}
    (h : Returns (o.synchronize env) m (reports, o') m') : o'.setup = o.setup := by
  simp only [synchronize, returns_bind] at h
  obtain ⟨⟨edge, o₁⟩, m₁, hsource, h⟩ := h
  have hsame := sourceTimestamp_setup hsource
  cases edge with
  | none =>
    simp only [returns_pure, Prod.mk.injEq] at h
    obtain ⟨⟨-, rfl⟩, -⟩ := h
    exact hsame
  | some t => exact (synchronizeClocks_setup h).trans hsame

/-- A cycle selects the source and polls.  When all events have been collected,
    the edge of the reference is too, and then the clocks are corrected; in any
    other case there is nothing to report. -/
theorem runCycle_cases {result : Except (SyncError ε) (List ClockReport)}
    (h : Returns (o.runCycle env wait) m (result, o') m') :
    ∃ selection o₁ m₁ outcome o₂ m₂,
      Returns o.reconfigure m (selection, o₁) m₁ ∧
      Returns (o₁.flushTimestamps.poll env wait) m₁ (outcome, o₂) m₂ ∧
      ((o' = o₂ ∧ ∀ reports, result = .ok reports → reports = []) ∨
        outcome = .ok .collected ∧ ∃ stamped o₃ m₃,
          Returns (o₂.collectReference env) m₂ (stamped, o₃) m₃ ∧
          ((o' = o₃ ∧ ∀ reports, result ≠ .ok reports) ∨
            stamped = .ok () ∧ ∃ reports, result = .ok reports ∧
              Returns (o₃.synchronize env) m₃ (reports, o') m')) := by
  simp only [runCycle, returns_bind] at h
  obtain ⟨⟨selection, o₁⟩, m₁, hselect, ⟨outcome, o₂⟩, m₂, hpoll, h⟩ := h
  refine ⟨selection, o₁, m₁, outcome, o₂, m₂, hselect, hpoll, ?_⟩
  cases outcome with
  | error e =>
    simp only [returns_pure, Prod.mk.injEq] at h
    exact .inl ⟨h.1.2, by simp [h.1.1]⟩
  | ok outcome =>
    cases outcome with
    | ambiguous =>
      simp only [returns_pure, Prod.mk.injEq] at h
      exact .inl ⟨h.1.2, by simp [h.1.1]⟩
    | timeout =>
      simp only [returns_pure, Prod.mk.injEq] at h
      exact .inl ⟨h.1.2, by simp [h.1.1]⟩
    | collected =>
      simp only [returns_bind] at h
      obtain ⟨⟨stamped, o₃⟩, m₃, hstamp, h⟩ := h
      refine .inr ⟨rfl, stamped, o₃, m₃, hstamp, ?_⟩
      cases stamped with
      | error e =>
        simp only [returns_pure, Prod.mk.injEq] at h
        exact .inl ⟨h.1.2, by simp [h.1.1]⟩
      | ok u =>
        simp only [returns_bind, returns_pure, Prod.mk.injEq] at h
        obtain ⟨⟨reports, o₄⟩, m₄, hsync, ⟨rfl, rfl⟩, rfl⟩ := h
        exact .inr ⟨rfl, reports, rfl, hsync⟩

/-- Nothing of the setup is changed any more once the source has been
    selected. -/
theorem runCycle_setup {result : Except (SyncError ε) (List ClockReport)}
    (h : Returns (o.runCycle env wait) m (result, o') m') :
    ∃ selection o₁ m₁, Returns o.reconfigure m (selection, o₁) m₁ ∧ o'.setup = o₁.setup := by
  obtain ⟨selection, o₁, m₁, outcome, o₂, m₂, hselect, hpoll, h⟩ := runCycle_cases h
  have hpolled := (poll_setup hpoll).trans (setup_flushTimestamps o₁)
  refine ⟨selection, o₁, m₁, hselect, ?_⟩
  rcases h with ⟨rfl, -⟩ | ⟨-, stamped, o₃, m₃, hstamp, h⟩
  · exact hpolled
  · have hstamped := (collectReference_setup hstamp).trans hpolled
    rcases h with ⟨rfl, -⟩ | ⟨-, reports, -, hsync⟩
    · exact hstamped
    · exact (synchronize_setup hsync).trans hstamped

end Orchestrator

end ClockDiscipline
