/-
  ClockDiscipline/Proofs/Correcting.lean
  ======================================
  **Correcting the destinations, one clock after the other.**

  The turn of one clock, `correctOne`, does not touch any other clock, so
  every report is traced back to its clock as it was before the first turn:
  `Correction` says which time of an edge it had, and what its servo was fed.
-/
import ClockDiscipline.Proofs.Collecting

namespace ClockDiscipline

open ClockDiscipline.Action

variable {W H S ε : Type} {env : Environment W H S ε}

namespace Orchestrator

variable {o o' : Orchestrator H S} {m m' : Machine W}

/-! ### Correcting one clock -/

/-- A clock is corrected by feeding its offset to its servo. -/
theorem steer_cases {id : ClockId} {c c' : Clock H S} {offset : Duration} {t : Instant}
    {weight : Float} {report : ClockReport}
    (h : Returns (steer env id c offset t weight) m (report, c') m') :
    report.clock = id ∧ report.offset = offset ∧ c'.part = c.part ∧
    ∃ adjustment servo m₁, Returns (env.servo.sample c.servo offset.nanos t.nanos weight) m
      ((adjustment, report.state), servo) m₁ := by
  simp only [steer, returns_bind, returns_log] at h
  obtain ⟨⟨⟨adjustment, state⟩, servo⟩, m₁, hsample, _, _, rfl, h⟩ := h
  split at h
  · simp only [returns_pure, Prod.mk.injEq] at h
    obtain ⟨⟨rfl, rfl⟩, -⟩ := h
    exact ⟨rfl, rfl, rfl, adjustment, servo, m₁, hsample⟩
  · simp only [returns_bind] at h
    obtain ⟨adjusted, m₂, -, h⟩ := h
    cases adjusted with
    | ok u =>
      simp only [returns_pure, Prod.mk.injEq] at h
      obtain ⟨⟨rfl, rfl⟩, -⟩ := h
      exact ⟨rfl, rfl, rfl, adjustment, servo, m₁, hsample⟩
    | error e =>
      simp only [returns_bind, returns_log, returns_pure, Prod.mk.injEq] at h
      obtain ⟨_, _, -, ⟨rfl, rfl⟩, -⟩ := h
      exact ⟨rfl, rfl, rfl, adjustment, servo, m₁, hsample⟩

theorem synchronizeClock_cases {id : ClockId} {c c' : Clock H S} {t sourceTime : Instant}
    {weight : Float} {report : ClockReport}
    (h : Returns (synchronizeClock env id c t sourceTime weight) m (report, c') m') :
    report.clock = id ∧ t.since sourceTime = .ok report.offset ∧ c'.part = c.part ∧
    (c.freeRunning = true ∨
      ∃ adjustment servo m₁, Returns (env.servo.sample c.servo report.offset.nanos t.nanos weight)
        m ((adjustment, report.state), servo) m₁) := by
  simp only [synchronizeClock, returns_bind, returns_checked] at h
  obtain ⟨offset, _, ⟨hoffset, rfl⟩, h⟩ := h
  split at h
  · next hfree =>
    simp only [returns_bind, returns_log, returns_pure, Prod.mk.injEq] at h
    obtain ⟨_, _, -, ⟨rfl, rfl⟩, -⟩ := h
    exact ⟨rfl, hoffset, rfl, .inl hfree⟩
  · obtain ⟨hid, rfl, hpart, hsample⟩ := steer_cases h
    exact ⟨hid, hoffset, hpart, .inr hsample⟩

/-! ### Correcting one after the other -/

/-- The turn of one clock among those to be corrected. -/
def correctOne (env : Environment W H S ε) (o : Orchestrator H S) (sourceTime : Instant)
    (id : ClockId) : Action W (List ClockReport × Orchestrator H S) := do
  match o.clocks.get? id with
  | none => return ([], o)
  | some clock =>
    if !clock.isDestination then return ([], o)
    else match clock.timestamp with
      | none =>
        Action.log .debug s!"{clock.name} timestamp not valid, skipping"
        return ([], o)
      | some t =>
        let (report, clock) ←
          synchronizeClock env id clock.flushTimestamp t sourceTime o.config.sampleWeight
        return ([report], { o with clocks := o.clocks.set id clock })

theorem synchronizeClocks_cons (sourceTime : Instant) (id : ClockId) (ids : List ClockId) :
    o.synchronizeClocks env sourceTime (id :: ids) = (do
      let (first, o₁) ← o.correctOne env sourceTime id
      let (rest, o₂) ← o₁.synchronizeClocks env sourceTime ids
      return (first ++ rest, o₂)) := by
  simp only [synchronizeClocks, correctOne]
  cases o.clocks.get? id with
  | none => simp
  | some c =>
    dsimp only
    split
    · simp
    · cases c.timestamp with
      | none => simp
      | some t => simp

theorem correctOne_cases {sourceTime : Instant} {id : ClockId} {reports : List ClockReport}
    (h : Returns (o.correctOne env sourceTime id) m (reports, o') m') :
    (reports = [] ∧ o' = o) ∨
    ∃ c t report c', reports = [report] ∧ o.clocks.get? id = some c ∧ c.isDestination = true ∧
      c.timestamp = some t ∧ o' = { o with clocks := o.clocks.set id c' } ∧
      Returns (synchronizeClock env id c.flushTimestamp t sourceTime o.config.sampleWeight) m
        (report, c') m' := by
  unfold correctOne at h
  cases hc : o.clocks.get? id with
  | none =>
    simp only [hc, returns_pure, Prod.mk.injEq] at h
    exact .inl h.1
  | some c =>
    simp only [hc] at h
    split at h
    · simp only [returns_pure, Prod.mk.injEq] at h
      exact .inl h.1
    · next hdestination =>
      cases ht : c.timestamp with
      | none =>
        simp only [ht, returns_bind, returns_log, returns_pure, Prod.mk.injEq] at h
        obtain ⟨_, _, -, h, -⟩ := h
        exact .inl h
      | some t =>
        simp only [ht, returns_bind, returns_pure, Prod.mk.injEq] at h
        obtain ⟨⟨report, c'⟩, m₁, hsync, ⟨rfl, rfl⟩, rfl⟩ := h
        exact .inr ⟨c, t, report, c', rfl, rfl, by simpa using hdestination, ht, rfl, hsync⟩

theorem correctOne_setup {sourceTime : Instant} {id : ClockId} {reports : List ClockReport}
    (h : Returns (o.correctOne env sourceTime id) m (reports, o') m') : o'.setup = o.setup := by
  rcases correctOne_cases h with ⟨-, rfl⟩ | ⟨c, t, report, c', -, hc, -, -, rfl, hsync⟩
  · rfl
  · obtain ⟨-, -, hpart, -⟩ := synchronizeClock_cases hsync
    exact setup_set hc hpart

/-- The turn of a clock does not touch any other one. -/
theorem correctOne_get?_of_ne {sourceTime : Instant} {id other : ClockId}
    {reports : List ClockReport} (h : Returns (o.correctOne env sourceTime id) m (reports, o') m')
    (hne : other ≠ id) : o'.clocks.get? other = o.clocks.get? other := by
  rcases correctOne_cases h with ⟨-, rfl⟩ | ⟨c, t, report, c', -, hc, -, -, rfl, -⟩
  · rfl
  · exact Registry.get?_set_of_ne c' hne

theorem returns_synchronizeClocks_cons {sourceTime : Instant} {id : ClockId} {ids : List ClockId}
    {reports : List ClockReport} :
    Returns (o.synchronizeClocks env sourceTime (id :: ids)) m (reports, o') m' ↔
    ∃ first rest o₁ m₁, reports = first ++ rest ∧
      Returns (o.correctOne env sourceTime id) m (first, o₁) m₁ ∧
      Returns (o₁.synchronizeClocks env sourceTime ids) m₁ (rest, o') m' := by
  simp only [synchronizeClocks_cons, returns_bind, returns_pure, Prod.mk.injEq]
  constructor
  · rintro ⟨⟨first, o₁⟩, m₁, hfirst, ⟨rest, o₂⟩, m₂, hrest, ⟨rfl, rfl⟩, rfl⟩
    exact ⟨first, rest, o₁, m₁, rfl, hfirst, hrest⟩
  · rintro ⟨first, rest, o₁, m₁, rfl, hfirst, hrest⟩
    exact ⟨⟨first, o₁⟩, m₁, hfirst, ⟨rest, o'⟩, m', hrest, ⟨rfl, rfl⟩, rfl⟩

theorem synchronizeClocks_setup {sourceTime : Instant} {ids : List ClockId}
    {reports : List ClockReport}
    (h : Returns (o.synchronizeClocks env sourceTime ids) m (reports, o') m') :
    o'.setup = o.setup := by
  induction ids generalizing o m reports with
  | nil =>
    simp only [synchronizeClocks, returns_pure, Prod.mk.injEq] at h
    rw [h.1.2]
  | cons id ids ih =>
    obtain ⟨first, rest, o₁, m₁, -, hfirst, hrest⟩ := returns_synchronizeClocks_cons.mp h
    exact (ih hrest).trans (correctOne_setup hfirst)

/-- How a report came about: after the clocks listed before its own, its clock
    was found with the time of an edge, and what that is ahead of the source
    was fed to the servo. -/
structure Correction (env : Environment W H S ε) (o : Orchestrator H S) (sourceTime : Instant)
    (ids : List ClockId) (m : Machine W) (report : ClockReport) where
  earlier : List ClockId
  clock : Clock H S
  time : Instant
  start : Machine W
  listed : earlier ++ [report.clock] <+: ids
  reached : ∃ before o₁, Returns (o.synchronizeClocks env sourceTime earlier) m (before, o₁) start
  found : o.clocks.get? report.clock = some clock
  destination : clock.isDestination = true
  timestamp : clock.timestamp = some time
  offset : time.since sourceTime = .ok report.offset
  fed : clock.freeRunning = true ∨
    ∃ adjustment servo m₁, Returns (env.servo.sample clock.servo report.offset.nanos time.nanos
      o.config.sampleWeight) start ((adjustment, report.state), servo) m₁

/-- Every report has come about by a correction of its clock as it was before
    any clock was corrected. -/
theorem exists_correction {sourceTime : Instant} {ids : List ClockId} {reports : List ClockReport}
    {report : ClockReport} (hnodup : ids.Nodup)
    (h : Returns (o.synchronizeClocks env sourceTime ids) m (reports, o') m')
    (hmem : report ∈ reports) : Nonempty (Correction env o sourceTime ids m report) := by
  induction ids generalizing o m reports with
  | nil =>
    simp only [synchronizeClocks, returns_pure, Prod.mk.injEq] at h
    rw [h.1.1] at hmem
    cases hmem
  | cons id ids ih =>
    obtain ⟨hid, hnodup⟩ := List.nodup_cons.mp hnodup
    obtain ⟨first, rest, o₁, m₁, rfl, hfirst, hrest⟩ := returns_synchronizeClocks_cons.mp h
    rcases List.mem_append.mp hmem with hmem | hmem
    · rcases correctOne_cases hfirst with ⟨rfl, -⟩ | ⟨c, t, own, c', rfl, hc, hdest, ht, -, hsync⟩
      · cases hmem
      · obtain rfl := List.mem_singleton.mp hmem
        obtain ⟨rfl, hoffset, -, hfed⟩ := synchronizeClock_cases hsync
        exact ⟨⟨[], c, t, m, List.prefix_append [_] ids, ⟨[], o, by simp [synchronizeClocks]⟩,
          hc, hdest, ht, hoffset, hfed⟩⟩
    -- a later clock was not touched by this turn, since no clock has two
    · obtain ⟨turn⟩ := ih hnodup hrest hmem
      have hlisted : report.clock ∈ ids := turn.listed.subset (by simp)
      have hne : report.clock ≠ id := fun heq => hid (heq ▸ hlisted)
      have hfound := turn.found
      have hconfig := config_of_setup_eq (correctOne_setup hfirst)
      rw [correctOne_get?_of_ne hfirst hne] at hfound
      obtain ⟨before, o₂, hreached⟩ := turn.reached
      refine ⟨⟨id :: turn.earlier, turn.clock, turn.time, turn.start, ?_, ?_, hfound,
        turn.destination, turn.timestamp, turn.offset, hconfig ▸ turn.fed⟩⟩
      · exact List.cons_prefix_cons.mpr ⟨rfl, turn.listed⟩
      · exact ⟨first ++ before, o₂,
          returns_synchronizeClocks_cons.mpr ⟨first, before, o₁, m₁, rfl, hfirst, hreached⟩⟩

/-! ### The clocks that are due -/

/-- Whether a clock gets corrected when its turn comes. -/
def isDue (o : Orchestrator H S) (id : ClockId) : Bool :=
  (o.clocks.get? id).any fun c => c.isDestination && c.timestamp.isSome

theorem isDue_eq_true_iff {id : ClockId} : o.isDue id = true ↔
    ∃ c, o.clocks.get? id = some c ∧ c.isDestination = true ∧ ∃ t, c.timestamp = some t := by
  simp [isDue, Option.any_eq_true, Option.isSome_iff_exists]

/-- The turn of a clock yields a report exactly if it is due. -/
theorem correctOne_clocks {sourceTime : Instant} {id : ClockId} {reports : List ClockReport}
    (h : Returns (o.correctOne env sourceTime id) m (reports, o') m') :
    reports.map (·.clock) = if o.isDue id then [id] else [] := by
  unfold correctOne at h
  cases hc : o.clocks.get? id with
  | none =>
    simp only [hc, returns_pure, Prod.mk.injEq] at h
    simp [isDue, hc, h.1.1]
  | some c =>
    simp only [hc] at h
    split at h
    · next hother =>
      simp only [returns_pure, Prod.mk.injEq] at h
      have hnot : c.isDestination = false := by simpa using hother
      simp [isDue, hc, h.1.1, hnot]
    · next hdestination =>
      have hset : c.isDestination = true := by simpa using hdestination
      cases ht : c.timestamp with
      | none =>
        simp only [ht, returns_bind, returns_log, returns_pure, Prod.mk.injEq] at h
        obtain ⟨_, _, -, ⟨rfl, -⟩, -⟩ := h
        simp [isDue, hc, ht]
      | some t =>
        simp only [ht, returns_bind, returns_pure, Prod.mk.injEq] at h
        obtain ⟨⟨report, c'⟩, m₁, hsync, ⟨rfl, -⟩, -⟩ := h
        obtain ⟨rfl, -⟩ := synchronizeClock_cases hsync
        simp [isDue, hc, ht, hset]

/-- The reports are on the clocks that are due, in their order. -/
theorem synchronizeClocks_clocks {sourceTime : Instant} {ids : List ClockId}
    {reports : List ClockReport} (hnodup : ids.Nodup)
    (h : Returns (o.synchronizeClocks env sourceTime ids) m (reports, o') m') :
    reports.map (·.clock) = ids.filter o.isDue := by
  induction ids generalizing o m reports with
  | nil =>
    simp only [synchronizeClocks, returns_pure, Prod.mk.injEq] at h
    simp [h.1.1]
  | cons id ids ih =>
    obtain ⟨hid, hnodup⟩ := List.nodup_cons.mp hnodup
    obtain ⟨first, rest, o₁, m₁, rfl, hfirst, hrest⟩ := returns_synchronizeClocks_cons.mp h
    -- the turn of this clock does not make any other one due
    have hothers : ids.filter o₁.isDue = ids.filter o.isDue := by
      refine List.filter_congr fun other hother => ?_
      have hne : other ≠ id := fun heq => hid (heq ▸ hother)
      rw [isDue, isDue, correctOne_get?_of_ne hfirst hne]
    rw [List.map_append, correctOne_clocks hfirst, ih hnodup hrest, hothers, List.filter_cons]
    split <;> rfl

end Orchestrator

end ClockDiscipline
