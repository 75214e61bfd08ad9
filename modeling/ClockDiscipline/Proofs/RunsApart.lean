/-
  ClockDiscipline/Proofs/RunsApart.lean
  =====================================
  **Two runs of a cycle that part over one clock.**

  Where a cycle is about one clock the two runs may do different things: when a
  source of the clock has its turn, and when the clock is corrected.  What they
  do there stays with that clock, so that all other turns go side by side, and
  in the end the runs differ in nothing but the clock and the reports on it
  (`cycle_apart`).
-/
import ClockDiscipline.Proofs.Asides
import ClockDiscipline.Proofs.SourceTurns

namespace ClockDiscipline

open ClockDiscipline.Action

variable {W W' H S ε : Type}

namespace Orchestrator

variable {T : W → W' → Prop} {env : Environment W H S ε} {env' : Environment W' H S ε}
  {wait : Waiter W ε} {wait' : Waiter W' ε} {b : ClockId} {bad : H}
  {o o' o₀ o₁ o₁' : Orchestrator H S} {c : Clock H S} {utcOffset : Duration}
  {P : Option (Clock H S) → Option (Clock H S) → Prop}

/-! ### What is not about the clock -/

/-- The reports that are not on this clock. -/
def otherReports (b : ClockId) (reports : List ClockReport) : List ClockReport :=
  reports.filter (·.clock ≠ b)

theorem otherReports_append (first rest : List ClockReport) :
    otherReports b (first ++ rest) = otherReports b first ++ otherReports b rest :=
  List.filter_append ..

/-- What is the same in both runs: the reports on other clocks, and these clocks. -/
def SameOthers (b : ClockId) (x y : List ClockReport × Orchestrator H S) : Prop :=
  otherReports b y.1 = otherReports b x.1 ∧ Agree b (fun _ _ => True) x.2 y.2

/-- What the turn of a clock comes to stays with that clock. -/
structure StaysWith (b : ClockId) (o : Orchestrator H S)
    (x : List ClockReport × Orchestrator H S) : Prop where
  reports : otherReports b x.1 = []
  setup : x.2.setup = o.setup
  other : ∀ id, id ≠ b → x.2.clocks.get? id = o.clocks.get? id

theorem correctOne_staysWith {sourceTime : Instant} {m m' : Machine W}
    {x : List ClockReport × Orchestrator H S}
    (h : Returns (o.correctOne env sourceTime b) m x m') : StaysWith b o x where
  reports := by
    refine List.filter_eq_nil_iff.mpr fun r hr => ?_
    have hclock : r.clock ∈ x.1.map (·.clock) := List.mem_map_of_mem hr
    rw [correctOne_clocks h] at hclock
    split at hclock
    · simp [List.mem_singleton.mp hclock]
    · cases hclock
  setup := correctOne_setup h
  other _ hid := correctOne_get?_of_ne h hid

/-- In the turn of the clock the runs may do different things. -/
theorem correctOne_apart (ho : Agree b P o o') {sourceTime : Instant}
    (h : Simulates (OnWorlds T) (fun _ _ => True) (o.correctOne env sourceTime b)
      (o'.correctOne env' sourceTime b)) :
    Simulates (OnWorlds T) (SameOthers b) (o.correctOne env sourceTime b)
      (o'.correctOne env' sourceTime b) := by
  refine ((h.recall fun _ _ _ => correctOne_staysWith).recallSecond
    fun _ _ _ => correctOne_staysWith).mono ?_
  rintro x y ⟨⟨-, hx⟩, hy⟩
  exact ⟨hy.reports.trans hx.reports.symm,
    ho.apart hx.setup hy.setup hx.other hy.other trivial⟩

theorem synchronizeClocks_apart (hl : Lockstep (OnWorlds T) env env' (· ≠ bad))
    (ho : Agree b P o o') (hsame : o.setup = o₀.setup) {ids : List ClockId} (hnodup : ids.Nodup)
    (hshared : ∀ id ∈ ids, id ≠ b → ∀ c t, o.clocks.get? id = some c → c.timestamp = some t →
      c.handle ≠ bad)
    {sourceTime : Instant}
    (hcorrect : ∀ o o', Agree b P o o' → o.setup = o₀.setup →
      Simulates (OnWorlds T) (fun _ _ => True) (o.correctOne env sourceTime b)
        (o'.correctOne env' sourceTime b)) :
    Simulates (OnWorlds T) (SameOthers b) (o.synchronizeClocks env sourceTime ids)
      (o'.synchronizeClocks env' sourceTime ids) := by
  induction ids generalizing o o' with
  | nil => exact simulates_pure ⟨rfl, ho.mono fun _ _ _ => trivial⟩
  | cons id ids ih =>
    obtain ⟨hnotin, hnodup⟩ := List.nodup_cons.mp hnodup
    -- the turn of this clock leaves what is still to come as it is
    have hothers : ∀ m (x : List ClockReport × Orchestrator H S) m',
        Returns (o.correctOne env sourceTime id) m x m' →
        x.2.setup = o.setup ∧ ∀ other ∈ ids, x.2.clocks.get? other = o.clocks.get? other :=
      fun m x m' h => ⟨correctOne_setup h, fun other hother =>
        correctOne_get?_of_ne h fun heq : other = id => hnotin (heq ▸ hother)⟩
    have hlater {o₁ : Orchestrator H S}
        (hget : ∀ other ∈ ids, o₁.clocks.get? other = o.clocks.get? other) :
        ∀ other ∈ ids, other ≠ b → ∀ c t, o₁.clocks.get? other = some c →
          c.timestamp = some t → c.handle ≠ bad := by
      intro other hother hne c t hc
      rw [hget other hother] at hc
      exact hshared other (by simp [hother]) hne c t hc
    rw [synchronizeClocks_cons, synchronizeClocks_cons]
    by_cases hid : id = b
    · subst hid
      refine ((correctOne_apart ho (hcorrect o o' ho hsame)).recall hothers).bind ?_
      rintro ⟨first, o₁⟩ ⟨first', o₁'⟩ ⟨⟨hfirst, ho₁⟩, -, hget⟩
      have hne : ∀ other ∈ ids, other ≠ id := fun other hother heq => hnotin (heq ▸ hother)
      refine (synchronizeClocks_simulates hl ho₁ hnodup (fun other hother =>
        .inl (hne other hother)) (fun other hother => hlater hget other hother
          (hne other hother)) sourceTime).bind ?_
      rintro ⟨rest, o₂⟩ ⟨_, o₂'⟩ ⟨rfl, ho₂⟩
      refine simulates_pure ⟨?_, ho₂⟩
      rw [otherReports_append, otherReports_append, hfirst]
    · have hturn := correctOne_simulates hl ho (.inl hid) (hshared id (by simp) hid) sourceTime
      refine (hturn.recall hothers).bind ?_
      rintro ⟨first, o₁⟩ ⟨_, o₁'⟩ ⟨⟨rfl, ho₁⟩, hsetup, hget⟩
      refine (ih ho₁ (hsetup.trans hsame) hnodup (hlater hget)).bind ?_
      rintro ⟨rest, o₂⟩ ⟨rest', o₂'⟩ ⟨hrest, ho₂⟩
      refine simulates_pure ⟨?_, ho₂⟩
      rw [otherReports_append, otherReports_append, hrest]

theorem ne_phc (href : o.reference = .generic utcOffset) (hsame : o₁.setup = o.setup)
    (id : ClockId) : o₁.reference ≠ .phc id := by
  rw [reference_of_setup_eq hsame, href]
  intro h
  cases h

/-- Without ports, what the corrections start from is read off the reference. -/
theorem sourceTimestamp_apart (hl : Lockstep (OnWorlds T) env env' (· ≠ bad))
    (ho : Agree b P o o') (hsame : o.setup = o₀.setup) (hports : o₀.topology = none)
    (href : o₀.reference = .generic utcOffset) :
    Simulates (OnWorlds T) (fun x y => x.1 = y.1 ∧ x.2 = o ∧ y.2 = o') (o.sourceTimestamp env)
      (o'.sourceTimestamp env') := by
  have hports₁ : o.topology = none := (topology_of_setup_eq hsame).trans hports
  have hports₂ : o'.topology = none := (topology_of_setup_eq ho.setup).trans hports₁
  unfold sourceTimestamp
  rw [hports₁, hports₂, config_of_setup_eq ho.setup]
  refine (edge_simulates hl ho
    (fun id c hphc _ => absurd hphc (ne_phc href hsame id)) _).bindEq fun edge => ?_
  cases edge with
  | ok edge => exact simulates_pure ⟨rfl, rfl, rfl⟩
  | error e =>
    dsimp only
    rw [hl.errorText]
    exact (hl.log _ _).bindEq fun _ => simulates_pure ⟨rfl, rfl, rfl⟩

theorem synchronize_apart (hl : Lockstep (OnWorlds T) env env' (· ≠ bad)) (ho : Agree b P o o')
    (hsame : o.setup = o₀.setup) (hports : o₀.topology = none)
    (href : o₀.reference = .generic utcOffset)
    (hshared : ∀ id, id ≠ b → ∀ c t, o.clocks.get? id = some c → c.timestamp = some t →
      c.handle ≠ bad)
    (hcorrect : ∀ o o' sourceTime, Agree b P o o' → o.setup = o₀.setup →
      Simulates (OnWorlds T) (fun _ _ => True) (o.correctOne env sourceTime b)
        (o'.correctOne env' sourceTime b)) :
    Simulates (OnWorlds T) (SameOthers b) (o.synchronize env) (o'.synchronize env') := by
  refine (sourceTimestamp_apart hl ho hsame hports href).bind ?_
  rintro ⟨time?, _⟩ ⟨_, _⟩ ⟨rfl, rfl, rfl⟩
  cases time? with
  | none => exact simulates_pure ⟨rfl, ho.mono fun _ _ _ => trivial⟩
  | some t =>
    dsimp only
    rw [ho.ids]
    exact synchronizeClocks_apart hl ho hsame (Registry.nodup_ids _)
      (fun id _ hne => hshared id hne) fun o o' => hcorrect o o' t

/-! ### The whole cycle -/

/-- What polling leaves: the setup, and the time of an edge on no clock but that of a
    source. -/
structure Stamped (o : Orchestrator H S)
    (x : Except (SyncError ε) PollOutcome × Orchestrator H S) : Prop where
  setup : x.2.setup = o.setup
  source : x.1 = .ok .collected → ∀ id c t, x.2.clocks.get? id = some c →
    c.timestamp = some t → ∃ s ∈ o.sources, s.clock = id

theorem poll_stamped {m m' : Machine W} {x : Except (SyncError ε) PollOutcome × Orchestrator H S}
    (h : Returns (o.flushTimestamps.poll env wait) m x m') : Stamped o x where
  setup := (poll_setup h).trans (setup_flushTimestamps o)
  source hcollected id c t hc ht := by
    obtain ⟨samples, o₂, m₂, hchain, ⟨rfl, -⟩ | ⟨hresult, -⟩⟩ := poll_cases h
    · obtain ⟨s, hlast, -⟩ := hchain.timestamp_iff.mp ⟨c, hc, ht⟩
      obtain ⟨hmem, rfl⟩ := Sample.last?_mem hlast
      exact ⟨s.source, (hchain.paired s hmem).1, rfl⟩
    · rw [hresult] at hcollected
      cases hcollected

/-- The same result but for reports on this clock, and the same other clocks. -/
def SameOutcome (b : ClockId)
    (x y : Except (SyncError ε) (List ClockReport) × Orchestrator H S) : Prop :=
  y.1.map (otherReports b) = x.1.map (otherReports b) ∧ Agree b (fun _ _ => True) x.2 y.2

section Cycle

variable (href : o.reference = .generic utcOffset)
  (hl : Lockstep (OnWorlds T) env env' (· ≠ bad))
  (hhandles : ∀ s ∈ o.sources, s.clock ≠ b → ∀ c, o.clocks.get? s.clock = some c →
    c.handle ≠ bad)

include hhandles in
/-- No other source comes to have the device of this clock. -/
theorem handle_ne (hsame : o₁.setup = o.setup) {s : EdgeSource} (hs : s ∈ o.sources)
    (hne : s.clock ≠ b) (hc : o₁.clocks.get? s.clock = some c) : c.handle ≠ bad := by
  obtain ⟨c₀, hc₀, hhandle⟩ := (SameDevices.of_setup_eq hsame).get? hc
  rw [hhandle]
  exact hhandles s hs hne c₀ hc₀

include href hl hhandles

theorem poll_apart (hP : SameLock P) (hstart : Agree b P o.flushTimestamps o.flushTimestamps)
    (hwait : ∀ timeout, Simulates (OnWorlds T) Eq (wait timeout) (wait' timeout))
    (hturn : ∀ o₁ o₁' p index s, Agree b P o₁ o₁' → o₁.setup = o.setup →
      o₁.sources[index]? = some s → s.clock = b →
      Simulates (OnWorlds T) (fun x y => x.1 = y.1 ∧ Agree b P x.2 y.2)
        (o₁.handleReady env p [index]) (o₁'.handleReady env' p [index])) :
    Simulates (OnWorlds T) (fun x y => x.1 = y.1 ∧ Agree b P x.2 y.2)
      (o.flushTimestamps.poll env wait) (o.flushTimestamps.poll env' wait') := by
  refine poll_agrees hl hP hstart hwait fun o₁ o₁' p index s ho hflushed hs => ?_
  have hsame : o₁.setup = o.setup := hflushed.trans (setup_flushTimestamps o)
  by_cases hclock : s.clock = b
  · exact hturn o₁ o₁' p index s ho hsame hs hclock
  · have hmem : s ∈ o.sources := sources_of_setup_eq hsame ▸ List.mem_of_getElem? hs
    exact turn_simulates hl hs (ho.source hs) (handleEvent_simulates hl ho s (.inl hclock)
      (fun c hc => hl.nextEvent c.handle (handle_ne hhandles hsame hmem hclock hc))
      fun id c hphc _ => absurd hphc (ne_phc href hsame id)) p

variable (hports : o.topology = none)
  (hcorrect : ∀ o₁ o₁' sourceTime, Agree b P o₁ o₁' → o₁.setup = o.setup →
    Simulates (OnWorlds T) (fun _ _ => True) (o₁.correctOne env sourceTime b)
      (o₁'.correctOne env' sourceTime b))
include hports hcorrect

theorem afterPoll_apart {outcome : Except (SyncError ε) PollOutcome} (ho : Agree b P o₁ o₁')
    (hpolled : Stamped o (outcome, o₁)) :
    Simulates (OnWorlds T) (SameOutcome b) (o₁.afterPoll env outcome)
      (o₁'.afterPoll env' outcome) := by
  have hsame : o₁.setup = o.setup := hpolled.setup
  rcases outcome with e | (_ | _ | _)
  case ok.collected =>
    -- a generic reference has no clock that its edge would go to
    have hstamp {V : Type} {env : Environment V H S ε} {o₂ : Orchestrator H S}
        (hsame : o₂.setup = o.setup) : o₂.collectReference env = pure (.ok (), o₂) := by
      have hnone : o₂.reference.clock? = none := by
        rw [reference_of_setup_eq hsame, href]
        rfl
      unfold collectReference
      rw [hnone]
    simp only [afterPoll, hstamp hsame, hstamp (ho.setup.trans hsame), pure_bind]
    refine (synchronize_apart hl ho hsame hports href (fun id hne c t hc ht => ?_) hcorrect).bind ?_
    · obtain ⟨s, hs, rfl⟩ := hpolled.source rfl id c t hc ht
      exact handle_ne hhandles hsame hs hne hc
    · rintro ⟨reports, o₂⟩ ⟨reports', o₂'⟩ ⟨hreports, ho₂⟩
      exact simulates_pure ⟨congrArg Except.ok hreports, ho₂⟩
  all_goals exact simulates_pure ⟨rfl, ho.mono fun _ _ _ => trivial⟩

/-- The runs may part when a source of this clock has its turn, and when the clock is
    corrected, as long as nothing but the clock and its reports is touched by it. -/
theorem cycle_apart (hP : SameLock P) (hstart : Agree b P o.flushTimestamps o.flushTimestamps)
    (hwait : ∀ timeout, Simulates (OnWorlds T) Eq (wait timeout) (wait' timeout))
    (hturn : ∀ o₁ o₁' p index s, Agree b P o₁ o₁' → o₁.setup = o.setup →
      o₁.sources[index]? = some s → s.clock = b →
      Simulates (OnWorlds T) (fun x y => x.1 = y.1 ∧ Agree b P x.2 y.2)
        (o₁.handleReady env p [index]) (o₁'.handleReady env' p [index])) :
    Simulates (OnWorlds T) (SameOutcome b) (o.runCycle env wait) (o.runCycle env' wait') := by
  have hselect {V : Type} : (o.reconfigure : Action V (Option Selection × Orchestrator H S)) =
      pure (none, o) := by
    unfold reconfigure
    rw [hports]
  rw [runCycle_eq, runCycle_eq, hselect, hselect, pure_bind, pure_bind]
  have hpoll := poll_apart href hl hhandles hP hstart hwait hturn
  refine (hpoll.recall fun _ _ _ => poll_stamped).bind ?_
  rintro ⟨outcome, o₁⟩ ⟨_, o₁'⟩ ⟨⟨rfl, ho⟩, hpolled⟩
  exact afterPoll_apart href hl hhandles hports hcorrect ho hpolled

end Cycle

end Orchestrator

end ClockDiscipline
