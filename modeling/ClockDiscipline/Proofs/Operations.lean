/-
  ClockDiscipline/Proofs/Operations.lean
  ======================================
  **Everything that is done with an orchestrator before it is shut down.**

  `Operates` is one operation that returns, whatever its result; the phases of
  a cycle count as operations too, so what holds after every operation also
  holds where one phase of a cycle gives way to the next.  A `Course` is any
  number of them.  What an operation can do is said once for each of them, and
  none of them takes away a clock that was there before (`Operates.keeps`).
-/
import ClockDiscipline.Proofs.ElectedSource
import ClockDiscipline.Proofs.Handles
import ClockDiscipline.Proofs.Reachable

namespace ClockDiscipline

open ClockDiscipline.Action

variable {W H S ε β : Type} {env : Environment W H S ε}

/-! ### Clocks that stay -/

theorem Clock.identity_of_part_eq {c c' : Clock H S} (h : c'.part = c.part) :
    c'.identity = c.identity := by
  simp only [Clock.part, ClockPart.mk.injEq] at h
  simp only [Clock.identity, h]

namespace Registry

variable {r r' : Registry H S}

/-- Every clock of `r` is still there in `r'`, under its handle. -/
def Keeps (r r' : Registry H S) : Prop :=
  ∀ id c, r.get? id = some c → ∃ c', r'.get? id = some c' ∧ c'.identity = c.identity

theorem Keeps.refl (r : Registry H S) : r.Keeps r := fun _ c hc => ⟨c, hc, rfl⟩

theorem Keeps.trans {r'' : Registry H S} (h : r.Keeps r') (h' : r'.Keeps r'') : r.Keeps r'' := by
  intro id c hc
  obtain ⟨c', hc', hsame⟩ := h id c hc
  obtain ⟨c'', hc'', hsame'⟩ := h' id c' hc'
  exact ⟨c'', hc'', hsame'.trans hsame⟩

theorem keeps_of_parts_eq (h : r'.parts = r.parts) : r.Keeps r' := by
  intro id c hc
  obtain ⟨c', hc', hpart⟩ := get?_of_parts_eq h hc
  exact ⟨c', hc', Clock.identity_of_part_eq hpart⟩

theorem keeps_modify (r : Registry H S) (id : ClockId) {f : Clock H S → Clock H S}
    (h : ∀ c, (f c).identity = c.identity) : r.Keeps (r.modify id f) := by
  intro other c hc
  rw [get?_modify, hc]
  split
  · exact ⟨f c, rfl, h c⟩
  · exact ⟨c, rfl, rfl⟩

theorem keeps_push (r : Registry H S) (c : Clock H S) : r.Keeps (r.push c).2 := by
  intro id own hown
  have hne : id ≠ (r.push c).1 := by
    rintro rfl
    exact Nat.lt_irrefl _ (slot_lt_of_get? hown)
  exact ⟨own, by rw [get?_push, if_neg hne, hown], rfl⟩

theorem getOrCreate_keeps {name : String} {m m' : Machine W}
    {result : Except (RegistryError ε) ClockId}
    (h : Returns (r.getOrCreate env name) m (result, r') m') : r.Keeps r' := by
  rcases getOrCreate_cases h with ⟨_, _, -, rfl, -⟩ | ⟨-, ⟨_, -, rfl⟩ | hrest⟩
  · exact .refl _
  · exact .refl _
  · obtain ⟨handle, index, m₁, -, ⟨_, _, -, rfl, -⟩ | ⟨-, servo, -, rfl⟩⟩ := hrest
    · exact .refl _
    · exact keeps_push _ _

/-- The clock that is given out answers to the name. -/
theorem getOrCreate_answers {name : String} {m m' : Machine W} {id : ClockId}
    (h : Returns (r.getOrCreate env name) m (.ok id, r') m') :
    ∃ c, r'.get? id = some c ∧ AnswersTo env r name m c := by
  rcases getOrCreate_cases h with ⟨_, c, hid, rfl, hc, hname⟩ | ⟨hunnamed, hrest⟩
  · cases hid
    exact ⟨c, hc, .inl hname⟩
  · rcases hrest with ⟨e, hfailed, -⟩ | ⟨handle, index, m₁, hopen, hrest⟩
    · cases hfailed
    · rcases hrest with ⟨_, c, hid, rfl, hc, rfl⟩ | ⟨-, servo, hid, rfl⟩
      · cases hid
        exact ⟨c, hc, .inr ⟨hunnamed, handle, m₁, hopen⟩⟩
      · cases hid
        exact ⟨_, by rw [get?_push, if_pos rfl], .inl rfl⟩

end Registry

namespace Orchestrator

variable {o o' : Orchestrator H S} {m m' : Machine W} {id : ClockId}

/-! ### Opening a clock -/

/-- What is said of a clock that is opened for an orchestrator. -/
def noteFreeRunning (o : Orchestrator H S) (id : ClockId) : Orchestrator H S :=
  o.modifyClock id fun c => { c with freeRunning := o.config.freeRunning }

theorem openClock_cases {name : String} {result : Except (SyncError ε) ClockId}
    (h : Returns (o.openClock env name) m (result, o') m') :
    ∃ opened clocks, Returns (o.clocks.getOrCreate env name) m (opened, clocks) m' ∧
      ((∃ e, opened = .error e ∧ result = .error (.registry e) ∧
          o' = { o with clocks := clocks }) ∨
        ∃ id, opened = .ok id ∧ result = .ok id ∧
          o' = ({ o with clocks := clocks } : Orchestrator H S).noteFreeRunning id) := by
  simp only [openClock, returns_bind] at h
  obtain ⟨⟨opened, clocks⟩, m₁, hcreate, h⟩ := h
  cases opened with
  | error e =>
    simp only [returns_pure, Prod.mk.injEq] at h
    obtain ⟨⟨rfl, rfl⟩, rfl⟩ := h
    exact ⟨_, _, hcreate, .inl ⟨e, rfl, rfl, rfl⟩⟩
  | ok id =>
    simp only [returns_pure, Prod.mk.injEq] at h
    obtain ⟨⟨rfl, rfl⟩, rfl⟩ := h
    exact ⟨_, _, hcreate, .inr ⟨id, rfl, rfl, rfl⟩⟩

theorem noteFreeRunning_keeps (o : Orchestrator H S) (id : ClockId) :
    o.clocks.Keeps (o.noteFreeRunning id).clocks :=
  o.clocks.keeps_modify id fun _ => rfl

theorem openClock_keeps {name : String} {result : Except (SyncError ε) ClockId}
    (h : Returns (o.openClock env name) m (result, o') m') : o.clocks.Keeps o'.clocks := by
  obtain ⟨opened, clocks, hcreate, ⟨e, -, -, rfl⟩ | ⟨id, -, -, rfl⟩⟩ := openClock_cases h
  · exact Registry.getOrCreate_keeps hcreate
  · have hnoted := noteFreeRunning_keeps { o with clocks := clocks } id
    exact (Registry.getOrCreate_keeps hcreate).trans hnoted

theorem openClock_answers {name : String}
    (h : Returns (o.openClock env name) m (.ok id, o') m') :
    ∃ c, o'.clocks.get? id = some c ∧ Registry.AnswersTo env o.clocks name m c := by
  obtain ⟨opened, clocks, hcreate, ⟨e, -, hid, -⟩ | ⟨id', rfl, hid, rfl⟩⟩ := openClock_cases h
  · cases hid
  · cases hid
    obtain ⟨c, hc, hanswers⟩ := Registry.getOrCreate_answers hcreate
    refine ⟨{ c with freeRunning := o.config.freeRunning }, ?_, hanswers⟩
    rw [noteFreeRunning, modifyClock_get?, hc]
    simp

/-! ### Adding a source -/

theorem abandonSource_cases {device : String} {clocksBefore : Nat} {error : ε}
    (h : Returns (o.abandonSource env device id clocksBefore error) m o' m') :
    m'.world = m.world ∧ (o' = o ∨ clocksBefore < o.clocks.size ∧ ∃ c clocks,
      (o.clocks.destroy id o.sourceClock : Except (RegistryError ε) _) = .ok (c, clocks) ∧
        o' = { o with clocks := clocks }) := by
  simp only [abandonSource, returns_bind, returns_log] at h
  obtain ⟨_, _, rfl, h⟩ := h
  split at h
  · next hgrown =>
    cases hdestroy : (o.clocks.destroy id o.sourceClock : Except (RegistryError ε) _) with
    | error e =>
      simp only [hdestroy, returns_bind, returns_log, returns_pure] at h
      obtain ⟨_, _, rfl, rfl, rfl⟩ := h
      exact ⟨rfl, .inl rfl⟩
    | ok taken =>
      obtain ⟨c, clocks⟩ := taken
      simp only [hdestroy, returns_pure] at h
      obtain ⟨rfl, rfl⟩ := h
      exact ⟨rfl, .inr ⟨hgrown, c, clocks, rfl, rfl⟩⟩
  · simp only [returns_pure] at h
    obtain ⟨rfl, rfl⟩ := h
    exact ⟨rfl, .inl rfl⟩

/-- The orchestrator that listens to one more source. -/
def listen (o : Orchestrator H S) (source : EdgeSource) : Orchestrator H S :=
  { o.modifyClock source.clock fun c => { c with isDestination := true } with
    sources := o.sources ++ [source] }

theorem ofConfig_ok {config : SourceConfig} {source : EdgeSource}
    (h : EdgeSource.ofConfig config id = .ok source) :
    source.name = config.device ∧ source.clock = id := by
  simp only [EdgeSource.ofConfig] at h
  cases hwindow : IgnoreWindow.ofPulseWidth ⟨config.pulseWidth⟩ with
  | error e =>
    rw [hwindow] at h
    cases h
  | ok window =>
    rw [hwindow] at h
    cases h
    exact ⟨rfl, rfl⟩

/-- A source of this name is there already; or its clock is opened, and then the
    input is set up.  The clock is there when that is tried. -/
theorem addSource_cases {config : SourceConfig} {result : Except (SyncError ε) ClockId}
    (h : Returns (o.addSource env config) m (result, o') m') :
    (∃ known ∈ o.sources, known.name = config.device ∧ result = .ok known.clock ∧ o' = o ∧
      m' = noted m .debug s!"source {config.device} was already added") ∨
    (∀ s ∈ o.sources, s.name ≠ config.device) ∧ ∃ opened o₁ m₁,
      Returns (o.openClock env config.device) m (opened, o₁) m₁ ∧
      ((∃ e, opened = .error e ∧ result = .error e ∧ o' = o₁ ∧ m' = m₁) ∨
        ∃ source c ready m₂, opened = .ok source.clock ∧ source.name = config.device ∧
          o₁.clocks.get? source.clock = some c ∧
          Returns (source.setup env c.handle) m₁ ready m₂ ∧
          ((∃ e, ready = .error e ∧ result = .error (.device e) ∧
              Returns (o₁.abandonSource env config.device source.clock o.clocks.size e) m₂ o' m') ∨
            ready = .ok () ∧ result = .ok source.clock ∧ o' = o₁.listen source ∧
              m' = noted m₂ .debug s!"PHC source {config.device} has index {c.index.toNat}")) := by
  unfold addSource at h
  split at h
  · next known hknown =>
    simp only [returns_bind, returns_log, returns_pure, Prod.mk.injEq] at h
    obtain ⟨_, _, rfl, ⟨rfl, rfl⟩, rfl⟩ := h
    have hname := List.find?_some hknown
    exact .inl ⟨known, List.mem_of_find?_eq_some hknown, by simpa using hname, rfl, rfl, rfl⟩
  · next hnone =>
    refine .inr ⟨by simpa using hnone, ?_⟩
    simp only [returns_bind] at h
    obtain ⟨⟨opened, o₁⟩, m₁, hopen, h⟩ := h
    refine ⟨opened, o₁, m₁, hopen, ?_⟩
    cases opened with
    | error e =>
      simp only [returns_pure, Prod.mk.injEq] at h
      exact .inl ⟨e, rfl, h.1.1, h.1.2, h.2⟩
    | ok id =>
      simp only [returns_bind, returns_checked] at h
      obtain ⟨source, _, ⟨hsource, rfl⟩, h⟩ := h
      obtain ⟨hname, rfl⟩ := ofConfig_ok hsource
      obtain ⟨c, hc, -⟩ := openClock_answers hopen
      simp only [hc, returns_bind] at h
      obtain ⟨ready, m₂, hsetup, h⟩ := h
      refine .inr ⟨source, c, ready, m₂, rfl, hname, hc, hsetup, ?_⟩
      cases ready with
      | error e =>
        simp only [returns_bind, returns_pure, Prod.mk.injEq] at h
        obtain ⟨o₂, m₃, habandon, ⟨rfl, rfl⟩, rfl⟩ := h
        exact .inl ⟨e, rfl, rfl, habandon⟩
      | ok =>
        simp only [returns_bind, returns_log, returns_pure, Prod.mk.injEq] at h
        obtain ⟨_, _, rfl, ⟨rfl, rfl⟩, rfl⟩ := h
        exact .inr ⟨rfl, rfl, rfl, rfl⟩

theorem listen_keeps (o : Orchestrator H S) (source : EdgeSource) :
    o.clocks.Keeps (o.listen source).clocks :=
  o.clocks.keeps_modify source.clock fun _ => rfl

/-- A source that can not be set up takes at most the clock with it that was
    opened for it. -/
theorem addSource_keepsClocks {config : SourceConfig} {result : Except (SyncError ε) ClockId}
    (h : Returns (o.addSource env config) m (result, o') m') : o.clocks.Keeps o'.clocks := by
  rcases addSource_cases h with ⟨_, -, -, -, rfl, -⟩ | ⟨-, opened, o₁, m₁, hopen, h⟩
  · exact .refl _
  · have hopened := openClock_keeps hopen
    rcases h with ⟨e, -, -, rfl, -⟩ | ⟨source, c, ready, m₂, rfl, -, -, -, h⟩
    · exact hopened
    · rcases h with ⟨e, -, -, habandon⟩ | ⟨-, -, rfl, -⟩
      · obtain ⟨-, rfl | ⟨hgrown, taken, clocks, hdestroy, rfl⟩⟩ := abandonSource_cases habandon
        · exact hopened
        · -- the registry has grown, so the clock that goes is not one of those before
          have hnew : source.clock ∉ o.clocks.ids := by
            rcases (openClock_ids hopen).2 with ⟨hids, -⟩ | ⟨new, hnew, hfresh, -⟩
            · rw [Registry.size_eq, Registry.size_eq, hids] at hgrown
              exact absurd hgrown (Nat.lt_irrefl _)
            · cases hnew
              exact hfresh
          intro other own hown
          obtain ⟨own', hown', hsame⟩ := hopened other own hown
          have hne : other ≠ source.clock := by
            rintro rfl
            exact hnew (Registry.mem_ids.mpr ⟨own, hown⟩)
          obtain ⟨-, -, hget⟩ := Registry.destroy_cases hdestroy
          exact ⟨own', by rw [hget, if_neg hne, hown'], hsame⟩
      · exact hopened.trans (listen_keeps o₁ source)

theorem reconfigure_keepsClocks {selection : Option Selection}
    (h : Returns o.reconfigure m (selection, o') m') : o.clocks.Keeps o'.clocks := by
  rcases reconfigure_cases h with ⟨-, rfl⟩ | ⟨t, selection, -, -, -, -, hclocks⟩
  · exact .refl _
  · intro id c hc
    exact ⟨c.selected t selection id, by rw [hclocks, hc, Option.map_some], rfl⟩

theorem setup_keeps (h : o'.setup = o.setup) : o.clocks.Keeps o'.clocks :=
  Registry.keeps_of_parts_eq (parts_of_setup_eq h)

theorem portStateChanged_cases {number : UInt16} {state : PortState} {known : Bool}
    (h : Returns (o.portStateChanged number state) m (known, o') m') :
    (o' = o ∧ m' = m ∧ o.topology = none) ∨ ∃ t t', o.topology = some t ∧
      Returns (t.portStateChanged number state) m (known, t') m' ∧
      o' = { o with topology := some t' } := by
  unfold portStateChanged at h
  split at h
  · next htop =>
    simp only [returns_pure, Prod.mk.injEq] at h
    exact .inl ⟨h.1.2, h.2, htop⟩
  · next t htop =>
    simp only [returns_bind, returns_pure, Prod.mk.injEq] at h
    obtain ⟨⟨known, t'⟩, m₁, hchanged, ⟨rfl, rfl⟩, rfl⟩ := h
    exact .inr ⟨t, t', htop, hchanged, rfl⟩

/-! ### Operations -/

/-- One operation that returns, or one phase of a cycle.  The waits are of any
    kind that is allowed. -/
inductive Operates (env : Environment W H S ε) (Waits : Waiter W ε → Prop) :
    Orchestrator H S → Machine W → Orchestrator H S → Machine W → Prop where
  | openClock {o o' : Orchestrator H S} {m m' : Machine W} {name : String}
      {result : Except (SyncError ε) ClockId} :
      Returns (o.openClock env name) m (result, o') m' → Operates env Waits o m o' m'
  | addSource {o o' : Orchestrator H S} {m m' : Machine W} {config : SourceConfig}
      {result : Except (SyncError ε) ClockId} :
      Returns (o.addSource env config) m (result, o') m' → Operates env Waits o m o' m'
  | addPort {o o' : Orchestrator H S} {m m' : Machine W} {number : UInt16} {device : String}
      {state : PortState} {result : Except (SyncError ε) ClockId} :
      Returns (o.addPort env number device state) m (result, o') m' → Operates env Waits o m o' m'
  | portStateChanged {o o' : Orchestrator H S} {m m' : Machine W} {number : UInt16}
      {state : PortState} {known : Bool} :
      Returns (o.portStateChanged number state) m (known, o') m' → Operates env Waits o m o' m'
  | reconfigure {o o' : Orchestrator H S} {m m' : Machine W} {selection : Option Selection} :
      Returns o.reconfigure m (selection, o') m' → Operates env Waits o m o' m'
  | arm {o : Orchestrator H S} {m m' : Machine W} {result : Except (SyncError ε) Unit} :
      Returns (o.arm env) m result m' → Operates env Waits o m o m'
  | flushTimestamps {o : Orchestrator H S} {m : Machine W} :
      Operates env Waits o m o.flushTimestamps m
  | poll {o o' : Orchestrator H S} {m m' : Machine W} {wait : Waiter W ε}
      {result : Except (SyncError ε) PollOutcome} :
      Waits wait → Returns (o.poll env wait) m (result, o') m' → Operates env Waits o m o' m'
  | collectReference {o o' : Orchestrator H S} {m m' : Machine W}
      {result : Except (SyncError ε) Unit} :
      Returns (o.collectReference env) m (result, o') m' → Operates env Waits o m o' m'
  | synchronize {o o' : Orchestrator H S} {m m' : Machine W} {reports : List ClockReport} :
      Returns (o.synchronize env) m (reports, o') m' → Operates env Waits o m o' m'
  | runCycle {o o' : Orchestrator H S} {m m' : Machine W} {wait : Waiter W ε}
      {result : Except (SyncError ε) (List ClockReport)} :
      Waits wait → Returns (o.runCycle env wait) m (result, o') m' → Operates env Waits o m o' m'

/-- Operations one after the other.  Between two of them the world may change in
    any way that leaves the same `view` of it. -/
inductive Course (env : Environment W H S ε) (Waits : Waiter W ε → Prop) (view : W → β) :
    β → Orchestrator H S → β → Orchestrator H S → Prop where
  | start {seen : β} {o : Orchestrator H S} : Course env Waits view seen o seen o
  | next {seen : β} {o₀ o o' : Orchestrator H S} {m m' : Machine W} :
      Course env Waits view seen o₀ (view m.world) o → Operates env Waits o m o' m' →
      Course env Waits view seen o₀ (view m'.world) o'

variable {Waits : Waiter W ε → Prop} {view : W → β}

/-- Another world than the one that was left will do for the next operation. -/
theorem Course.followed {seen₀ seen : β} {o₀ : Orchestrator H S}
    (h : Course env Waits view seen₀ o₀ seen o) (hop : Operates env Waits o m o' m')
    (hseen : view m.world = seen) : Course env Waits view seen₀ o₀ (view m'.world) o' := by
  subst hseen
  exact h.next hop

/-- Whatever an operation does, every clock stays under its handle. -/
theorem Operates.keeps (h : Operates env Waits o m o' m') : o.clocks.Keeps o'.clocks := by
  cases h with
  | openClock h => exact openClock_keeps h
  | addSource h => exact addSource_keepsClocks h
  | addPort h =>
    obtain ⟨o₁, m₁, hopen, hrest⟩ := addPort_cases h
    have hopened := openClock_keeps hopen
    rcases hrest with ⟨e, -, rfl, -⟩ | ⟨id, t, -, -, rfl⟩
    · exact hopened
    · exact hopened
  | portStateChanged h =>
    rcases portStateChanged_cases h with ⟨rfl, -⟩ | ⟨t, t', -, -, rfl⟩
    · exact .refl _
    · exact .refl _
  | reconfigure h => exact reconfigure_keepsClocks h
  | arm h => exact .refl _
  | flushTimestamps => exact setup_keeps (setup_flushTimestamps o)
  | poll _ h => exact setup_keeps (poll_setup h)
  | collectReference h => exact setup_keeps (collectReference_setup h)
  | synchronize h => exact setup_keeps (synchronize_setup h)
  | runCycle _ h =>
    obtain ⟨selection, o₁, m₁, hselect, hsame⟩ := runCycle_setup h
    exact (reconfigure_keepsClocks hselect).trans (setup_keeps hsame)

theorem Course.keeps {seen seen' : β} (h : Course env Waits view seen o seen' o') :
    o.clocks.Keeps o'.clocks := by
  induction h with
  | start => exact .refl _
  | next _ hop ih => exact ih.trans hop.keeps

end Orchestrator

end ClockDiscipline
