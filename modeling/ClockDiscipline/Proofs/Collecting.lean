/-
  ClockDiscipline/Proofs/Collecting.lean
  ======================================
  **Collecting the events of a cycle, step by step.**

  `Collecting` is the run of the collecting phase as a chain of machines: it
  waits, notes something, drops an event or keeps a sample, and each step
  starts where the one before it stopped.  Its list of samples is complete,
  since an accepted event can not be passed over.  `collect_cases` reads such
  a chain off every run that returns; what the chain does to timestamps and
  to the setup then needs one induction each.
-/
import ClockDiscipline.Proofs.Events

namespace ClockDiscipline

open ClockDiscipline.Action

variable {W H S ε : Type} {env : Environment W H S ε} {wait : Waiter W ε}

namespace Orchestrator

/-! ### The chain of steps -/

inductive Collecting (env : Environment W H S ε) (wait : Waiter W ε) :
    Orchestrator H S → Machine W → List Sample → Orchestrator H S → Machine W → Prop where
  | done (o : Orchestrator H S) (m : Machine W) : Collecting env wait o m [] o m
  | waited {o o' : Orchestrator H S} {m m₁ m' : Machine W} {answer : Except ε (List Nat)}
      {samples : List Sample} :
      Returns (wait o.config.pollTimeoutMs) m answer m₁ →
      Collecting env wait o m₁ samples o' m' → Collecting env wait o m samples o' m'
  | noted {o o' : Orchestrator H S} {m m' : Machine W} {samples : List Sample}
      (severity : Severity) (text : String) :
      Collecting env wait o (Action.noted m severity text) samples o' m' →
      Collecting env wait o m samples o' m'
  | dropped {o o' : Orchestrator H S} {m m₁ m' : Machine W} {samples : List Sample}
      {source : EdgeSource} {result : Except (EventError ε) Pairing} :
      source ∈ o.sources → Returns (o.handleEvent env source) m (result, o) m₁ →
      (∀ offset localTime, result ≠ .ok (.sample offset localTime)) →
      Collecting env wait o m₁ samples o' m' → Collecting env wait o m samples o' m'
  | kept {o o' : Orchestrator H S} {m m₁ m' : Machine W} {samples : List Sample}
      {s : Sample} {c : Clock H S} :
      s.source ∈ o.sources → o.Accepts env s c m m₁ →
      Collecting env wait (o.keeping s c) m₁ samples o' m' →
      Collecting env wait o m (s :: samples) o' m'

namespace Collecting

variable {o o₁ o' : Orchestrator H S} {m m₁ m' : Machine W} {samples later : List Sample}

theorem trans (h : Collecting env wait o m samples o₁ m₁)
    (h' : Collecting env wait o₁ m₁ later o' m') :
    Collecting env wait o m (samples ++ later) o' m' := by
  induction h with
  | done => exact h'
  | waited hwait _ ih => exact .waited hwait (ih h')
  | noted severity text _ ih => exact .noted severity text (ih h')
  | dropped hsource hevent hresult _ ih => exact .dropped hsource hevent hresult (ih h')
  | kept hsource haccepts _ ih => exact .kept hsource haccepts (ih h')

theorem setup (h : Collecting env wait o m samples o' m') : o'.setup = o.setup := by
  induction h with
  | done => rfl
  | waited _ _ ih => exact ih
  | noted _ _ _ ih => exact ih
  | dropped _ _ _ _ ih => exact ih
  | kept _ haccepts _ ih => exact ih.trans (setup_keeping haccepts.1)

/-- Every sample is of a source, and is what pairing made of it. -/
theorem paired (h : Collecting env wait o m samples o' m') :
    ∀ s ∈ samples, s.source ∈ o.sources ∧ s.Paired := by
  induction h with
  | done => simp
  | waited _ _ ih => exact ih
  | noted _ _ _ ih => exact ih
  | dropped _ _ _ _ ih => exact ih
  | @kept o _ _ _ _ _ s c hsource haccepts _ ih =>
    have hsources : (o.keeping s c).sources = o.sources := rfl
    intro s' hs'
    rcases List.mem_cons.mp hs' with rfl | hs'
    · exact ⟨hsource, haccepts.2.1⟩
    · rw [← hsources]
      exact ih s' hs'

/-- Collecting changes nothing of a clock but its timestamp, and that is
    afterwards the local time of the last of its samples. -/
theorem get? (h : Collecting env wait o m samples o' m') {id : ClockId} {c : Clock H S}
    (hc : o.clocks.get? id = some c) :
    o'.clocks.get? id = some { c with
      timestamp := ((Sample.last? samples id).map (·.localTime)).or c.timestamp } := by
  induction h generalizing c with
  | done => simpa using hc
  | waited _ _ ih => exact ih hc
  | noted _ _ _ ih => exact ih hc
  | dropped _ _ _ _ ih => exact ih hc
  | @kept o _ _ _ _ samples s own _ haccepts _ ih =>
    -- the timestamp of this sample lasts until the clock gets a later one
    by_cases hid : s.source.clock = id
    · subst hid
      obtain rfl : own = c := by simpa [hc] using haccepts.1.symm
      rw [ih (Registry.get?_set_self _ hc), Sample.last?_cons]
      cases Sample.last? samples s.source.clock <;> simp
    · have hother : (o.keeping s own).clocks.get? id = some c :=
        (Registry.get?_set_of_ne _ fun heq => hid heq.symm).trans hc
      rw [ih hother, Sample.last?_cons]
      simp [hid]

/-- The clock of a sample is there. -/
theorem exists_clock (h : Collecting env wait o m samples o' m')
    {s : Sample} (hs : s ∈ samples) : ∃ c, o.clocks.get? s.source.clock = some c := by
  induction h with
  | done => cases hs
  | waited _ _ ih => exact ih hs
  | noted _ _ _ ih => exact ih hs
  | dropped _ _ _ _ ih => exact ih hs
  | @kept o _ _ _ _ _ first c hsource haccepts _ ih =>
    rcases List.mem_cons.mp hs with rfl | hs
    · exact ⟨c, haccepts.1⟩
    · obtain ⟨later, hlater⟩ := ih hs
      have hparts := parts_of_setup_eq (setup_keeping haccepts.1)
      obtain ⟨own, hown, -⟩ := Registry.get?_of_parts_eq hparts.symm hlater
      exact ⟨own, hown⟩

theorem timestamp_of_flushed {id : ClockId} {c : Clock H S}
    (h : o.flushTimestamps.clocks.get? id = some c) : c.timestamp = none := by
  rw [flushTimestamps, Registry.get?_map, Option.map_eq_some_iff] at h
  obtain ⟨_, -, rfl⟩ := h
  rfl

/-- After collecting, a clock has the local time of its last sample and no
    other one. -/
theorem timestamp_iff
    (h : Collecting env wait o.flushTimestamps m samples o' m') {id : ClockId} {t : Instant} :
    (∃ c, o'.clocks.get? id = some c ∧ c.timestamp = some t) ↔
      ∃ s, Sample.last? samples id = some s ∧ s.localTime = t := by
  constructor
  · rintro ⟨c, hc, ht⟩
    obtain ⟨c₀, hc₀, -⟩ := Registry.get?_of_parts_eq (parts_of_setup_eq h.setup).symm hc
    rw [h.get? hc₀, Option.some.injEq] at hc
    rw [← hc, timestamp_of_flushed hc₀, Option.or_none] at ht
    exact Option.map_eq_some_iff.mp ht
  · rintro ⟨s, hs, rfl⟩
    obtain ⟨hmem, rfl⟩ := Sample.last?_mem hs
    obtain ⟨c₀, hc₀⟩ := h.exists_clock hmem
    exact ⟨_, h.get? hc₀, by simp [hs]⟩

end Collecting

/-! ### The ready sources of a wait -/

section Ready

variable {o o' : Orchestrator H S} {p p' : Progress} {ready : List Nat} {m m' : Machine W}

/-- One ready source: passed over if there is none of that number, handled and
    marked otherwise. -/
theorem handleReady_cons {index : Nat}
    (h : Returns (o.handleReady env p (index :: ready)) m (p', o') m') :
    (o.sources[index]? = none ∧ Returns (o.handleReady env p ready) m (p', o') m') ∨
    ∃ source result o₁ m₁ m₂ ambiguous,
      o.sources[index]? = some source ∧
      Returns (o.handleEvent env source) m (result, o₁) m₁ ∧
      (m₂ = m₁ ∨ ∃ text, m₂ = noted m₁ .error text) ∧
      (ambiguous = (p.ambiguous || match result with | .ok .ambiguous => true | _ => false)) ∧
      Returns (o₁.handleReady env ⟨p.handled.set index true, ambiguous⟩ ready) m₂ (p', o') m' := by
  cases hsource : o.sources[index]? with
  | none =>
    simp only [handleReady, hsource] at h
    exact .inl ⟨rfl, h⟩
  | some source =>
    simp only [handleReady, hsource, returns_bind] at h
    obtain ⟨⟨result, o₁⟩, m₁, hevent, h⟩ := h
    cases result with
    | error e =>
      simp only [returns_bind, returns_log, returns_pure] at h
      obtain ⟨_, _, rfl, _, _, ⟨rfl, rfl⟩, h⟩ := h
      exact .inr ⟨source, _, o₁, _, _, _, rfl, hevent, .inr ⟨_, rfl⟩, by simp, h⟩
    | ok pairing =>
      cases pairing with
      | ambiguous =>
        simp only [returns_bind, returns_pure] at h
        obtain ⟨_, _, ⟨rfl, rfl⟩, h⟩ := h
        exact .inr ⟨source, _, o₁, _, _, _, rfl, hevent, .inl rfl, by simp, h⟩
      | sample offset localTime =>
        simp only [returns_bind, returns_pure] at h
        obtain ⟨_, _, ⟨rfl, rfl⟩, h⟩ := h
        exact .inr ⟨source, _, o₁, _, _, _, rfl, hevent, .inl rfl, by simp, h⟩

theorem handleReady_collecting (wait : Waiter W ε)
    (h : Returns (o.handleReady env p ready) m (p', o') m') :
    ∃ samples, Collecting env wait o m samples o' m' := by
  induction ready generalizing o p m with
  | nil =>
    simp only [handleReady, returns_pure, Prod.mk.injEq] at h
    obtain ⟨⟨-, rfl⟩, rfl⟩ := h
    exact ⟨[], .done _ _⟩
  | cons index ready ih =>
    rcases handleReady_cons h with
      ⟨-, h⟩ | ⟨source, result, o₁, m₁, m₂, _, hsource, hevent, hm, -, h⟩
    · exact ih h
    · have hmem : source ∈ o.sources := List.mem_of_getElem? hsource
      obtain ⟨samples, hrest⟩ := ih h
      -- a failure is noted before the next source is looked at
      have hrest : Collecting env wait o₁ m₁ samples o' m' := by
        rcases hm with rfl | ⟨text, rfl⟩
        · exact hrest
        · exact .noted _ _ hrest
      rcases handleEvent_cases hevent with ⟨s, c, rfl, haccepts, -, rfl⟩ | ⟨rfl, hresult⟩
      · exact ⟨s :: samples, .kept hmem haccepts hrest⟩
      · exact ⟨samples, .dropped hmem hevent hresult hrest⟩

theorem handleReady_setup (h : Returns (o.handleReady env p ready) m (p', o') m') :
    o'.setup = o.setup := by
  obtain ⟨_, hchain⟩ := handleReady_collecting (fun _ => pure (.ok [])) h
  exact hchain.setup

/-- After a wait a source is marked exactly if it was before or is among the
    ready ones. -/
theorem handleReady_handled (h : Returns (o.handleReady env p ready) m (p', o') m')
    (hlength : p.handled.length = o.sources.length) :
    p'.handled.length = o.sources.length ∧
      ∀ i, p'.handled[i]? = some true ↔
        p.handled[i]? = some true ∨ (i < o.sources.length ∧ i ∈ ready) := by
  induction ready generalizing o p m with
  | nil =>
    simp only [handleReady, returns_pure, Prod.mk.injEq] at h
    obtain ⟨⟨rfl, -⟩, -⟩ := h
    exact ⟨hlength, by simp⟩
  | cons index ready ih =>
    rcases handleReady_cons h with ⟨hnone, h⟩ | ⟨source, _, o₁, m₁, m₂, _, hsource, hevent, -, -, h⟩
    · have hrange : o.sources.length ≤ index := List.getElem?_eq_none_iff.mp hnone
      obtain ⟨hlength', hmarked⟩ := ih h hlength
      refine ⟨hlength', fun i => (hmarked i).trans ?_⟩
      refine or_congr_right (and_congr_right fun hi => ?_)
      have hne : i ≠ index := by omega
      rw [List.mem_cons, or_iff_right hne]
    · have hsources : o₁.sources = o.sources := sources_of_setup_eq (handleEvent_setup hevent)
      have hindex : index < o.sources.length := (List.getElem?_eq_some_iff.mp hsource).1
      obtain ⟨hlength', hmarked⟩ := ih h (by rw [List.length_set, hlength, hsources])
      rw [hsources] at hlength' hmarked
      refine ⟨hlength', fun i => (hmarked i).trans ?_⟩
      by_cases hi : i = index
      · subst hi
        have hset : (p.handled.set i true)[i]? = some true :=
          List.getElem?_set_self (hlength ▸ hindex)
        simp [hset, hindex]
      · rw [List.getElem?_set_ne (Ne.symm hi), List.mem_cons, or_iff_right hi]

end Ready

/-! ### One turn of the loop -/

section Turn

variable {o : Orchestrator H S} {p : Progress}

theorem collect_handled (hall : p.handled.all id = true) (patience : Nat) :
    collect env wait patience o p =
      pure (.ok (if p.ambiguous then .ambiguous else .collected), o) := by
  rw [collect.eq_def]
  exact if_pos hall

theorem collect_impatient (hall : ¬p.handled.all id = true) :
    collect env wait 0 o p = Action.checked (.error .unfinished) := by
  rw [collect.eq_def]
  exact if_neg hall

/-- What follows the answer of a wait. -/
def afterAnswer (env : Environment W H S ε) (wait : Waiter W ε) (patience : Nat)
    (o : Orchestrator H S) (p : Progress) :
    Except ε (List Nat) → Action W (Except (SyncError ε) PollOutcome × Orchestrator H S)
  | .error e => return (.error (.poll e), o)
  | .ok [] => do
    Action.log .debug "poll returned no events"
    if p.handled.any id then return (.ok .timeout, o)
    else return (.ok .timeout, ← o.unlockDestinations env)
  | .ok (index :: ready) => do
    let (p, o) ← o.handleReady env p (index :: ready)
    collect env wait patience o p

theorem collect_waits (hall : ¬p.handled.all id = true) (patience : Nat) :
    collect env wait (patience + 1) o p =
      wait o.config.pollTimeoutMs >>= afterAnswer env wait patience o p := by
  rw [collect.eq_def]
  refine (if_neg hall).trans (bind_congr fun answer => ?_)
  cases answer with
  | error e => rfl
  | ok ready => cases ready <;> rfl

/-- After a wait in which nothing became ready, polling is over; if nothing has
    been handled before, the destinations are unlocked. -/
theorem afterAnswer_timeout {patience : Nat} {o' : Orchestrator H S} {m m' : Machine W}
    {result : Except (SyncError ε) PollOutcome}
    (h : Returns (afterAnswer env wait patience o p (.ok [])) m (result, o') m') :
    result = .ok .timeout ∧
      ((p.handled.any id = true ∧ o' = o ∧ m' = noted m .debug "poll returned no events") ∨
        (¬p.handled.any id = true ∧
          Returns (o.unlockDestinations env) (noted m .debug "poll returned no events")
            o' m')) := by
  simp only [afterAnswer, returns_bind, returns_log] at h
  obtain ⟨_, _, rfl, h⟩ := h
  split at h
  · next hany =>
    simp only [returns_pure, Prod.mk.injEq] at h
    exact ⟨h.1.1, .inl ⟨hany, h.1.2, h.2⟩⟩
  · next hany =>
    simp only [returns_bind, returns_pure, Prod.mk.injEq] at h
    obtain ⟨o₂, _, hunlock, ⟨rfl, rfl⟩, rfl⟩ := h
    exact ⟨rfl, .inr ⟨hany, hunlock⟩⟩

/-- How the loop runs from its head to its end. -/
inductive Turns (env : Environment W H S ε) (wait : Waiter W ε) :
    Orchestrator H S → Progress → Machine W →
    Except (SyncError ε) PollOutcome → Orchestrator H S → Machine W → Prop where
  | handled {o : Orchestrator H S} {p : Progress} {m : Machine W} :
      p.handled.all id = true →
      Turns env wait o p m (.ok (if p.ambiguous then .ambiguous else .collected)) o m
  | failed {o : Orchestrator H S} {p : Progress} {m m' : Machine W} {e : ε} :
      ¬p.handled.all id = true → Returns (wait o.config.pollTimeoutMs) m (.error e) m' →
      Turns env wait o p m (.error (.poll e)) o m'
  | late {o : Orchestrator H S} {p : Progress} {m m' : Machine W} :
      ¬p.handled.all id = true → Returns (wait o.config.pollTimeoutMs) m (.ok []) m' →
      p.handled.any id = true →
      Turns env wait o p m (.ok .timeout) o (noted m' .debug "poll returned no events")
  | silent {o o' : Orchestrator H S} {p : Progress} {m m₁ m' : Machine W} :
      ¬p.handled.all id = true → Returns (wait o.config.pollTimeoutMs) m (.ok []) m₁ →
      ¬p.handled.any id = true →
      Returns (o.unlockDestinations env) (noted m₁ .debug "poll returned no events") o' m' →
      Turns env wait o p m (.ok .timeout) o' m'
  | answered {o o₁ o' : Orchestrator H S} {p p₁ : Progress} {index : Nat} {ready : List Nat}
      {m m₁ m₂ m' : Machine W} {result : Except (SyncError ε) PollOutcome} :
      ¬p.handled.all id = true →
      Returns (wait o.config.pollTimeoutMs) m (.ok (index :: ready)) m₁ →
      Returns (o.handleReady env p (index :: ready)) m₁ (p₁, o₁) m₂ →
      Turns env wait o₁ p₁ m₂ result o' m' → Turns env wait o p m result o' m'

theorem turns_of_returns {patience : Nat} {o' : Orchestrator H S} {m m' : Machine W}
    {result : Except (SyncError ε) PollOutcome}
    (h : Returns (collect env wait patience o p) m (result, o') m') :
    Turns env wait o p m result o' m' := by
  induction patience generalizing o p m with
  | zero =>
    by_cases hall : p.handled.all id = true
    · simp only [collect_handled hall, returns_pure, Prod.mk.injEq] at h
      obtain ⟨⟨rfl, rfl⟩, rfl⟩ := h
      exact .handled hall
    · rw [collect_impatient hall] at h
      simp at h
  | succ patience ih =>
    by_cases hall : p.handled.all id = true
    · simp only [collect_handled hall, returns_pure, Prod.mk.injEq] at h
      obtain ⟨⟨rfl, rfl⟩, rfl⟩ := h
      exact .handled hall
    rw [collect_waits hall, returns_bind] at h
    obtain ⟨answer, m₁, hwait, h⟩ := h
    cases answer with
    | error e =>
      simp only [afterAnswer, returns_pure, Prod.mk.injEq] at h
      obtain ⟨⟨rfl, rfl⟩, rfl⟩ := h
      exact .failed hall hwait
    | ok ready =>
      cases ready with
      | nil =>
        obtain ⟨rfl, ⟨hany, rfl, rfl⟩ | ⟨hany, hunlock⟩⟩ := afterAnswer_timeout h
        · exact .late hall hwait hany
        · exact .silent hall hwait hany hunlock
      | cons index ready =>
        simp only [afterAnswer, returns_bind] at h
        obtain ⟨⟨p₁, o₁⟩, m₂, hready, h⟩ := h
        exact .answered hall hwait hready (ih h)

/-- Collecting runs through a chain of steps.  Only after a timeout before the
    first event there is more: the destinations are unlocked. -/
theorem collect_cases {patience : Nat} {o' : Orchestrator H S} {m m' : Machine W}
    {result : Except (SyncError ε) PollOutcome}
    (h : Returns (collect env wait patience o p) m (result, o') m') :
    ∃ samples o₁ m₁, Collecting env wait o m samples o₁ m₁ ∧
      ((o' = o₁ ∧ m' = m₁) ∨
        (result = .ok .timeout ∧ Returns (o₁.unlockDestinations env) m₁ o' m')) := by
  replace h := turns_of_returns h
  induction h with
  | handled hall => exact ⟨[], _, _, .done _ _, .inl ⟨rfl, rfl⟩⟩
  | failed hall hwait => exact ⟨[], _, _, .waited hwait (.done _ _), .inl ⟨rfl, rfl⟩⟩
  | late hall hwait hany =>
    exact ⟨[], _, _, .waited hwait (.noted _ _ (.done _ _)), .inl ⟨rfl, rfl⟩⟩
  | silent hall hwait hany hunlock =>
    exact ⟨[], _, _, .waited hwait (.noted _ _ (.done _ _)), .inr ⟨rfl, hunlock⟩⟩
  | answered hall hwait hready hturns ih =>
    obtain ⟨samples, hsamples⟩ := handleReady_collecting wait hready
    obtain ⟨later, o₂, m₃, hlater, hend⟩ := ih
    exact ⟨samples ++ later, o₂, m₃, .waited hwait (hsamples.trans hlater), hend⟩

end Turn

end Orchestrator

end ClockDiscipline
