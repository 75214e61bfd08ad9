/-
  ClockDiscipline/Proofs/Action.lean
  ==================================
  **What it means that an action returns, and how to take such a run apart.**

  `Returns a m x m'` says that the step `a`, taken from the machine `m`, ends
  with the result `x` and leaves the machine `m'` behind.  A composed action
  returns exactly when its parts return one after the other, so a hypothesis
  about a whole run is split by `simp` into hypotheses about its requests.
-/
import ClockDiscipline.Journal

namespace ClockDiscipline

namespace Action

variable {W α β : Type}

/-- How a step taken from a machine ends, and the machine after it. -/
def outcome (a : Action W α) (m : Machine W) : Except Fault α × Machine W :=
  StateT.run (ExceptT.run a) m

/-- The step `a` taken from `m` ends with the result `x` and leaves `m'`. -/
def Returns (a : Action W α) (m : Machine W) (x : α) (m' : Machine W) : Prop :=
  a.outcome m = (.ok x, m')

/-- The machine with one more entry in its journal. -/
def noted (m : Machine W) (severity : Severity) (text : String) : Machine W :=
  { m with journal := m.journal.push ⟨severity, text⟩ }

/-! ### Outcomes of composed actions -/

@[simp] theorem outcome_pure (x : α) (m : Machine W) :
    outcome (pure x : Action W α) m = (.ok x, m) := rfl

@[simp] theorem outcome_log (severity : Severity) (text : String) (m : Machine W) :
    outcome (Action.log severity text) m = (.ok (), noted m severity text) := rfl

@[simp] theorem outcome_checked (x : Checked α) (m : Machine W) :
    outcome (checked x : Action W α) m = (x, m) := by
  cases x <;> rfl

theorem outcome_bind (a : Action W α) (f : α → Action W β) (m : Machine W) :
    outcome (a >>= f) m =
      match a.outcome m with
      | (.ok x, m') => (f x).outcome m'
      | (.error e, m') => (.error e, m') := by
  show StateT.run (ExceptT.run (a >>= f)) m = _
  simp only [outcome, ExceptT.run_bind, StateT.run_bind]
  rcases StateT.run (ExceptT.run a) m with ⟨_ | _, _⟩ <;> rfl

/-- After a step that returns, the rest goes on from what it left. -/
theorem Returns.outcome_bind {a : Action W α} {m m' : Machine W} {x : α}
    (h : Returns a m x m') (f : α → Action W β) :
    outcome (a >>= f) m = (f x).outcome m' := by
  rw [Action.outcome_bind, h]

/-! ### Taking a run apart -/

@[simp] theorem returns_pure {x y : α} {m m' : Machine W} :
    Returns (pure x) m y m' ↔ y = x ∧ m' = m := by
  simp only [Returns, outcome_pure, Prod.mk.injEq, Except.ok.injEq]
  exact ⟨fun h => ⟨h.1.symm, h.2.symm⟩, fun h => ⟨h.1.symm, h.2.symm⟩⟩

@[simp] theorem returns_log {severity : Severity} {text : String} {m m' : Machine W} {u : Unit} :
    Returns (Action.log severity text) m u m' ↔ m' = noted m severity text := by
  simp only [Returns, outcome_log, Prod.mk.injEq, true_and]
  exact eq_comm

@[simp] theorem returns_perform {f : W → α × W} {m m' : Machine W} {x : α} :
    Returns (perform f) m x m' ↔ x = (f m.world).1 ∧ m' = { m with world := (f m.world).2 } := by
  show (Except.ok (f m.world).1, _) = (Except.ok x, m') ↔ _
  simp only [Prod.mk.injEq, Except.ok.injEq]
  exact ⟨fun h => ⟨h.1.symm, h.2.symm⟩, fun h => ⟨h.1.symm, h.2.symm⟩⟩

@[simp] theorem returns_checked {x : Checked α} {y : α} {m m' : Machine W} :
    Returns (checked x) m y m' ↔ x = .ok y ∧ m' = m := by
  simp only [Returns, outcome_checked, Prod.mk.injEq]
  exact and_congr_right fun _ => eq_comm

@[simp] theorem returns_bind {a : Action W α} {f : α → Action W β} {m m' : Machine W} {y : β} :
    Returns (a >>= f) m y m' ↔ ∃ x m₁, Returns a m x m₁ ∧ Returns (f x) m₁ y m' := by
  constructor
  · intro h
    rw [Returns, outcome_bind] at h
    split at h
    · next x m₁ ha => exact ⟨x, m₁, ha, h⟩
    · cases h
  · rintro ⟨x, m₁, ha, hf⟩
    exact (ha.outcome_bind f).trans hf

@[simp] theorem returns_map {f : α → β} {a : Action W α} {m m' : Machine W} {y : β} :
    Returns (f <$> a) m y m' ↔ ∃ x, Returns a m x m' ∧ y = f x := by
  show Returns (a >>= fun x => pure (f x)) m y m' ↔ _
  simp only [returns_bind, returns_pure]
  constructor
  · rintro ⟨x, m₁, ha, rfl, rfl⟩
    exact ⟨x, ha, rfl⟩
  · rintro ⟨x, ha, rfl⟩
    exact ⟨x, m', ha, rfl, rfl⟩

/-- A run that was computed. -/
theorem returns_of_outcome {a : Action W α} {m : Machine W} {x : α}
    (h : (a.outcome m).1 = .ok x) : Returns a m x (a.outcome m).2 :=
  Prod.ext h rfl

/-- A step has one way to return. -/
theorem Returns.unique {a : Action W α} {m m₁ m₂ : Machine W} {x₁ x₂ : α}
    (h₁ : Returns a m x₁ m₁) (h₂ : Returns a m x₂ m₂) : x₁ = x₂ ∧ m₁ = m₂ := by
  have h := h₁.symm.trans h₂
  simpa using h

/-! ### Steady steps -/

/-- However the step ends, the world looks the same as before under `view`;
    and nothing but an overflow keeps it from returning. -/
structure Steady (view : W → β) (a : Action W α) : Prop where
  keeps : ∀ m, view (a.outcome m).2.world = view m.world
  overflows : ∀ {m e}, (a.outcome m).1 = .error e → e = .overflow

theorem Steady.of_returns {view : W → β} {a : Action W α} (h : Steady view a) {m m' : Machine W}
    {x : α} (hr : Returns a m x m') : view m'.world = view m.world := by
  rw [← h.keeps m, hr]

theorem steady_pure (view : W → β) (x : α) : Steady view (pure x : Action W α) where
  keeps _ := rfl
  overflows h := by cases h

theorem steady_log (view : W → β) (severity : Severity) (text : String) :
    Steady view (Action.log severity text) where
  keeps _ := rfl
  overflows h := by cases h

theorem steady_checked (view : W → β) {x : Checked α} (h : ∀ e, x = .error e → e = .overflow) :
    Steady view (checked x : Action W α) where
  keeps m := by rw [outcome_checked]
  overflows hx := h _ (by rwa [outcome_checked] at hx)

theorem steady_bind {γ : Type} {view : W → γ} {a : Action W α} {f : α → Action W β}
    (ha : Steady view a) (hf : ∀ x, Steady view (f x)) : Steady view (a >>= f) where
  keeps m := by
    rw [outcome_bind, ← ha.keeps m]
    split
    · next x m₁ hrun => exact ((hf x).keeps m₁).trans (by rw [hrun])
    · next e m₁ hrun => rw [hrun]
  overflows {m e} h := by
    rw [outcome_bind] at h
    cases hrun : a.outcome m with
    | mk result m₁ =>
      rw [hrun] at h
      cases result with
      | ok x => exact (hf x).overflows h
      | error e' =>
        cases h
        exact ha.overflows (congrArg Prod.fst hrun)

end Action

end ClockDiscipline
