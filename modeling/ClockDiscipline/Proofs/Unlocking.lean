/-
  ClockDiscipline/Proofs/Unlocking.lean
  =====================================
  **What becomes of servos and of what was measured before corrections begin.**

  Selecting the source, polling and keeping the edge of a reference clock do
  not touch `Clock.tuning`.  Unlocking does, and of the destinations only: a
  servo that is not unlocked yet is reset.
-/
import ClockDiscipline.Proofs.Polling
import ClockDiscipline.Proofs.Reconfiguring

namespace ClockDiscipline

open ClockDiscipline.Action

variable {W H S ε : Type} {env : Environment W H S ε} {wait : Waiter W ε}

/-- What corrections work on. -/
structure Tuning (S : Type) where
  servo : S
  servoState : ServoState
  lastOffset : Option Duration
  lastFrequency : Option Float

def Clock.tuning (c : Clock H S) : Tuning S where
  servo := c.servo
  servoState := c.servoState
  lastOffset := c.lastOffset
  lastFrequency := c.lastFrequency

/-- What unlocking makes of a clock. -/
inductive Clock.Unlocked (env : Environment W H S ε) (c : Clock H S) : Clock H S → Prop where
  | already : c.servoState = .unlocked → Unlocked env c c
  | reset {servo : S} {m m' : Machine W} :
      c.servoState ≠ .unlocked → Returns (env.servo.reset c.servo) m servo m' →
      Unlocked env c { c with servo := servo, servoState := .unlocked }

namespace Orchestrator

variable {o o' : Orchestrator H S} {m m' : Machine W} {id : ClockId} {c : Clock H S}

/-! ### Unlocking -/

/-- The turn of one clock: a destination is unlocked, and nothing else
    happens. -/
theorem unlockClocks_cons {first : ClockId} {ids : List ClockId}
    (h : Returns (o.unlockClocks env (first :: ids)) m o' m') :
    ∃ (o₁ : Orchestrator H S) (m₁ : Machine W), Returns (o₁.unlockClocks env ids) m₁ o' m' ∧
      (∀ id, id ≠ first → o₁.clocks.get? id = o.clocks.get? id) ∧
      ∀ c, o.clocks.get? first = some c → ∃ c', o₁.clocks.get? first = some c' ∧
        (c.isDestination = true → c.Unlocked env c') ∧ (c.isDestination = false → c' = c) := by
  unfold unlockClocks at h
  cases hc : o.clocks.get? first with
  | none =>
    simp only [hc] at h
    exact ⟨o, m, h, fun _ _ => rfl, fun c hc' => by cases hc'⟩
  | some c =>
    simp only [hc] at h
    split at h
    · next hlocked =>
      simp only [Bool.and_eq_true, bne_iff_ne, ne_eq] at hlocked
      simp only [Clock.unlock, returns_bind, returns_log, returns_pure] at h
      obtain ⟨_, m₁, rfl, c', m₂, ⟨servo, m₃, hreset, rfl, rfl⟩, h⟩ := h
      refine ⟨_, _, h, ?_, ?_⟩
      · intro id hid
        exact Registry.get?_set_of_ne _ hid
      · rintro _ ⟨⟩
        refine ⟨_, Registry.get?_set_self _ hc, ?_, ?_⟩
        · intro _
          exact .reset hlocked.2 hreset
        · intro hnot
          rw [hlocked.1] at hnot
          cases hnot
    · next hother =>
      refine ⟨o, m, h, fun _ _ => rfl, ?_⟩
      rintro _ ⟨⟩
      refine ⟨c, hc, ?_, fun _ => rfl⟩
      intro hset
      apply Clock.Unlocked.already
      simpa [hset] using hother

theorem unlockClocks_get? {ids : List ClockId} (hnodup : ids.Nodup)
    (h : Returns (o.unlockClocks env ids) m o' m') (hc : o.clocks.get? id = some c) :
    ∃ c', o'.clocks.get? id = some c' ∧
      (id ∈ ids → c.isDestination = true → c.Unlocked env c') ∧
      (id ∉ ids ∨ c.isDestination = false → c' = c) := by
  induction ids generalizing o m c with
  | nil =>
    simp only [unlockClocks, returns_pure] at h
    obtain ⟨rfl, -⟩ := h
    exact ⟨c, hc, fun hmem => absurd hmem List.not_mem_nil, fun _ => rfl⟩
  | cons first ids ih =>
    obtain ⟨hfirst, hlater⟩ := List.nodup_cons.mp hnodup
    obtain ⟨o₁, m₁, hrest, hothers, hown⟩ := unlockClocks_cons h
    by_cases hid : id = first
    · subst hid
      obtain ⟨c₁, hc₁, hset, hunset⟩ := hown c hc
      -- its turn is over, and the later ones leave it alone
      obtain ⟨c', hc', -, hkept⟩ := ih hlater hrest hc₁
      obtain rfl := hkept (.inl hfirst)
      refine ⟨c', hc', fun _ => hset, ?_⟩
      rintro (hnot | hunset')
      · exact absurd List.mem_cons_self hnot
      · exact hunset hunset'
    · obtain ⟨c', hc', hset, hkept⟩ := ih hlater hrest ((hothers id hid).trans hc)
      refine ⟨c', hc', ?_, ?_⟩
      · intro hmem
        exact hset ((List.mem_cons.mp hmem).resolve_left hid)
      · intro h
        apply hkept
        exact h.imp_left fun hnot hmem => hnot (List.mem_cons_of_mem _ hmem)

/-- All destinations are unlocked, and no other clock is touched. -/
theorem unlockDestinations_get? (h : Returns (o.unlockDestinations env) m o' m')
    (hc : o.clocks.get? id = some c) :
    ∃ c', o'.clocks.get? id = some c' ∧
      (c.isDestination = true → c.Unlocked env c') ∧ (c.isDestination = false → c' = c) := by
  obtain ⟨c', hc', hset, hkept⟩ := unlockClocks_get? (Registry.nodup_ids _) h hc
  exact ⟨c', hc', hset (Registry.mem_ids.mpr ⟨c, hc⟩), fun hunset => hkept (.inr hunset)⟩

/-! ### What is not touched -/

theorem reconfigure_tuning {selection : Option Selection}
    (h : Returns o.reconfigure m (selection, o') m') (hc : o.clocks.get? id = some c) :
    ∃ c', o'.clocks.get? id = some c' ∧ c'.tuning = c.tuning := by
  rcases reconfigure_cases h with ⟨-, rfl⟩ | ⟨t, selected, -, -, -, -, hclocks⟩
  · exact ⟨c, hc, rfl⟩
  · exact ⟨c.selected t selected id, by rw [hclocks, hc, Option.map_some], rfl⟩

theorem Polling.tuning {samples : List Sample} {p : Progress} {ready : List Nat}
    (h : Polling env wait o.flushTimestamps m samples o' p ready m')
    (hc : o.clocks.get? id = some c) :
    ∃ c', o'.clocks.get? id = some c' ∧ c'.tuning = c.tuning := by
  have hflushed : o.flushTimestamps.clocks.get? id = some c.flushTimestamp := by
    rw [flushTimestamps, Registry.get?_map, hc, Option.map_some]
  exact ⟨_, h.collecting.get? hflushed, rfl⟩

end Orchestrator

end ClockDiscipline
