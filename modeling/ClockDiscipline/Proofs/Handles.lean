/-
  ClockDiscipline/Proofs/Handles.lean
  ===================================
  **A handle denotes one clock for ever.**

  A registry is seen through its `identities`: slot by slot, which clock is in
  it.  An operation leaves them as they are, adds a clock in a new slot, or
  empties one slot (`handleStep_cases`).  So the clocks in a registry are
  those that were given out and not destroyed, in the order in which they were
  first given out, whatever else happened (`handles_of_run`).
-/
import ClockDiscipline.Bench.Environment
import ClockDiscipline.Proofs.Registry
import ClockDiscipline.Proofs.Selection
import Mathlib.Data.List.Sort

namespace ClockDiscipline

open ClockDiscipline.Action

variable {W H S ε : Type} {env : Environment W H S ε}

/-! ### What a clock is -/

/-- What a clock stays from its opening to its end. -/
structure ClockIdentity (H : Type) where
  name : String
  index : UInt32
  handle : H

def Clock.identity (c : Clock H S) : ClockIdentity H := ⟨c.name, c.index, c.handle⟩

namespace Registry

variable {r r' : Registry H S} {m m' : Machine W} {id : ClockId} {c : Clock H S} {name : String}

/-- Slot by slot, which clock is in it. -/
def identities (r : Registry H S) : List (Option (ClockIdentity H)) :=
  r.slots.map (Option.map Clock.identity)

theorem map_identity_get? (r : Registry H S) (id : ClockId) :
    (r.get? id).map Clock.identity = r.identities[id.slot]?.join :=
  r.map_get? Clock.identity id

theorem length_identities (r : Registry H S) : r.identities.length = r.slots.length :=
  List.length_map _

theorem ids_of_identities_eq (h : r'.identities = r.identities) : r'.ids = r.ids :=
  ids_of_isSome_eq (isSome_of_map_eq h)

/-- The slot of the handle has been emptied. -/
def Vacant (r : Registry H S) (id : ClockId) : Prop :=
  id.slot < r.slots.length ∧ r.get? id = none

theorem get?_of_identities_eq (h : r'.identities = r.identities) (hc : r'.get? id = some c) :
    ∃ c₀, r.get? id = some c₀ ∧ c₀.identity = c.identity := by
  have hsame : (r.get? id).map Clock.identity = some c.identity := by
    rw [map_identity_get?, ← h, ← map_identity_get?, hc, Option.map_some]
  exact Option.map_eq_some_iff.mp hsame

/-- No two clocks have the same name or the same index. -/
def Distinct (r : Registry H S) : Prop :=
  ∀ id id' c c', r.get? id = some c → r.get? id' = some c' →
    c.name = c'.name ∨ c.index = c'.index → id = id'

/-! ### Asking for a clock -/

theorem getOrCreate_error {e : RegistryError ε}
    (h : Returns (r.getOrCreate env name) m (.error e, r') m') : r' = r := by
  rcases getOrCreate_cases h with ⟨id, c, hid, -⟩ | ⟨-, ⟨e', -, hsame⟩ | hrest⟩
  · cases hid
  · exact hsame
  · obtain ⟨handle, index, m₁, -, ⟨id, c, hid, -⟩ | ⟨-, servo, hid, -⟩⟩ := hrest
    · cases hid
    · cases hid

/-- The clock has this name, or no clock has it and the opener gives the index
    of the clock for it. -/
def AnswersTo (env : Environment W H S ε) (r : Registry H S) (name : String) (m : Machine W)
    (c : Clock H S) : Prop :=
  c.name = name ∨ (∀ id' c', r.get? id' = some c' → c'.name ≠ name) ∧
    ∃ handle m₁, Returns (env.openClock name) m (.ok (handle, c.index)) m₁

/-- A clock that is there is the answer exactly if it answers to the name. -/
theorem returns_existing_iff (hdistinct : r.Distinct) (hc : r.get? id = some c) :
    (∃ r' m', Returns (r.getOrCreate env name) m (.ok id, r') m') ↔ AnswersTo env r name m c := by
  constructor
  · rintro ⟨r', m', h⟩
    rcases getOrCreate_cases h with ⟨id', c', hid, -, hc', hname⟩ | ⟨hunnamed, hrest⟩
    · cases hid
      obtain rfl := Option.some.inj (hc.symm.trans hc')
      exact .inl hname
    · rcases hrest with ⟨e, hfailed, -⟩ | ⟨handle, index, m₁, hopen, hrest⟩
      · cases hfailed
      · rcases hrest with ⟨id', c', hid, -, hc', rfl⟩ | ⟨-, servo, hid, -⟩
        · cases hid
          obtain rfl := Option.some.inj (hc.symm.trans hc')
          exact .inr ⟨hunnamed, handle, m₁, hopen⟩
        · -- a new slot is not one of those that are there
          cases hid
          simp [get?, push] at hc
  · intro hanswers
    cases hfound : r.findByName name with
    | some id' =>
      obtain ⟨c', hc', hname'⟩ := get?_of_findBy hfound
      replace hname' : c'.name = name := by simpa using hname'
      rcases hanswers with hname | ⟨hunnamed, -⟩
      · obtain rfl := hdistinct id id' c c' hc hc' (.inl (hname.trans hname'.symm))
        exact ⟨r, m, by simp [getOrCreate, hfound]⟩
      · exact absurd hname' (hunnamed id' c' hc')
    | none =>
      rcases hanswers with hname | ⟨-, handle, m₁, hopen⟩
      · have hother := findBy_eq_none_iff.mp hfound id c hc
        simp [hname] at hother
      · cases hindex : r.findByIndex c.index with
        | none =>
          have hother := findBy_eq_none_iff.mp hindex id c hc
          simp at hother
        | some id' =>
          obtain ⟨c', hc', hindex'⟩ := get?_of_findBy hindex
          replace hindex' : c'.index = c.index := by simpa using hindex'
          obtain rfl := hdistinct id id' c c' hc hc' (.inr hindex'.symm)
          refine ⟨r, noted m₁ .debug
            s!"{name} has index {c.index.toNat} which is already known as {id.text}", ?_⟩
          simp only [getOrCreate, hfound, returns_bind]
          exact ⟨_, m₁, hopen, by simp [hindex]⟩

/-! ### Distinct clocks -/

theorem Distinct.of_identities_eq (h : r.Distinct) (hsame : r'.identities = r.identities) :
    r'.Distinct := by
  intro id id' c c' hc hc' heq
  obtain ⟨c₀, hc₀, hidentity⟩ := get?_of_identities_eq hsame hc
  obtain ⟨c₀', hc₀', hidentity'⟩ := get?_of_identities_eq hsame hc'
  simp only [Clock.identity, ClockIdentity.mk.injEq] at hidentity hidentity'
  refine h id id' c₀ c₀' hc₀ hc₀' ?_
  rwa [hidentity.1, hidentity.2.1, hidentity'.1, hidentity'.2.1]

theorem Distinct.push (h : r.Distinct)
    (hnew : ∀ id c', r.get? id = some c' → c'.name ≠ c.name ∧ c'.index ≠ c.index) :
    (r.push c).2.Distinct := by
  intro id id' d d' hd hd' heq
  rw [get?_push] at hd hd'
  by_cases hid : id = (r.push c).1
  · by_cases hid' : id' = (r.push c).1
    · rw [hid, hid']
    · rw [if_pos hid, Option.some.injEq] at hd
      rw [if_neg hid'] at hd'
      subst hd
      obtain ⟨hname, hindex⟩ := hnew id' d' hd'
      rcases heq with heq | heq
      · exact absurd heq.symm hname
      · exact absurd heq.symm hindex
  · rw [if_neg hid] at hd
    by_cases hid' : id' = (r.push c).1
    · rw [if_pos hid', Option.some.injEq] at hd'
      subst hd'
      obtain ⟨hname, hindex⟩ := hnew id d hd
      rcases heq with heq | heq
      · exact absurd heq hname
      · exact absurd heq hindex
    · rw [if_neg hid'] at hd'
      exact h id id' d d' hd hd' heq

theorem Distinct.destroy {source : Option ClockId} (h : r.Distinct)
    (hdestroy : (r.destroy id source : Except (RegistryError ε) _) = .ok (c, r')) :
    r'.Distinct := by
  obtain ⟨-, -, hget⟩ := destroy_cases hdestroy
  have hkept : ∀ other d, r'.get? other = some d → r.get? other = some d := by
    intro other d hd
    rw [hget] at hd
    split at hd
    · cases hd
    · exact hd
  intro id₁ id₂ d₁ d₂ hd₁ hd₂
  exact h id₁ id₂ d₁ d₂ (hkept id₁ d₁ hd₁) (hkept id₂ d₂ hd₂)

/-- The handles that are left in their order. -/
theorem ids_destroy {source : Option ClockId}
    (h : (r.destroy id source : Except (RegistryError ε) _) = .ok (c, r')) :
    r'.ids = r.ids.filter fun other => other ≠ id := by
  obtain ⟨-, -, hget⟩ := destroy_cases h
  -- both sides are sorted by slot and have the same members
  have hsorted : (r.ids.filter fun other => other ≠ id).Pairwise fun a b => a.slot < b.slot :=
    r.pairwise_ids.sublist List.filter_sublist
  refine List.Pairwise.eq_of_mem_iff r'.pairwise_ids hsorted fun other => ?_
  rw [mem_ids, List.mem_filter, mem_ids, hget]
  by_cases hother : other = id
  · simp [hother]
  · simp [hother]

end Registry

/-! ### Operations on a registry -/

/-- What an operation on a registry lets others see of handles. -/
inductive HandleEvent where
  /-- A clock was asked for, and this is the answer. -/
  | given (id : ClockId)
  | destroyed (id : ClockId)
deriving DecidableEq, Repr

/-- One operation on a registry.  A destruction that is refused answers with an
    error and no registry, so that there is nothing it could have changed; and
    whatever is done to the clocks in between leaves every clock in its slot. -/
inductive HandleStep (env : Environment W H S ε) :
    Registry H S → List HandleEvent → Registry H S → Prop where
  | given {r r' : Registry H S} {m m' : Machine W} {name : String} {id : ClockId} :
      Returns (r.getOrCreate env name) m (.ok id, r') m' → HandleStep env r [.given id] r'
  | failed {r r' : Registry H S} {m m' : Machine W} {name : String} {e : RegistryError ε} :
      Returns (r.getOrCreate env name) m (.error e, r') m' → HandleStep env r [] r'
  | destroyed {r r' : Registry H S} {id : ClockId} {source : Option ClockId} {c : Clock H S} :
      (r.destroy id source : Except (RegistryError ε) _) = .ok (c, r') →
      HandleStep env r [.destroyed id] r'
  | refused {r : Registry H S} {id : ClockId} {source : Option ClockId} {e : RegistryError ε} :
      r.destroy id source = .error e → HandleStep env r [] r
  | worked {r r' : Registry H S} : r'.identities = r.identities → HandleStep env r [] r'

/-- Operations one after the other, from `r₀` on. -/
inductive Handling (env : Environment W H S ε) (r₀ : Registry H S) :
    List HandleEvent → Registry H S → Prop where
  | start : Handling env r₀ [] r₀
  | step {events new : List HandleEvent} {r r' : Registry H S} :
      Handling env r₀ events r → HandleStep env r new r' → Handling env r₀ (events ++ new) r'

/-- The handles that were given out, each time they were. -/
def givenOut (events : List HandleEvent) : List ClockId :=
  events.filterMap fun
    | .given id => some id
    | .destroyed _ => none

/-- The handles that were given out and whose clock was not destroyed, in the
    order in which they were first given out. -/
def liveHandles (events : List HandleEvent) : List ClockId :=
  (givenOut events).eraseDups.filter fun id => HandleEvent.destroyed id ∉ events

theorem givenOut_append (events new : List HandleEvent) :
    givenOut (events ++ new) = givenOut events ++ givenOut new :=
  List.filterMap_append

theorem mem_givenOut {events : List HandleEvent} {id : ClockId} :
    id ∈ givenOut events ↔ .given id ∈ events := by
  simp only [givenOut, List.mem_filterMap]
  constructor
  · rintro ⟨e, he, heq⟩
    cases e with
    | given id' =>
      cases heq
      exact he
    | destroyed id' => cases heq
  · intro h
    exact ⟨_, h, rfl⟩

theorem mem_liveHandles {events : List HandleEvent} {id : ClockId} :
    id ∈ liveHandles events ↔ .given id ∈ events ∧ HandleEvent.destroyed id ∉ events := by
  simp [liveHandles, mem_givenOut, List.mem_eraseDups]

theorem eraseDups_givenOut_append (events : List HandleEvent) (id : ClockId) :
    (givenOut (events ++ [.given id])).eraseDups =
      (givenOut events).eraseDups ++ if .given id ∈ events then [] else [id] := by
  have hsingle : givenOut [.given id] = [id] := rfl
  rw [givenOut_append, hsingle, eraseDups_concat]
  simp only [mem_givenOut]

theorem liveHandles_given_known {events : List HandleEvent} {id : ClockId}
    (h : .given id ∈ events) : liveHandles (events ++ [.given id]) = liveHandles events := by
  rw [liveHandles, liveHandles, eraseDups_givenOut_append, if_pos h]
  simp

theorem liveHandles_given_new {events : List HandleEvent} {id : ClockId}
    (hnew : .given id ∉ events) (hlive : .destroyed id ∉ events) :
    liveHandles (events ++ [.given id]) = liveHandles events ++ [id] := by
  rw [liveHandles, liveHandles, eraseDups_givenOut_append, if_neg hnew, List.filter_append]
  simp [hlive]

theorem liveHandles_destroyed (events : List HandleEvent) (id : ClockId) :
    liveHandles (events ++ [.destroyed id]) =
      (liveHandles events).filter fun other => other ≠ id := by
  have hnone : givenOut [.destroyed id] = [] := rfl
  rw [liveHandles, liveHandles, givenOut_append, hnone, List.append_nil, List.filter_filter]
  congr 1
  funext other
  by_cases h : other = id
  · simp [h]
  · simp [h]

section Steps

variable {r r' : Registry H S} {new : List HandleEvent} {id : ClockId}

/-- An operation leaves all clocks in their slots, puts a new one into a new
    slot, or empties one. -/
theorem handleStep_cases (h : HandleStep env r new r') :
    (r'.identities = r.identities ∧
      (new = [] ∨ ∃ id c, new = [.given id] ∧ r.get? id = some c)) ∨
    (∃ c, new = [.given (r.push c).1] ∧ r' = (r.push c).2 ∧
      ∀ id c', r.get? id = some c' → c'.name ≠ c.name ∧ c'.index ≠ c.index) ∨
    ∃ id source c, new = [.destroyed id] ∧
      (r.destroy id source : Except (RegistryError ε) _) = .ok (c, r') := by
  cases h with
  | given h =>
    rcases Registry.getOrCreate_cases h with ⟨id, c, hid, rfl, hc, -⟩ | ⟨hunnamed, hrest⟩
    · cases hid
      exact .inl ⟨rfl, .inr ⟨_, c, rfl, hc⟩⟩
    · rcases hrest with ⟨e, hfailed, -⟩ | ⟨handle, index, m₁, -, hrest⟩
      · cases hfailed
      · rcases hrest with ⟨id, c, hid, rfl, hc, -⟩ | ⟨hunindexed, servo, hid, rfl⟩
        · cases hid
          exact .inl ⟨rfl, .inr ⟨_, c, rfl, hc⟩⟩
        · cases hid
          refine .inr (.inl ⟨_, rfl, rfl, ?_⟩)
          intro id c hc
          exact ⟨hunnamed id c hc, hunindexed id c hc⟩
  | failed h =>
    rcases Registry.getOrCreate_cases h with ⟨id, c, hid, -⟩ | ⟨-, hrest⟩
    · cases hid
    · rcases hrest with ⟨e, -, rfl⟩ | ⟨handle, index, m₁, -, hrest⟩
      · exact .inl ⟨rfl, .inl rfl⟩
      · rcases hrest with ⟨id, c, hid, -⟩ | ⟨-, servo, hid, -⟩
        · cases hid
        · cases hid
  | destroyed h => exact .inr (.inr ⟨_, _, _, rfl, h⟩)
  | refused h => exact .inl ⟨rfl, .inl rfl⟩
  | worked h => exact .inl ⟨h, .inl rfl⟩

/-! ### What is known of the past -/

/-- What a registry has kept of its past. -/
structure Remembers (past : List HandleEvent) (r : Registry H S) : Prop where
  distinct : r.Distinct
  ids : r.ids = liveHandles past
  /-- A handle that was seen belongs to a slot that there is. -/
  seen : ∀ id, .given id ∈ past ∨ .destroyed id ∈ past → id.slot < r.slots.length

theorem remembers_empty : Remembers [] (.empty : Registry H S) where
  distinct id id' c c' hc := by simp [Registry.empty, Registry.get?] at hc
  ids := rfl
  seen id h := by simp at h

theorem Remembers.mem_liveHandles_iff {past : List HandleEvent} (h : Remembers past r) :
    id ∈ liveHandles past ↔ ∃ c, r.get? id = some c := by
  rw [← h.ids, Registry.mem_ids]

theorem Remembers.step {past : List HandleEvent} (h : Remembers past r)
    (hstep : HandleStep env r new r') : Remembers (past ++ new) r' := by
  rcases handleStep_cases hstep with ⟨hsame, hnew⟩ | ⟨c, rfl, rfl, hfresh⟩ |
    ⟨id, source, c, rfl, hdestroy⟩
  · have hlength : r'.slots.length = r.slots.length := by
      rw [← r'.length_identities, hsame, r.length_identities]
    have hdistinct := h.distinct.of_identities_eq hsame
    have hids := (Registry.ids_of_identities_eq hsame).trans h.ids
    rcases hnew with rfl | ⟨id, c, rfl, hc⟩
    · rw [List.append_nil]
      refine ⟨hdistinct, hids, fun id hid => ?_⟩
      rw [hlength]
      exact h.seen id hid
    · have hgiven := (mem_liveHandles.mp (h.mem_liveHandles_iff.mpr ⟨c, hc⟩)).1
      refine ⟨hdistinct, hids.trans (liveHandles_given_known hgiven).symm, fun other hother => ?_⟩
      rw [hlength]
      by_cases heq : other = id
      · exact h.seen other (.inl (heq ▸ hgiven))
      · exact h.seen other (by simpa [heq] using hother)
  · have hnew : ∀ e : HandleEvent, e = .given (r.push c).1 ∨ e = .destroyed (r.push c).1 →
        e ∉ past := by
      -- the handle is one more than those of all slots there are
      rintro e (rfl | rfl) he
      · exact Nat.lt_irrefl _ (h.seen _ (.inl he))
      · exact Nat.lt_irrefl _ (h.seen _ (.inr he))
    refine ⟨h.distinct.push hfresh, ?_, fun other hother => ?_⟩
    · rw [(r.ids_push c).1, h.ids,
        liveHandles_given_new (hnew _ (.inl rfl)) (hnew _ (.inr rfl))]
    · show other.slot < (r.slots ++ [some c]).length
      rw [List.length_append, List.length_singleton]
      by_cases heq : other = (r.push c).1
      · subst heq
        exact Nat.lt_succ_self _
      · exact Nat.lt_succ_of_lt (h.seen other (by simpa [heq] using hother))
  · obtain ⟨hc, hlength, -⟩ := Registry.destroy_cases hdestroy
    have hgiven := (mem_liveHandles.mp (h.mem_liveHandles_iff.mpr ⟨c, hc⟩)).1
    refine ⟨h.distinct.destroy hdestroy, ?_, fun other hother => ?_⟩
    · rw [Registry.ids_destroy hdestroy, h.ids, liveHandles_destroyed]
    · rw [hlength]
      by_cases heq : other = id
      · exact h.seen other (.inl (heq ▸ hgiven))
      · exact h.seen other (by simpa [heq] using hother)

theorem Handling.remembers {past : List HandleEvent} (h : Handling env .empty past r) :
    Remembers past r := by
  induction h with
  | start => exact remembers_empty
  | step _ hstep ih => exact ih.step hstep

/-- The slot of a clock that was destroyed is empty. -/
theorem Remembers.vacant {past : List HandleEvent} (h : Remembers past r)
    (hdestroyed : .destroyed id ∈ past) : r.Vacant id := by
  have hdead : id ∉ liveHandles past := fun hlive => (mem_liveHandles.mp hlive).2 hdestroyed
  rw [h.mem_liveHandles_iff, not_exists] at hdead
  exact ⟨h.seen id (.inr hdestroyed), Option.eq_none_iff_forall_ne_some.mpr hdead⟩

/-! ### What becomes of a handle -/

/-- From `r` to `r'`, with these events in between, the slots there are keep
    their clocks, except those that are emptied, and no empty slot is filled. -/
structure Preserves (events : List HandleEvent) (r r' : Registry H S) : Prop where
  length_le : r.slots.length ≤ r'.slots.length
  emptied : ∀ id, .destroyed id ∈ events → r'.Vacant id
  kept : ∀ id, id.slot < r.slots.length → .destroyed id ∉ events →
    (r'.get? id).map Clock.identity = (r.get? id).map Clock.identity
  unused : ∀ id, r.Vacant id → .given id ∉ events

theorem HandleStep.preserves (h : HandleStep env r new r') : Preserves new r r' := by
  rcases handleStep_cases h with ⟨hsame, hnew⟩ | ⟨c, rfl, rfl, -⟩ | ⟨id, source, c, rfl, hdestroy⟩
  · have hlength : r'.slots.length = r.slots.length := by
      rw [← r'.length_identities, hsame, r.length_identities]
    have hkept : ∀ id, (r'.get? id).map Clock.identity = (r.get? id).map Clock.identity := by
      intro id
      rw [r'.map_identity_get?, hsame, r.map_identity_get?]
    rcases hnew with rfl | ⟨id, c, rfl, hc⟩
    · exact ⟨Nat.le_of_eq hlength.symm, by simp, fun id _ _ => hkept id, by simp⟩
    · refine ⟨Nat.le_of_eq hlength.symm, by simp, fun id _ _ => hkept id, ?_⟩
      intro other hvacant hgiven
      cases List.mem_singleton.mp hgiven
      rw [hvacant.2] at hc
      cases hc
  · refine ⟨by simp [Registry.push], by simp, fun id hid _ => ?_, fun id hvacant hgiven => ?_⟩
    · have hne : id ≠ (r.push c).1 := by
        rintro rfl
        exact Nat.lt_irrefl _ hid
      rw [Registry.get?_push, if_neg hne]
    · cases List.mem_singleton.mp hgiven
      exact Nat.lt_irrefl _ hvacant.1
  · obtain ⟨hc, hlength, hget⟩ := Registry.destroy_cases hdestroy
    refine ⟨Nat.le_of_eq hlength.symm, fun other hother => ?_, fun other _ hother => ?_, by simp⟩
    · cases List.mem_singleton.mp hother
      exact ⟨hlength ▸ Registry.slot_lt_of_get? hc, by rw [hget, if_pos rfl]⟩
    · have hne : other ≠ id := by
        rintro rfl
        exact hother (List.mem_singleton_self _)
      rw [hget, if_neg hne]

/-- An empty slot stays empty. -/
theorem Preserves.vacant (h : Preserves new r r') (hvacant : r.Vacant id) : r'.Vacant id := by
  by_cases hdestroyed : .destroyed id ∈ new
  · exact h.emptied id hdestroyed
  · have hkept := h.kept id hvacant.1 hdestroyed
    rw [hvacant.2, Option.map_none, Option.map_eq_none_iff] at hkept
    exact ⟨Nat.lt_of_lt_of_le hvacant.1 h.length_le, hkept⟩

theorem Preserves.trans {events : List HandleEvent} {r'' : Registry H S}
    (h : Preserves events r r') (h' : Preserves new r' r'') : Preserves (events ++ new) r r'' where
  length_le := Nat.le_trans h.length_le h'.length_le
  emptied id hid := by
    rcases List.mem_append.mp hid with hid | hid
    · exact h'.vacant (h.emptied id hid)
    · exact h'.emptied id hid
  kept id hlt hid := by
    rw [List.mem_append, not_or] at hid
    rw [h'.kept id (Nat.lt_of_lt_of_le hlt h.length_le) hid.2, h.kept id hlt hid.1]
  unused id hvacant hid := by
    rcases List.mem_append.mp hid with hid | hid
    · exact h.unused id hvacant hid
    · exact h'.unused id (h.vacant hvacant) hid

theorem Handling.preserves {events : List HandleEvent} (h : Handling env r events r') :
    Preserves events r r' := by
  induction h with
  | start => exact ⟨Nat.le_refl _, by simp, fun _ _ _ => rfl, by simp⟩
  | step _ hstep ih => exact ih.trans hstep.preserves

/-- A clock stays in its slot until it is destroyed. -/
theorem Preserves.fate {c : Clock H S} (h : Preserves new r r') (hc : r.get? id = some c) :
    if .destroyed id ∈ new then r'.get? id = none
    else ∃ c', r'.get? id = some c' ∧ c'.identity = c.identity := by
  split
  · next hdestroyed => exact (h.emptied id hdestroyed).2
  · next hspared =>
    have hkept := h.kept id (Registry.slot_lt_of_get? hc) hspared
    rw [hc, Option.map_some] at hkept
    exact Option.map_eq_some_iff.mp hkept

/-! ### Any sequence of operations -/

/-- After any operations on an empty registry, and before any others:

    no two clocks have the same name or index; the clocks are those given out
    and not destroyed, in the order in which they were first given out; each
    of them keeps its handle until it is destroyed, and its handle is given to
    no clock after that; a request that fails changes nothing; and a clock
    that is there is the answer to a request exactly if it answers to the
    name. -/
theorem handles_of_run {past : List HandleEvent} {r : Registry H S}
    (hpast : Handling env .empty past r) :
    r.Distinct ∧ r.ids = liveHandles past ∧
    (∀ future r', Handling env r future r' →
      (∀ id c, r.get? id = some c →
        if .destroyed id ∈ future then r'.get? id = none
        else ∃ c', r'.get? id = some c' ∧ c'.identity = c.identity) ∧
      ∀ id, .destroyed id ∈ past → .given id ∉ future) ∧
    (∀ name m e r' m', Returns (r.getOrCreate env name) m (.error e, r') m' → r' = r) ∧
    ∀ name m id c, r.get? id = some c →
      ((∃ r' m', Returns (r.getOrCreate env name) m (.ok id, r') m') ↔
        Registry.AnswersTo env r name m c) := by
  have hremembers := hpast.remembers
  refine ⟨hremembers.distinct, hremembers.ids, ?_, ?_, ?_⟩
  · intro future r' hfuture
    constructor
    · intro id c hc
      exact hfuture.preserves.fate hc
    · intro id hdestroyed
      exact hfuture.preserves.unused id (hremembers.vacant hdestroyed)
  · intro name m e r' m' h
    exact Registry.getOrCreate_error h
  · intro name m id c hc
    exact Registry.returns_existing_iff hremembers.distinct hc

end Steps

/-! ### A device that is opened again -/

/-- Two devices, and a second name for the first one. -/
def twoDevices : Bench.World where
  devices := [{ name := "eth0" }, { name := "eth1", index := 1 }]
  aliases := [("ptp0", "eth0")]

/-- Both devices are opened, the first under both its names.  Then its clock is
    destroyed, and it is opened again. -/
def reopening :
    Action Bench.World (List (Except (RegistryError Bench.Failure) ClockId) ×
      Registry Nat Bench.Servo) := do
  let env := Bench.environment .prepared twoDevices
  let (first, r) ← Registry.empty.getOrCreate env "eth0"
  let (same, r) ← r.getOrCreate env "ptp0"
  let (second, r) ← r.getOrCreate env "eth1"
  match (r.destroy ⟨0⟩ none : Except (RegistryError Bench.Failure) _) with
  | .error e => return ([.error e], r)
  | .ok (_, r) =>
    let (again, r) ← r.getOrCreate env "eth0"
    return ([first, same, second, again], r)

/-- Whether the requests have been answered with the handles 0, 0, 1 and 2. -/
def reopensAsThird :
    Except Fault (List (Except (RegistryError Bench.Failure) ClockId) ×
      Registry Nat Bench.Servo) → Bool
  | .ok ([.ok ⟨0⟩, .ok ⟨0⟩, .ok ⟨1⟩, .ok ⟨2⟩], _) => true
  | _ => false

theorem handling_reopening :
    ∃ r, Handling (Bench.environment .prepared twoDevices) .empty
      [.given ⟨0⟩, .given ⟨0⟩, .given ⟨1⟩, .destroyed ⟨0⟩, .given ⟨2⟩] r := by
  have h : reopensAsThird (reopening.outcome ⟨twoDevices, #[]⟩).1 = true := by decide +kernel
  unfold reopensAsThird at h
  split at h
  · next r hrun =>
    have hrun := returns_of_outcome hrun
    simp only [reopening, returns_bind] at hrun
    obtain ⟨⟨_, r₁⟩, _, h₁, ⟨_, r₂⟩, _, h₂, ⟨_, r₃⟩, _, h₃, hrun⟩ := hrun
    split at hrun
    · simp at hrun
    · next r₄ hdestroy =>
      simp only [returns_bind, returns_pure, Prod.mk.injEq, List.cons.injEq] at hrun
      obtain ⟨⟨_, r₅⟩, _, h₅, ⟨⟨rfl, rfl, rfl, rfl, -⟩, rfl⟩, -⟩ := hrun
      exact ⟨_, .step (.step (.step (.step (.step .start (.given h₁)) (.given h₂)) (.given h₃))
        (.destroyed hdestroy)) (.given h₅)⟩
  · cases h

/-- The clock that is opened again gets a handle of its own. -/
theorem handles_of_run_reopening :
    ∃ past r, Handling (Bench.environment .prepared twoDevices) .empty past r ∧
      .destroyed ⟨0⟩ ∈ past ∧ r.Distinct ∧ r.ids = [⟨1⟩, ⟨2⟩] := by
  obtain ⟨r, hpast⟩ := handling_reopening
  obtain ⟨hdistinct, hids, -⟩ := handles_of_run hpast
  exact ⟨_, r, hpast, by decide, hdistinct, hids.trans (by decide)⟩

end ClockDiscipline
