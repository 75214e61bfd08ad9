/-
  ClockDiscipline/Proofs/Selection.lean
  =====================================
  **Which clocks a selection makes destinations.**

  Clocks get their states from their ports, and each has the best of them
  (`aggregate_spec`).  A selection looks at every clock that has a port, once
  and in one state.  When it decides on destinations, each of these clocks is
  the source, a destination, or has all its ports disabled, and it is only one
  of the three (`mem_destinations_iff`, `source_enabled`).
-/
import ClockDiscipline.Port.Topology
import ClockDiscipline.Proofs.Action

namespace ClockDiscipline

open ClockDiscipline.Action

variable {W : Type}

/-- One more entry of a list is left over only if it is new. -/
theorem eraseDups_concat {α : Type} [BEq α] [LawfulBEq α] (xs : List α) (x : α) :
    (xs ++ [x]).eraseDups = xs.eraseDups ++ if x ∈ xs then [] else [x] := by
  rw [List.eraseDups_append, List.removeAll]
  by_cases h : x ∈ xs
  · simp [h]
  · simp [h, List.eraseDups_cons]

/-! ### The state of a clock -/

namespace PortState

theorem precedence_normalize_disabled {s : PortState} :
    s.normalize = .disabled ↔ s.precedence ≤ 3 := by
  cases s <;> decide

end PortState

namespace Topology

/-- The better state is one of the two, and neither is ahead of it. -/
theorem better_spec (a b : PortState) :
    (better a b = a ∨ better a b = b) ∧
      a.precedence ≤ (better a b).precedence ∧ b.precedence ≤ (better a b).precedence := by
  unfold better
  split
  · next h => exact ⟨.inr rfl, h, Nat.le_refl _⟩
  · next h => exact ⟨.inl rfl, Nat.le_refl _, Nat.le_of_not_le h⟩

theorem foldl_better_spec (states : List PortState) (start : PortState) :
    states.foldl better start ∈ start :: states ∧
      ∀ s ∈ start :: states, s.precedence ≤ (states.foldl better start).precedence := by
  induction states generalizing start with
  | nil => simp
  | cons state states ih =>
    obtain ⟨hmem, hbest⟩ := ih (better start state)
    obtain ⟨hone, hstart, hstate⟩ := better_spec start state
    have hbetter := hbest _ List.mem_cons_self
    rw [List.foldl_cons]
    refine ⟨?_, ?_⟩
    · rcases List.mem_cons.mp hmem with heq | hmem
      · rw [heq]
        rcases hone with h | h <;> simp [h]
      · exact List.mem_cons_of_mem _ (List.mem_cons_of_mem _ hmem)
    · intro s hs
      rcases List.mem_cons.mp hs with rfl | hs
      · exact Nat.le_trans hstart hbetter
      rcases List.mem_cons.mp hs with rfl | hs
      · exact Nat.le_trans hstate hbetter
      · exact hbest s (List.mem_cons_of_mem _ hs)

/-- All the ports of a clock are disabled. -/
def AllDisabled (t : Topology) (id : ClockId) : Prop :=
  ∀ p ∈ t.ports, p.clock = id → p.state.normalize = .disabled

/-- Only a clock without ports has no state. -/
theorem aggregate_isSome_iff {t : Topology} {id : ClockId} :
    (∃ s, t.aggregate id = some s) ↔ ∃ p ∈ t.ports, p.clock = id := by
  unfold aggregate
  cases h : (t.ports.filter (·.clock == id)).map (·.state) with
  | nil =>
    have hnone : ∀ p ∈ t.ports, ¬p.clock = id := by simpa using h
    simp only [reduceCtorEq, exists_false, false_iff]
    rintro ⟨p, hp, hclock⟩
    exact hnone p hp hclock
  | cons state states =>
    have hmem : state ∈ (t.ports.filter (·.clock == id)).map (·.state) := by simp [h]
    simp only [List.mem_map, List.mem_filter, beq_iff_eq] at hmem
    obtain ⟨p, ⟨hp, hclock⟩, -⟩ := hmem
    exact ⟨fun _ => ⟨p, hp, hclock⟩, fun _ => ⟨_, rfl⟩⟩

/-- The state of a clock is that of one of its ports, and none is ahead of
    it. -/
theorem aggregate_spec {t : Topology} {id : ClockId} {s : PortState}
    (h : t.aggregate id = some s) :
    (∃ p ∈ t.ports, p.clock = id ∧ p.state = s) ∧
      ∀ p ∈ t.ports, p.clock = id → p.state.precedence ≤ s.precedence := by
  have hstates : ∀ s', s' ∈ (t.ports.filter (·.clock == id)).map (·.state) ↔
      ∃ p ∈ t.ports, p.clock = id ∧ p.state = s' := by
    simp [and_assoc]
  unfold aggregate at h
  split at h
  · cases h
  · next state states heq =>
    obtain ⟨hmem, hbest⟩ := foldl_better_spec states state
    rw [Option.some.injEq] at h
    rw [heq] at hstates
    rw [h] at hmem hbest
    refine ⟨(hstates s).mp hmem, ?_⟩
    intro p hp hclock
    exact hbest _ ((hstates _).mpr ⟨p, hp, hclock, rfl⟩)

/-- The state of a clock counts as disabled exactly if all its ports are. -/
theorem aggregate_disabled_iff {t : Topology} {id : ClockId} {s : PortState}
    (h : t.aggregate id = some s) : s.normalize = .disabled ↔ t.AllDisabled id := by
  obtain ⟨⟨p, hp, hclock, rfl⟩, hbest⟩ := aggregate_spec h
  constructor
  · intro hdisabled q hq hother
    have hle := hbest q hq hother
    rw [PortState.precedence_normalize_disabled] at hdisabled ⊢
    exact Nat.le_trans hle hdisabled
  · intro hall
    exact hall p hp hclock

/-! ### The clocks with their states -/

/-- One step of listing the clocks of the ports. -/
def noteClock (seen : List ClockId) (p : Port) : List ClockId :=
  if seen.contains p.clock then seen else seen ++ [p.clock]

theorem nodup_noteClock {seen : List ClockId} (h : seen.Nodup) (p : Port) :
    (noteClock seen p).Nodup := by
  unfold noteClock
  split
  · exact h
  · next hnew =>
    have hmem : p.clock ∉ seen := by simpa using hnew
    rw [List.nodup_append]
    refine ⟨h, by simp, ?_⟩
    intro id hid id' hid'
    rw [List.mem_singleton.mp hid']
    exact fun heq => hmem (heq ▸ hid)

theorem nodup_foldl_noteClock {seen : List ClockId} (h : seen.Nodup) (ports : List Port) :
    (ports.foldl noteClock seen).Nodup := by
  induction ports generalizing seen with
  | nil => exact h
  | cons p ports ih => exact ih (nodup_noteClock h p)

theorem clocks_eq_foldl (t : Topology) : t.clocks = t.ports.foldl noteClock [] := rfl

theorem clocks_eq_eraseDups (t : Topology) : t.clocks = (t.ports.map (·.clock)).eraseDups := by
  suffices h : ∀ ports : List Port,
      ports.reverse.foldl noteClock [] = (ports.reverse.map (·.clock)).eraseDups by
    rw [clocks_eq_foldl, ← t.ports.reverse_reverse]
    exact h _
  intro ports
  induction ports with
  | nil => rfl
  | cons p ports ih =>
    rw [List.reverse_cons, List.foldl_append, ih, List.map_append, List.map_singleton,
      eraseDups_concat, List.foldl_cons, List.foldl_nil, noteClock]
    by_cases h : p.clock ∈ ports.reverse.map (·.clock)
    · rw [if_pos h, List.append_nil, if_pos]
      simpa [List.mem_eraseDups] using h
    · rw [if_neg h, if_neg]
      simpa [List.mem_eraseDups] using h

theorem nodup_clocks (t : Topology) : t.clocks.Nodup :=
  nodup_foldl_noteClock List.nodup_nil t.ports

theorem mem_clocks {t : Topology} {id : ClockId} :
    id ∈ t.clocks ↔ ∃ p ∈ t.ports, p.clock = id := by
  rw [clocks_eq_eraseDups, List.mem_eraseDups, List.mem_map]

theorem mem_clockStates {t : Topology} {id : ClockId} {s : PortState} :
    (id, s) ∈ t.clockStates ↔ t.aggregate id = some s := by
  simp only [clockStates, List.mem_filterMap, Option.map_eq_some_iff, Prod.mk.injEq]
  constructor
  · rintro ⟨id', -, s', hs, rfl, rfl⟩
    exact hs
  · intro hs
    exact ⟨id, mem_clocks.mpr (aggregate_isSome_iff.mp ⟨s, hs⟩), s, hs, rfl, rfl⟩

theorem nodup_clockStates (t : Topology) : (t.clockStates.map (·.1)).Nodup := by
  rw [clockStates, List.map_filterMap]
  refine List.Pairwise.filterMap _ ?_ t.nodup_clocks
  intro id id' hne b hb b' hb'
  simp only [Option.map_map, Option.map_eq_some_iff, Function.comp_apply] at hb hb'
  obtain ⟨_, -, rfl⟩ := hb
  obtain ⟨_, -, rfl⟩ := hb'
  exact hne

/-! ### Reports -/

/-- A report of a state is refused, comes to the same as the last one, or
    sets the state and the flag. -/
theorem portStateChanged_cases {t t' : Topology} {number : UInt16} {state : PortState}
    {m m' : Machine W} {known : Bool}
    (h : Returns (t.portStateChanged number state) m (known, t') m') :
    (known = false ∧ t' = t ∧ ∀ p ∈ t.ports, p.number ≠ number) ∨
    ∃ p ∈ t.ports, p.number = number ∧ known = true ∧
      ((p.state = state.normalize ∧ t' = t) ∨ t' = t.setState number state.normalize) := by
  unfold portStateChanged at h
  split at h
  · next hnone =>
    simp only [returns_pure, Prod.mk.injEq] at h
    obtain ⟨⟨rfl, rfl⟩, -⟩ := h
    refine .inl ⟨rfl, rfl, ?_⟩
    simpa using hnone
  · next p hfound =>
    have hp := List.mem_of_find?_eq_some hfound
    have hnumber : p.number = number := by simpa using List.find?_some hfound
    refine .inr ⟨p, hp, hnumber, ?_⟩
    dsimp only at h
    split at h
    · next hsame =>
      simp only [returns_pure, Prod.mk.injEq] at h
      obtain ⟨⟨rfl, rfl⟩, -⟩ := h
      exact ⟨rfl, .inl ⟨hsame, rfl⟩⟩
    · simp only [returns_bind, returns_log, returns_pure, Prod.mk.injEq] at h
      obtain ⟨_, _, -, ⟨rfl, rfl⟩, -⟩ := h
      exact ⟨rfl, .inr rfl⟩

end Topology

/-! ### The selection -/

/-- The clocks whose state is one of these. -/
def inState (clocks : List (ClockId × PortState)) (p : PortState → Bool) : List ClockId :=
  (clocks.filter fun (_, state) => p state.normalize).map (·.1)

/-- A state in which a clock could be the source. -/
def PortState.isCandidate (s : PortState) : Bool := s == .slave || s == .uncalibrated

/-- A state in which a clock is to be corrected. -/
def PortState.isFollowing (s : PortState) : Bool := s == .master || s == .preMaster

theorem PortState.isFollowing_normalize_iff (s : PortState) :
    s.normalize.isFollowing = true ↔ s.normalize ≠ .disabled ∧ ¬s.normalize.isCandidate = true := by
  cases s <;> decide

/-- Without its last entry a list without repetitions has lost just that. -/
theorem mem_dropLast_iff {ids : List ClockId} {id last : ClockId} (hnodup : ids.Nodup)
    (hlast : ids.getLast? = some last) : id ∈ ids.dropLast ↔ id ∈ ids ∧ id ≠ last := by
  obtain ⟨init, rfl⟩ := List.getLast?_eq_some_iff.mp hlast
  rw [List.dropLast_concat]
  have hnew : last ∉ init := by
    rw [List.nodup_append] at hnodup
    exact fun hmem => hnodup.2.2 last hmem last (List.mem_singleton_self last) rfl
  constructor
  · intro hid
    exact ⟨List.mem_append_left _ hid, fun heq => hnew (heq ▸ hid)⟩
  · rintro ⟨hid, hne⟩
    rcases List.mem_append.mp hid with hid | hid
    · exact hid
    · exact absurd (List.mem_singleton.mp hid) hne

section Select

variable {clocks : List (ClockId × PortState)} {p : PortState → Bool} {id : ClockId}
  {state : PortState} {policy : FallbackPolicy} {selection : Selection}
  {destinations : List ClockId}

theorem mem_inState : id ∈ inState clocks p ↔ ∃ s, (id, s) ∈ clocks ∧ p s.normalize = true := by
  simp [inState]

theorem nodup_inState (hnodup : (clocks.map (·.1)).Nodup) (p : PortState → Bool) :
    (inState clocks p).Nodup :=
  (List.Sublist.map _ List.filter_sublist).nodup hnodup

theorem eq_of_mem_clocks {s s' : PortState} (hnodup : (clocks.map (·.1)).Nodup)
    (h : (id, s) ∈ clocks) (h' : (id, s') ∈ clocks) : s = s' := by
  induction clocks with
  | nil => cases h
  | cons clock clocks ih =>
    simp only [List.map_cons, List.nodup_cons, List.mem_map] at hnodup
    rcases List.mem_cons.mp h with rfl | hrest
    · rcases List.mem_cons.mp h' with heq | hrest'
      · exact (congrArg Prod.snd heq).symm
      · exact absurd ⟨_, hrest', rfl⟩ hnodup.1
    · rcases List.mem_cons.mp h' with rfl | hrest'
      · exact absurd ⟨_, hrest, rfl⟩ hnodup.1
      · exact ih hnodup.2 hrest hrest'

/-- With one state for each clock, being among those in a state is a matter of
    that state. -/
theorem mem_inState_iff (hnodup : (clocks.map (·.1)).Nodup) (h : (id, state) ∈ clocks) :
    id ∈ inState clocks p ↔ p state.normalize = true := by
  rw [mem_inState]
  constructor
  · rintro ⟨s, hs, hp⟩
    rwa [eq_of_mem_clocks hnodup h hs]
  · intro hp
    exact ⟨state, h, hp⟩

/-- The source that a selection settles on, if any. -/
theorem source?_select (policy : FallbackPolicy) (clocks : List (ClockId × PortState)) :
    (select policy clocks).1.source? =
      if 1 < (inState clocks PortState.isCandidate).length then none
      else (inState clocks (· == .slave)).getLast?.or <|
        if 0 < (inState clocks PortState.isCandidate).length then none
        else if policy = .lastDestination then (inState clocks PortState.isFollowing).getLast?
        else none := by
  unfold select
  dsimp only
  split
  · next hmany => exact (if_pos hmany).symm
  · next hone =>
    refine Eq.trans ?_ (if_neg hone).symm
    split
    · next id hslave => exact congrArg (Option.or · _) hslave.symm
    · next hslave =>
      refine Eq.trans ?_ (congrArg (Option.or · _) hslave).symm
      split
      · next hsome => exact (if_pos hsome).symm
      · next hnone =>
        refine Eq.trans ?_ (if_neg hnone).symm
        split
        · next hlast => exact hlast.symm
        · rfl
        · next hlast =>
          split
          · exact hlast.symm
          · rfl

/-- How a selection that decides on destinations comes about. -/
theorem select_cases (h : (select policy clocks).1 = selection)
    (hdest : selection.destinations? = some destinations) :
    (∃ id, id ∈ inState clocks (· == .slave) ∧ selection.source? = some id ∧
      (inState clocks PortState.isCandidate).length ≤ 1 ∧
      destinations = inState clocks PortState.isFollowing) ∨
    (∃ id, (inState clocks PortState.isFollowing).getLast? = some id ∧
      selection.source? = some id ∧ inState clocks PortState.isCandidate = [] ∧
      destinations = (inState clocks PortState.isFollowing).dropLast) := by
  unfold select at h
  dsimp only at h
  split at h
  · subst h
    cases hdest
  · next hone =>
    split at h
    · next id hslave =>
      subst h
      cases hdest
      exact .inl ⟨id, List.mem_of_getLast? hslave, rfl, Nat.le_of_not_lt hone, rfl⟩
    · split at h
      · subst h
        cases hdest
      · next hnone =>
        have hempty := List.length_eq_zero_iff.mp (Nat.eq_zero_of_not_pos hnone)
        split at h
        · next id hlast =>
          subst h
          cases hdest
          exact .inr ⟨id, hlast, rfl, hempty, rfl⟩
        · subst h
          cases hdest
        · subst h
          cases hdest

/-- A clock that is selected as the source has a port that is not disabled. -/
theorem source_enabled (hnodup : (clocks.map (·.1)).Nodup)
    (h : (select policy clocks).1 = selection)
    (hdest : selection.destinations? = some destinations) (hclock : (id, state) ∈ clocks)
    (hsource : selection.source? = some id) : state.normalize ≠ .disabled := by
  rcases select_cases h hdest with ⟨source, hslave, hsource', -⟩ | ⟨source, hlast, hsource', -⟩
  · rw [hsource', Option.some.injEq] at hsource
    rw [hsource, mem_inState_iff hnodup hclock] at hslave
    intro hdisabled
    rw [hdisabled] at hslave
    cases hslave
  · rw [hsource', Option.some.injEq] at hsource
    have hfollowing := List.mem_of_getLast? hlast
    rw [hsource, mem_inState_iff hnodup hclock] at hfollowing
    intro hdisabled
    rw [hdisabled] at hfollowing
    cases hfollowing

/-- When there is a clock with a slave port, it is the only candidate. -/
theorem isCandidate_iff_eq_source {source : ClockId} (hnodup : (clocks.map (·.1)).Nodup)
    (hslave : source ∈ inState clocks (· == .slave))
    (hone : (inState clocks PortState.isCandidate).length ≤ 1) (hclock : (id, state) ∈ clocks) :
    state.normalize.isCandidate = true ↔ id = source := by
  constructor
  · intro hcandidate
    have hid : id ∈ inState clocks PortState.isCandidate :=
      (mem_inState_iff hnodup hclock).mpr hcandidate
    have hsource : source ∈ inState clocks PortState.isCandidate := by
      obtain ⟨s, hs, hslave⟩ := mem_inState.mp hslave
      exact mem_inState.mpr ⟨s, hs, by rw [PortState.isCandidate, hslave, Bool.true_or]⟩
    rcases Nat.le_one_iff_eq_zero_or_eq_one.mp hone with hnone | hone
    · rw [List.length_eq_zero_iff.mp hnone] at hid
      cases hid
    · obtain ⟨only, hlist⟩ := List.length_eq_one_iff.mp hone
      rw [hlist, List.mem_singleton] at hid hsource
      rw [hid, hsource]
  · rintro rfl
    have hstate := (mem_inState_iff hnodup hclock).mp hslave
    rw [PortState.isCandidate, hstate, Bool.true_or]

/-- The destinations are the clocks that are neither disabled nor the
    source. -/
theorem mem_destinations_iff (hnodup : (clocks.map (·.1)).Nodup)
    (h : (select policy clocks).1 = selection)
    (hdest : selection.destinations? = some destinations) (hclock : (id, state) ∈ clocks) :
    id ∈ destinations ↔ state.normalize ≠ .disabled ∧ selection.source? ≠ some id := by
  -- the source is the only candidate, or else the last of the clocks that follow
  rcases select_cases h hdest with ⟨source, hslave, hsource, hone, rfl⟩ |
    ⟨source, hlast, hsource, hnone, rfl⟩
  · rw [mem_inState_iff hnodup hclock, PortState.isFollowing_normalize_iff,
      isCandidate_iff_eq_source hnodup hslave hone hclock, hsource]
    simp [eq_comm]
  · have hcandidate : ¬state.normalize.isCandidate = true := by
      rw [← mem_inState_iff hnodup hclock, hnone]
      exact List.not_mem_nil
    rw [mem_dropLast_iff (nodup_inState hnodup _) hlast, mem_inState_iff hnodup hclock,
      PortState.isFollowing_normalize_iff, hsource]
    simp [hcandidate, eq_comm]

end Select

end ClockDiscipline
