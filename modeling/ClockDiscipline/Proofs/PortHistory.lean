/-
  ClockDiscipline/Proofs/PortHistory.lean
  =======================================
  **What is known of the ports, as a function of their whole history.**

  A topology is updated event by event and forgets the events.  Here the
  events are kept, and what the topology should know is read off them: the
  clock that a port was first bound to, the state that was last reported for
  it, and the best of these for each clock.  `electedSource` is the source
  that follows from them, without the topology.  A topology whose ports are
  those of the history elects just this one (`source?_select_of_history`).
-/
import ClockDiscipline.Proofs.Selection
import Mathlib.Data.List.Basic

namespace ClockDiscipline

open ClockDiscipline.Action

/-- A state was reported for a port, or came with a clock that the port was to
    be bound to. -/
structure PortEvent where
  number : UInt16
  state : PortState
  binding : Option ClockId := none
deriving DecidableEq, Repr

namespace PortEvent

/-! ### What the events say -/

/-- The clock of the first binding. -/
def boundClock? (events : List PortEvent) (number : UInt16) : Option ClockId :=
  events.findSome? fun e => if e.number = number then e.binding else none

/-- The last state, normalized. -/
def lastState? (events : List PortEvent) (number : UInt16) : Option PortState :=
  events.reverse.findSome? fun e => if e.number = number then some e.state.normalize else none

/-- The ports that were bound, in the order of their first bindings. -/
def boundPorts (events : List PortEvent) : List UInt16 :=
  (events.filterMap fun e => e.binding.map fun _ => e.number).eraseDups

/-- The clocks that ports are bound to, in the order they were first seen. -/
def boundClocks (events : List PortEvent) : List ClockId :=
  ((boundPorts events).filterMap (boundClock? events)).eraseDups

/-- Whether a port of the clock is in this state. -/
def hasPortIn (events : List PortEvent) (clock : ClockId) (state : PortState) : Bool :=
  (boundPorts events).any fun number =>
    boundClock? events number == some clock && lastState? events number == some state

/-- The state of a clock, by the order in which states take precedence. -/
def clockState (events : List PortEvent) (clock : ClockId) : PortState :=
  ([.slave, .uncalibrated, .master, .preMaster].find? (hasPortIn events clock)).getD .disabled

/-- The source: the only clock that could be one, if it is ready; and if there
    is no such clock, the last of those that follow, as far as the policy
    allows it. -/
def electedSource (policy : FallbackPolicy) (events : List PortEvent) : Option ClockId :=
  let clocks := boundClocks events
  match clocks.filter fun clock => (clockState events clock).isCandidate with
  | [only] => if clockState events only = .slave then some only else none
  | _ :: _ :: _ => none
  | [] =>
    match policy with
    | .lastDestination =>
      (clocks.filter fun clock => (clockState events clock).isFollowing).getLast?
    | .disabled => none

/-- A port as the events leave it. -/
def port? (events : List PortEvent) (number : UInt16) : Option Port :=
  (boundClock? events number).bind fun clock =>
    (lastState? events number).map fun state => ⟨number, clock, state⟩

def ports (events : List PortEvent) : List Port := (boundPorts events).filterMap (port? events)

/-! ### One more event -/

variable {events : List PortEvent} {e : PortEvent} {number : UInt16} {clock : ClockId}

theorem boundClock?_append (events : List PortEvent) (e : PortEvent) (number : UInt16) :
    boundClock? (events ++ [e]) number =
      (boundClock? events number).or (if e.number = number then e.binding else none) := by
  simp only [boundClock?, List.findSome?_append, List.findSome?_singleton]

theorem lastState?_append (events : List PortEvent) (e : PortEvent) (number : UInt16) :
    lastState? (events ++ [e]) number =
      if e.number = number then some e.state.normalize else lastState? events number := by
  simp only [lastState?, List.reverse_append, List.reverse_singleton, List.singleton_append,
    List.findSome?_cons]
  by_cases h : e.number = number <;> simp [h]

theorem mem_boundPorts : number ∈ boundPorts events ↔ (boundClock? events number).isSome := by
  simp only [boundPorts, List.mem_eraseDups, List.mem_filterMap, Option.map_eq_some_iff,
    boundClock?, List.findSome?_isSome_iff]
  constructor
  · rintro ⟨e, he, clock, hbinding, rfl⟩
    exact ⟨e, he, by simp [hbinding]⟩
  · rintro ⟨e, he, hsome⟩
    split at hsome
    · next hnumber =>
      obtain ⟨clock, hbinding⟩ := Option.isSome_iff_exists.mp hsome
      exact ⟨e, he, clock, hbinding, hnumber⟩
    · cases hsome

theorem isSome_lastState? (h : (boundClock? events number).isSome) :
    (lastState? events number).isSome := by
  obtain ⟨e, he, hsome⟩ := List.findSome?_isSome_iff.mp h
  refine List.findSome?_isSome_iff.mpr ⟨e, List.mem_reverse.mpr he, ?_⟩
  split at hsome
  · next hnumber => simp [hnumber]
  · cases hsome

/-- A port comes to the end of the list when it is bound for the first time. -/
theorem boundPorts_append (events : List PortEvent) (e : PortEvent) :
    boundPorts (events ++ [e]) = boundPorts events ++
      if e.binding.isSome ∧ boundClock? events e.number = none then [e.number] else [] := by
  have hknown : e.number ∈ events.filterMap (fun e => e.binding.map fun _ => e.number) ↔
      (boundClock? events e.number).isSome := by
    rw [← mem_boundPorts, boundPorts, List.mem_eraseDups]
  cases hbinding : e.binding with
  | none => simp [boundPorts, List.filterMap_append, hbinding]
  | some clock =>
    have hlast : [e].filterMap (fun e => e.binding.map fun _ => e.number) = [e.number] := by
      simp [hbinding]
    rw [boundPorts, List.filterMap_append, hlast, eraseDups_concat]
    cases hclock : boundClock? events e.number with
    | none =>
      rw [if_neg (by simp [hknown, hclock])]
      simp [boundPorts]
    | some first =>
      rw [if_pos (by simp [hknown, hclock])]
      simp [boundPorts]

/-! ### One more event for the ports -/

theorem port?_eq_some_iff {p : Port} :
    port? events number = some p ↔ p.number = number ∧ boundClock? events number = some p.clock ∧
      lastState? events number = some p.state := by
  simp only [port?, Option.bind_eq_some_iff, Option.map_eq_some_iff]
  constructor
  · rintro ⟨clock, hclock, state, hstate, rfl⟩
    exact ⟨rfl, hclock, hstate⟩
  · rintro ⟨rfl, hclock, hstate⟩
    exact ⟨p.clock, hclock, p.state, hstate, rfl⟩

theorem mem_ports {p : Port} : p ∈ ports events ↔ port? events p.number = some p := by
  simp only [ports, List.mem_filterMap]
  constructor
  · rintro ⟨number, -, hport⟩
    rwa [(port?_eq_some_iff.mp hport).1]
  · intro hport
    refine ⟨p.number, mem_boundPorts.mpr ?_, hport⟩
    rw [(port?_eq_some_iff.mp hport).2.1]
    rfl

theorem port?_isSome : (port? events number).isSome ↔ (boundClock? events number).isSome := by
  cases hclock : boundClock? events number with
  | none => simp [port?, hclock]
  | some clock =>
    have hbound : (boundClock? events number).isSome := by rw [hclock, Option.isSome_some]
    obtain ⟨state, hstate⟩ := Option.isSome_iff_exists.mp (isSome_lastState? hbound)
    simp [port?, hclock, hstate]

theorem port?_append_of_ne (h : e.number ≠ number) :
    port? (events ++ [e]) number = port? events number := by
  simp only [port?, boundClock?_append, lastState?_append, if_neg h, Option.or_none]

/-- A bound port keeps its clock, and takes the state. -/
theorem port?_append_of_bound (h : (boundClock? events e.number).isSome) (number : UInt16) :
    port? (events ++ [e]) number = (port? events number).map fun p =>
      if p.number = e.number then { p with state := e.state.normalize } else p := by
  by_cases hnumber : e.number = number
  · subst hnumber
    obtain ⟨clock, hclock⟩ := Option.isSome_iff_exists.mp h
    obtain ⟨state, hstate⟩ := Option.isSome_iff_exists.mp (isSome_lastState? h)
    simp [port?, boundClock?_append, lastState?_append, hclock, hstate]
  · rw [port?_append_of_ne hnumber]
    cases hport : port? events number with
    | none => rfl
    | some p =>
      have hne : ¬p.number = e.number := by
        rw [(port?_eq_some_iff.mp hport).1]
        exact fun heq => hnumber heq.symm
      simp [hne]

theorem ports_append_of_bound (h : (boundClock? events e.number).isSome) :
    ports (events ++ [e]) = (ports events).map fun p =>
      if p.number = e.number then { p with state := e.state.normalize } else p := by
  have hnone : boundClock? events e.number ≠ none := Option.isSome_iff_ne_none.mp h
  simp only [ports, boundPorts_append, hnone, and_false, if_false, List.append_nil,
    funext (port?_append_of_bound h), List.map_filterMap]

theorem ports_append_of_unbound (h : boundClock? events e.number = none) :
    ports (events ++ [e]) = ports events ++
      (e.binding.map fun clock => ⟨e.number, clock, e.state.normalize⟩).toList := by
  have hbefore : ∀ number ∈ boundPorts events,
      port? (events ++ [e]) number = port? events number := by
    intro number hnumber
    apply port?_append_of_ne
    rintro rfl
    rw [mem_boundPorts, h] at hnumber
    cases hnumber
  rw [ports, boundPorts_append, List.filterMap_append, List.filterMap_congr hbefore]
  cases hbinding : e.binding with
  | none => simp [ports]
  | some clock =>
    simp [ports, h, port?, boundClock?_append, lastState?_append, hbinding]

end PortEvent

namespace Topology

open PortEvent (boundClock?)

variable {W : Type} {t t' : Topology} {m m' : Machine W} {events : List PortEvent}
  {number : UInt16} {state : PortState}

/-! ### A topology that follows the history -/

/-- The ports are those of the history. -/
def Follows (t : Topology) (events : List PortEvent) : Prop := t.ports = PortEvent.ports events

/-- What one more event does to a topology: it goes on following the history,
    and its flag stays clear only if nothing has changed. -/
structure Noted (t t' : Topology) (events : List PortEvent) : Prop where
  follows : t'.Follows events
  policy : t'.policy = t.policy
  clear : t'.changed = false → t' = t

theorem Follows.bound_iff (h : t.Follows events) :
    (boundClock? events number).isSome ↔ ∃ p ∈ t.ports, p.number = number := by
  rw [h, ← PortEvent.port?_isSome]
  constructor
  · intro hsome
    obtain ⟨p, hp⟩ := Option.isSome_iff_exists.mp hsome
    have hnumber := (PortEvent.port?_eq_some_iff.mp hp).1
    exact ⟨p, PortEvent.mem_ports.mpr (hnumber ▸ hp), hnumber⟩
  · rintro ⟨p, hp, rfl⟩
    rw [PortEvent.mem_ports.mp hp]
    rfl

theorem Follows.unbound (h : t.Follows events) (hnone : ∀ p ∈ t.ports, p.number ≠ number) :
    boundClock? events number = none := by
  rw [← Option.not_isSome_iff_eq_none, h.bound_iff]
  rintro ⟨p, hp, hnumber⟩
  exact hnone p hp hnumber

/-- What is said about a port that was never bound changes nothing. -/
theorem Follows.portStateChanged_of_unbound (h : t.Follows events)
    (hunbound : boundClock? events number = none) (state : PortState) (m : Machine W) :
    Returns (t.portStateChanged number state) m (false, t) m := by
  have hnone : t.ports.find? (·.number == number) = none := by
    rw [List.find?_eq_none]
    intro p hp hnumber
    have hbound := h.bound_iff.mpr ⟨p, hp, by simpa using hnumber⟩
    rw [hunbound] at hbound
    cases hbound
  rw [Topology.portStateChanged, hnone]
  rfl

/-- Any event for a bound port counts as a report of its state. -/
theorem Follows.report (h : t.Follows events) {known : Bool} (binding : Option ClockId)
    (hreturns : Returns (t.portStateChanged number state) m (known, t') m')
    (hknown : known = true) : t.Noted t' (events ++ [⟨number, state, binding⟩]) := by
  rcases portStateChanged_cases hreturns with ⟨rfl, -⟩ | ⟨p, hp, rfl, -, hcases⟩
  · cases hknown
  · have hbound : (boundClock? events p.number).isSome := h.bound_iff.mpr ⟨p, hp, rfl⟩
    have hports := PortEvent.ports_append_of_bound (e := ⟨p.number, state, binding⟩) hbound
    rcases hcases with ⟨hsame, rfl⟩ | rfl
    · refine ⟨?_, rfl, fun _ => rfl⟩
      -- all entries of this number are alike, so that none of them changes
      rw [Follows, hports, h]
      refine (List.map_id _).symm.trans (List.map_congr_left fun q hq => ?_)
      split
      · next hnumber =>
        have hq := PortEvent.mem_ports.mp hq
        rw [hnumber, PortEvent.mem_ports.mp (h ▸ hp)] at hq
        cases hq
        rw [← hsame]
        rfl
      · rfl
    · refine ⟨?_, rfl, fun hclear => by cases hclear⟩
      rw [Follows, hports, ← h]
      rfl

theorem Follows.portStateChanged (h : t.Follows events) {known : Bool}
    (hreturns : Returns (t.portStateChanged number state) m (known, t') m') :
    t.Noted t' (events ++ [⟨number, state, none⟩]) := by
  cases known with
  | true => exact h.report none hreturns rfl
  | false =>
    rcases portStateChanged_cases hreturns with ⟨-, rfl, hnone⟩ | ⟨p, -, -, hknown, -⟩
    · refine ⟨?_, rfl, fun _ => rfl⟩
      have hunbound := h.unbound hnone
      rw [Follows, PortEvent.ports_append_of_unbound (e := ⟨number, state, none⟩) hunbound, h]
      exact (List.append_nil _).symm
    · cases hknown

theorem Follows.addPort (h : t.Follows events) {clock : ClockId}
    (hreturns : Returns (t.addPort number clock state) m t' m') :
    t.Noted t' (events ++ [⟨number, state, some clock⟩]) := by
  simp only [Topology.addPort, returns_bind] at hreturns
  obtain ⟨⟨known, t₁⟩, m₁, hreport, hreturns⟩ := hreturns
  split at hreturns
  · next hknown =>
    obtain ⟨rfl, -⟩ := returns_pure.mp hreturns
    exact h.report (some clock) hreport hknown
  · next hnew =>
    obtain ⟨rfl, -⟩ := returns_pure.mp hreturns
    rcases portStateChanged_cases hreport with ⟨-, rfl, hnone⟩ | ⟨p, -, -, hknown, -⟩
    · refine ⟨?_, rfl, fun hclear => by cases hclear⟩
      have hunbound := h.unbound hnone
      rw [Follows, PortEvent.ports_append_of_unbound (e := ⟨number, state, some clock⟩) hunbound,
        ← h]
      rfl
    · exact absurd hknown hnew

/-! ### The clocks of the history -/

section Clocks

variable {clock : ClockId}

theorem Follows.clocks_eq (h : t.Follows events) : t.clocks = PortEvent.boundClocks events := by
  rw [clocks_eq_eraseDups, h, PortEvent.ports, PortEvent.boundClocks, List.map_filterMap]
  congr 1
  refine List.filterMap_congr fun number hnumber => ?_
  have hbound := PortEvent.mem_boundPorts.mp hnumber
  obtain ⟨clock, hclock⟩ := Option.isSome_iff_exists.mp hbound
  obtain ⟨state, hstate⟩ := Option.isSome_iff_exists.mp (PortEvent.isSome_lastState? hbound)
  simp [PortEvent.port?, hclock, hstate]

theorem Follows.mem_ports_iff (h : t.Follows events) {p : Port} :
    p ∈ t.ports ↔ boundClock? events p.number = some p.clock ∧
      PortEvent.lastState? events p.number = some p.state := by
  rw [h, PortEvent.mem_ports, PortEvent.port?_eq_some_iff, and_iff_right rfl]

theorem Follows.hasPortIn_iff (h : t.Follows events) :
    PortEvent.hasPortIn events clock state = true ↔
      ∃ p ∈ t.ports, p.clock = clock ∧ p.state = state := by
  simp only [PortEvent.hasPortIn, List.any_eq_true, Bool.and_eq_true, beq_iff_eq]
  constructor
  · rintro ⟨number, -, hclock, hstate⟩
    exact ⟨⟨number, clock, state⟩, h.mem_ports_iff.mpr ⟨hclock, hstate⟩, rfl, rfl⟩
  · rintro ⟨p, hp, rfl, rfl⟩
    obtain ⟨hclock, hstate⟩ := h.mem_ports_iff.mp hp
    exact ⟨p.number, PortEvent.mem_boundPorts.mpr (by rw [hclock]; rfl), hclock, hstate⟩

theorem Follows.normalized (h : t.Follows events) {p : Port} (hp : p ∈ t.ports) :
    p.state.normalize = p.state := by
  obtain ⟨e, -, he⟩ := List.exists_of_findSome?_eq_some (h.mem_ports_iff.mp hp).2
  split at he
  · rw [← Option.some.inj he]
    exact PortState.normalize_normalize e.state
  · cases he

/-- The state of a clock is the first in the order of precedence that one of
    its ports is in. -/
theorem Follows.aggregate_eq (h : t.Follows events) (hclock : clock ∈ t.clocks) :
    t.aggregate clock = some (PortEvent.clockState events clock) := by
  obtain ⟨best, hbest⟩ := aggregate_isSome_iff.mpr (mem_clocks.mp hclock)
  obtain ⟨⟨p, hp, hpclock, hpstate⟩, hahead⟩ := aggregate_spec hbest
  have hin : PortEvent.hasPortIn events clock best = true :=
    h.hasPortIn_iff.mpr ⟨p, hp, hpclock, hpstate⟩
  have hnot (s : PortState) (hs : best.precedence < s.precedence) :
      PortEvent.hasPortIn events clock s = false := by
    rw [← Bool.not_eq_true, h.hasPortIn_iff]
    rintro ⟨q, hq, hqclock, rfl⟩
    exact Nat.not_le_of_lt hs (hahead q hq hqclock)
  have hnormal : best.normalize = best := hpstate ▸ h.normalized hp
  rw [hbest, PortEvent.clockState]
  -- all states before the best in the order of precedence are ruled out
  cases best with
  | slave => simp [hin]
  | uncalibrated => simp [hin, hnot .slave (by decide)]
  | master => simp [hin, hnot .slave (by decide), hnot .uncalibrated (by decide)]
  | preMaster =>
    simp [hin, hnot .slave (by decide), hnot .uncalibrated (by decide), hnot .master (by decide)]
  | disabled =>
    simp [hnot .slave (by decide), hnot .uncalibrated (by decide), hnot .master (by decide),
      hnot .preMaster (by decide)]
  | initializing | faulty | listening | passive => cases hnormal

theorem Follows.clockStates_eq (h : t.Follows events) :
    t.clockStates = (PortEvent.boundClocks events).map fun clock =>
      (clock, PortEvent.clockState events clock) := by
  rw [clockStates, ← h.clocks_eq, ← List.filterMap_eq_map]
  refine List.filterMap_congr fun clock hclock => ?_
  rw [h.aggregate_eq hclock]
  rfl

end Clocks

end Topology

/-! ### The election -/

namespace PortEvent

theorem clockState_normalize (events : List PortEvent) (clock : ClockId) :
    (clockState events clock).normalize = clockState events clock := by
  unfold clockState
  cases hfound : [.slave, .uncalibrated, .master, .preMaster].find? (hasPortIn events clock) with
  | none => rfl
  | some state =>
    have hmem := List.mem_of_find?_eq_some hfound
    simp only [List.mem_cons, List.not_mem_nil, or_false] at hmem
    rcases hmem with rfl | rfl | rfl | rfl <;> rfl

theorem inState_eq (events : List PortEvent) (clocks : List ClockId) (p : PortState → Bool) :
    inState (clocks.map fun clock => (clock, clockState events clock)) p =
      clocks.filter fun clock => p (clockState events clock) := by
  simp only [inState, List.filter_map, List.map_map, Function.comp_def, clockState_normalize,
    List.map_id']

end PortEvent

/-- A topology that follows the history elects the source of the history. -/
theorem source?_select_of_history {t : Topology} {events : List PortEvent}
    (h : t.Follows events) :
    (select t.policy t.clockStates).1.source? = PortEvent.electedSource t.policy events := by
  have hslaves : ∀ clocks : List ClockId,
      clocks.filter (fun clock => PortEvent.clockState events clock == .slave) =
        (clocks.filter fun clock => (PortEvent.clockState events clock).isCandidate).filter
          fun clock => PortEvent.clockState events clock == .slave := by
    intro clocks
    rw [List.filter_filter]
    congr 1
    funext clock
    simp only [PortState.isCandidate]
    cases PortEvent.clockState events clock <;> rfl
  rw [source?_select, h.clockStates_eq]
  simp only [PortEvent.inState_eq, PortEvent.electedSource]
  rw [hslaves]
  generalize (PortEvent.boundClocks events).filter
    (fun clock => (PortEvent.clockState events clock).isCandidate) = candidates
  rcases candidates with _ | ⟨only, _ | _⟩
  · cases t.policy <;> rfl
  · by_cases hslave : PortEvent.clockState events only = .slave
    · simp [hslave]
    · simp [hslave]
  · simp

end ClockDiscipline
