/-
  ClockDiscipline/Observation/Server.lean
  =======================================
  **Serving snapshots to those who connect.**

  Everyone who connects is sent the snapshot of that moment.  A snapshot that
  can not be sent, because its reader is gone, ends the service.
-/
import ClockDiscipline.Observation.Snapshot

namespace ClockDiscipline

/-- Somebody who connects: the clocks and the uptime in seconds at that
    moment, and whether what is sent is received. -/
structure Visit where
  uptimeSeconds : Json
  clocks : List ObservedClock
  listens : Bool

/-- The text that a visitor is sent. -/
def Visit.text (v : Visit) : String := (snapshot v.uptimeSeconds v.clocks).text

/-- What becomes of a visitor. -/
inductive Served where
  | delivered (text : String)
  /-- Gone before the snapshot was sent. -/
  | lost
  /-- Nobody serves any more. -/
  | unserved
deriving DecidableEq, Repr

/-- Serve visitors in the order they connect. -/
def serve : List Visit → List Served
  | [] => []
  | v :: rest =>
    if v.listens then .delivered v.text :: serve rest
    else .lost :: rest.map fun _ => .unserved

/-! ### Who is sent a snapshot -/

/-- What becomes of a visitor, by those before it and whether it listens itself. -/
theorem served_eq (before : List Visit) (v : Visit) (after : List Visit) :
    (serve (before ++ v :: after))[before.length]? =
      some (if ∀ u ∈ before, u.listens = true then
        if v.listens then .delivered v.text else .lost
      else .unserved) := by
  induction before with
  | nil =>
    simp only [List.nil_append, serve, List.not_mem_nil, false_implies, implies_true, if_true]
    split
    · rfl
    · rfl
  | cons u before ih =>
    simp only [List.cons_append, serve, List.forall_mem_cons, List.length_cons]
    by_cases hlistens : u.listens = true
    · simp only [hlistens, if_true, true_and]
      exact ih
    · -- the first one that is gone ends the service for all others
      simp [hlistens]

/-- A visitor is sent the snapshot of its moment exactly if it listens and nobody was gone
    before. -/
theorem delivered_iff (before : List Visit) (v : Visit) (after : List Visit) :
    (serve (before ++ v :: after))[before.length]? = some (.delivered v.text) ↔
      (∀ u ∈ before, u.listens = true) ∧ v.listens = true := by
  rw [served_eq, Option.some.injEq]
  by_cases hbefore : ∀ u ∈ before, u.listens = true
  · rw [if_pos hbefore]
    cases hlistens : v.listens with
    | false => simp
    | true => simpa using hbefore
  · simp [hbefore]

end ClockDiscipline
