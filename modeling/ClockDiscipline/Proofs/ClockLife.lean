/-
  ClockDiscipline/Proofs/ClockLife.lean
  =====================================
  **What a clock keeps is what its own requests have made of it.**

  `Life` is the life of one clock from the moment its device was opened: the
  requests that were made of the device and its servo, and what the clock has
  kept of the answers.  `Chronicle` says of a registry that all its clocks live
  on the record, each by the requests of its number, and every operation of an
  orchestrator keeps it (`Run.chronicle`).  Whatever holds of all lives thus
  holds of all clocks of a run.
-/
import ClockDiscipline.Proofs.Requests
import ClockDiscipline.Proofs.Unlocking

namespace ClockDiscipline

open ClockDiscipline.Action

variable {W H S ε : Type} {env : Environment W H S ε}

/-! ### Lives -/

/-- The requests that give a clock what its servo has decided on, and whether all
    of them were granted.  A clock that jumps is given a frequency first. -/
inductive Adjusted (offset : Duration) (frequency : Float) :
    ServoState → List (ClockRequest ε) → Bool → Prop where
  | unlocked : Adjusted offset frequency .unlocked [] false
  | refused {state : ServoState} {e : ε} :
      state ≠ .unlocked → Adjusted offset frequency state [.frequency frequency (.error e)] false
  | given {state : ServoState} :
      state.isLocked = true → Adjusted offset frequency state [.frequency frequency (.ok ())] true
  | stepped {back : Duration} :
      offset.neg = .ok back →
      Adjusted offset frequency .jump [.frequency frequency (.ok ()), .step back (.ok ())] true
  | stuck {back : Duration} {e : ε} :
      offset.neg = .ok back →
      Adjusted offset frequency .jump [.frequency frequency (.ok ()), .step back (.error e)] false

/-- An offset is fed to the servo of a clock: what is asked then, what the clock
    keeps of it, and the frequency that is reported. -/
inductive Steered (env : Environment W H S ε) (t : Tuning S) :
    List (ClockRequest ε) → Tuning S → Option Float → Prop where
  | fed {offset : Duration} {localNanos : Int64} {weight adjustment : Float} {state : ServoState}
      {servo : S} {requests : List (ClockRequest ε)} {granted : Bool} {m m' : Machine W} :
      Returns (env.servo.sample t.servo offset.nanos localNanos weight) m
        ((adjustment, state), servo) m' →
      Adjusted offset (env.servo.frequency servo adjustment) state requests granted →
      Steered env t (.sampled offset.nanos adjustment state :: requests)
        { t with
          servo := servo
          servoState := state
          lastFrequency :=
            if granted then some (env.servo.frequency servo adjustment) else t.lastFrequency }
        (if granted then some (env.servo.frequency servo adjustment) else none)

/-- What is put on record for a report: of a clock that runs freely nothing, and
    else what steering it takes. -/
inductive Reported (env : Environment W H S ε) (added : List (ClockRequest ε))
    (frequency : Option Float) : Prop where
  | measured : added = [] → frequency = none → Reported env added frequency
  | steered {t t' : Tuning S} : Steered env t added t' frequency → Reported env added frequency

/-- The requests that were made of a device and its servo, and what their clock
    has kept. -/
inductive Life (env : Environment W H S ε) : List (ClockRequest ε) → Tuning S → Prop where
  | opened {handle : H} {servo : S} {m m' : Machine W} :
      Returns (env.makeServo handle) m (.ok servo) m' →
      Life env [.opened] ⟨servo, .unlocked, none, none⟩
  | reset {requests : List (ClockRequest ε)} {t : Tuning S} {servo : S} {m m' : Machine W} :
      Life env requests t → Returns (env.servo.reset t.servo) m servo m' →
      Life env (requests ++ [.reset]) { t with servo := servo, servoState := .unlocked }
  | measured {requests : List (ClockRequest ε)} {t : Tuning S} (offset : Duration) :
      Life env requests t → Life env requests { t with lastOffset := some offset }
  | steered {requests added : List (ClockRequest ε)} {t t' : Tuning S} {report : Option Float} :
      Life env requests t → Steered env t added t' report → Life env (requests ++ added) t'

/-! ### The requests of one device -/

namespace Record

variable {record added : Record ε} {number other : Nat}

theorem of_append : of (record ++ added) number = of record number ++ of added number :=
  List.filterMap_append ..

theorem of_numbered (requests : List (ClockRequest ε)) :
    of (requests.map (Numbered.mk number)) other = if number = other then requests else [] := by
  induction requests with
  | nil => simp [of]
  | cons r requests ih =>
    rw [List.map_cons, of, List.filterMap_cons]
    by_cases h : number = other
    · rw [if_pos h] at ih ⊢
      simp only [if_pos h]
      exact congrArg (r :: ·) ih
    · rw [if_neg h] at ih ⊢
      simp only [if_neg h]
      exact ih

theorem of_eq_nil (h : ∀ r ∈ record, r.number ≠ number) : of record number = [] :=
  List.filterMap_eq_nil_iff.mpr fun r hr => if_neg (h r hr)

end Record

/-! ### Clocks on record -/

/-- What corrections work on, whatever its number is. -/
def Tuning.plain (t : Tuning (Numbered S)) : Tuning S where
  servo := t.servo.value
  servoState := t.servoState
  lastOffset := t.lastOffset
  lastFrequency := t.lastFrequency

/-- The clock has its device and the servo for it, and lives by what they were
    asked. -/
structure Chronicled (env : Environment W H S ε) (record : Record ε)
    (c : Clock (Numbered H) (Numbered S)) : Prop where
  opened : c.handle.number < record.length
  servo : c.servo.number = c.handle.number
  life : Life env (record.of c.handle.number) c.tuning.plain

/-- All clocks are on record, with different numbers. -/
structure Chronicle (env : Environment W H S ε) (record : Record ε)
    (clocks : Registry (Numbered H) (Numbered S)) : Prop where
  clock : ∀ id c, clocks.get? id = some c → Chronicled env record c
  distinct : ∀ id id' c c', clocks.get? id = some c → clocks.get? id' = some c' →
    c.handle.number = c'.handle.number → id = id'
  numbers : ∀ r ∈ record, r.number < record.length

namespace Chronicle

variable {record : Record ε} {clocks clocks' : Registry (Numbered H) (Numbered S)} {id : ClockId}
  {c c' : Clock (Numbered H) (Numbered S)}

theorem empty : Chronicle env [] (.empty : Registry (Numbered H) (Numbered S)) where
  clock id c hc := by simp [Registry.empty, Registry.get?] at hc
  distinct id id' c c' hc := by simp [Registry.empty, Registry.get?] at hc
  numbers r hr := by cases hr

/-- As long as clocks keep what corrections work on, there is nothing to be put
    on record. -/
theorem kept (h : Chronicle env record clocks)
    (hkept : ∀ id c', clocks'.get? id = some c' →
      ∃ c, clocks.get? id = some c ∧ c'.handle = c.handle ∧ c'.tuning = c.tuning) :
    Chronicle env record clocks' where
  clock id c' hc' := by
    obtain ⟨c, hc, hhandle, htuning⟩ := hkept id c' hc'
    have hservo : c'.servo = c.servo := congrArg Tuning.servo htuning
    obtain ⟨hopened, hnumber, hlife⟩ := h.clock id c hc
    exact ⟨by rwa [hhandle], by rwa [hservo, hhandle], by rwa [hhandle, htuning]⟩
  distinct id id' c₁' c₂' hc₁' hc₂' hnumber := by
    obtain ⟨c₁, hc₁, hhandle₁, -⟩ := hkept id c₁' hc₁'
    obtain ⟨c₂, hc₂, hhandle₂, -⟩ := hkept id' c₂' hc₂'
    exact h.distinct id id' c₁ c₂ hc₁ hc₂ (by rwa [← hhandle₁, ← hhandle₂])
  numbers := h.numbers

theorem destroy {r' : Registry (Numbered H) (Numbered S)} {source : Option ClockId}
    (h : Chronicle env record clocks)
    (hdestroy : (clocks.destroy id source : Except (RegistryError ε) _) = .ok (c, r')) :
    Chronicle env record r' := by
  refine h.kept fun other own hown => ?_
  obtain ⟨-, -, hget⟩ := Registry.destroy_cases hdestroy
  rw [hget] at hown
  split at hown
  · cases hown
  · exact ⟨own, hown, rfl, rfl⟩

/-- Requests to the device and the servo of one clock are part of its life and of
    no other one. -/
theorem turn {added : List (ClockRequest ε)} (h : Chronicle env record clocks)
    (hc : clocks.get? id = some c) (hhandle : c'.handle = c.handle)
    (hservo : c'.servo.number = c.servo.number)
    (hlife : Life env (record.of c.handle.number ++ added) c'.tuning.plain) :
    Chronicle env (record ++ added.map (Numbered.mk c.handle.number)) (clocks.set id c') where
  clock other own hown := by
    have hlength : record.length ≤ (record ++ added.map (Numbered.mk c.handle.number)).length := by
      rw [List.length_append]
      exact Nat.le_add_right _ _
    by_cases hid : other = id
    · subst hid
      obtain rfl : c' = own := by simpa [Registry.get?_set_self c' hc] using hown
      obtain ⟨hopened, hnumber, -⟩ := h.clock other c hc
      refine ⟨?_, by rw [hservo, hhandle, hnumber], ?_⟩
      · rw [hhandle]
        exact Nat.lt_of_lt_of_le hopened hlength
      · rwa [hhandle, Record.of_append, Record.of_numbered, if_pos rfl]
    · rw [Registry.get?_set_of_ne c' hid] at hown
      obtain ⟨hopened, hnumber, hlives⟩ := h.clock other own hown
      refine ⟨Nat.lt_of_lt_of_le hopened hlength, hnumber, ?_⟩
      have hne : ¬c.handle.number = own.handle.number := fun heq =>
        hid (h.distinct id other c own hc hown heq).symm
      rwa [Record.of_append, Record.of_numbered, if_neg hne, List.append_nil]
  distinct := by
    -- the numbers are those before the turn
    have hbefore : ∀ other own, (clocks.set id c').get? other = some own →
        ∃ own₀, clocks.get? other = some own₀ ∧ own.handle = own₀.handle := by
      intro other own hown
      by_cases hid : other = id
      · subst hid
        obtain rfl : c' = own := by simpa [Registry.get?_set_self c' hc] using hown
        exact ⟨c, hc, hhandle⟩
      · rw [Registry.get?_set_of_ne c' hid] at hown
        exact ⟨own, hown, rfl⟩
    intro other other' own own' hown hown' hnumber
    obtain ⟨own₀, hown₀, hhandle₀⟩ := hbefore other own hown
    obtain ⟨own₀', hown₀', hhandle₀'⟩ := hbefore other' own' hown'
    rw [hhandle₀, hhandle₀'] at hnumber
    exact h.distinct other other' own₀ own₀' hown₀ hown₀' hnumber
  numbers r hr := by
    rw [List.length_append]
    rcases List.mem_append.mp hr with hr | hr
    · exact Nat.lt_of_lt_of_le (h.numbers r hr) (Nat.le_add_right _ _)
    · obtain ⟨_, -, rfl⟩ := List.mem_map.mp hr
      exact Nat.lt_of_lt_of_le (h.clock id c hc).opened (Nat.le_add_right _ _)

/-- A device that is opened has a number of its own, whatever becomes of it. -/
theorem deviceOpened (h : Chronicle env record clocks) :
    Chronicle env (record ++ [⟨record.length, .opened⟩]) clocks where
  clock id c hc := by
    obtain ⟨hopened, hnumber, hlife⟩ := h.clock id c hc
    have hne : ¬record.length = c.handle.number := fun heq => Nat.ne_of_lt hopened heq.symm
    refine ⟨?_, hnumber, ?_⟩
    · rw [List.length_append]
      exact Nat.lt_of_lt_of_le hopened (Nat.le_add_right _ _)
    · have hnone : Record.of [⟨record.length, ClockRequest.opened (ε := ε)⟩] c.handle.number = [] :=
        Record.of_eq_nil (by simpa using hne)
      rwa [Record.of_append, hnone, List.append_nil]
  distinct := h.distinct
  numbers r hr := by
    rw [List.length_append, List.length_singleton]
    rcases List.mem_append.mp hr with hr | hr
    · exact Nat.lt_succ_of_lt (h.numbers r hr)
    · obtain rfl := List.mem_singleton.mp hr
      exact Nat.lt_succ_self _

/-- The life of a clock begins with the opening of its device. -/
theorem push {name : String} {index : UInt32} {handle : H} {servo : S} {m m' : Machine W}
    (h : Chronicle env record clocks)
    (hservo : Returns (env.makeServo handle) m (.ok servo) m') :
    Chronicle env (record ++ [⟨record.length, .opened⟩])
      (clocks.push (.opened name index ⟨record.length, handle⟩ ⟨record.length, servo⟩)).2 where
  clock id c hc := by
    rw [Registry.get?_push] at hc
    split at hc
    · obtain rfl := Option.some.inj hc
      have hnone : Record.of record record.length = [] :=
        Record.of_eq_nil fun r hr => Nat.ne_of_lt (h.numbers r hr)
      refine ⟨by simp [Clock.opened], rfl, ?_⟩
      show Life env (Record.of _ record.length) _
      have hown : Record.of [⟨record.length, ClockRequest.opened (ε := ε)⟩] record.length =
          [.opened] := by simp [Record.of]
      rw [Record.of_append, hnone, List.nil_append, hown]
      exact .opened hservo
    · exact h.deviceOpened.clock id c hc
  distinct id id' c c' hc hc' hnumber := by
    have hnew : ∀ other own, clocks.get? other = some own → own.handle.number ≠ record.length :=
      fun other own hown => Nat.ne_of_lt (h.clock other own hown).opened
    rw [Registry.get?_push] at hc hc'
    split at hc <;> split at hc'
    · next hid hid' => exact hid.trans hid'.symm
    · obtain rfl := Option.some.inj hc
      exact absurd hnumber.symm (hnew id' c' hc')
    · obtain rfl := Option.some.inj hc'
      exact absurd hnumber (hnew id c hc)
    · exact h.distinct id id' c c' hc hc' hnumber
  numbers := h.deviceOpened.numbers

end Chronicle

/-! ### Opening clocks -/

section Opening

variable {m m' : Machine (W × Record ε)} {r r' : Registry (Numbered H) (Numbered S)}

theorem openNumbered_ok {name : String} {handle : Numbered H} {index : UInt32}
    (h : Returns (env.openNumbered name) m (.ok (handle, index)) m') :
    handle.number = m.world.2.length ∧
      m'.world.2 = m.world.2 ++ [⟨m.world.2.length, .opened⟩] := by
  simp only [Environment.openNumbered, returns_bind] at h
  obtain ⟨opened, m₁, hopen, h⟩ := h
  have hquiet := quiet_beside _ _ _ _ hopen
  rcases opened with e | ⟨plain, index'⟩
  · simp at h
  · simp only [returns_bind, returns_perform, returns_pure, Except.ok.injEq, Prod.mk.injEq] at h
    obtain ⟨number, _, ⟨rfl, rfl⟩, ⟨rfl, -⟩, rfl⟩ := h
    rw [← hquiet]
    exact ⟨rfl, rfl⟩

theorem openNumbered_error {name : String} {e : ε}
    (h : Returns (env.openNumbered name) m (.error e) m') : m'.world.2 = m.world.2 := by
  simp only [Environment.openNumbered, returns_bind] at h
  obtain ⟨opened, m₁, hopen, h⟩ := h
  have hquiet := quiet_beside _ _ _ _ hopen
  rcases opened with e' | ⟨plain, index⟩
  · obtain ⟨-, rfl⟩ := returns_pure.mp h
    exact hquiet
  · simp at h

theorem makeServo_ok {handle : Numbered H} {servo : Numbered S}
    (h : Returns (env.recorded.makeServo handle) m (.ok servo) m') :
    servo.number = handle.number ∧ m'.world.2 = m.world.2 ∧
      ∃ m₀ m₁, Returns (env.makeServo handle.value) m₀ (.ok servo.value) m₁ := by
  simp only [Environment.recorded, returns_bind, returns_pure] at h
  obtain ⟨made, m₁, hmake, hmade, rfl⟩ := h
  have hquiet := quiet_beside _ _ _ _ hmake
  obtain ⟨next, hplain, -⟩ := returns_beside_iff.mp hmake
  cases made with
  | error e => cases hmade
  | ok plain =>
    cases hmade
    exact ⟨rfl, hquiet, _, _, hplain⟩

theorem makeServo_error {handle : Numbered H} {e : ε}
    (h : Returns (env.recorded.makeServo handle) m (.error e) m') : m'.world.2 = m.world.2 := by
  simp only [Environment.recorded, returns_bind, returns_pure] at h
  obtain ⟨made, m₁, hmake, -, rfl⟩ := h
  exact quiet_beside _ _ _ _ hmake

theorem getOrCreate_chronicle {name : String} {result : Except (RegistryError ε) ClockId}
    (hr : Chronicle env m.world.2 r)
    (h : Returns (r.getOrCreate env.recorded name) m (result, r') m') :
    Chronicle env m'.world.2 r' := by
  unfold Registry.getOrCreate at h
  split at h
  · simp only [returns_pure, Prod.mk.injEq] at h
    obtain ⟨⟨-, rfl⟩, rfl⟩ := h
    exact hr
  · simp only [returns_bind] at h
    obtain ⟨opened, m₁, hopen, h⟩ := h
    rcases opened with e | ⟨handle, index⟩
    · simp only [returns_pure, Prod.mk.injEq] at h
      obtain ⟨⟨-, rfl⟩, rfl⟩ := h
      rwa [openNumbered_error hopen]
    · obtain ⟨hnumber, hrecord⟩ := openNumbered_ok hopen
      dsimp only at h
      split at h
      · simp only [returns_bind, returns_log, returns_pure, Prod.mk.injEq] at h
        obtain ⟨_, _, rfl, ⟨-, rfl⟩, rfl⟩ := h
        show Chronicle env m₁.world.2 _
        rw [hrecord]
        exact hr.deviceOpened
      · simp only [returns_bind] at h
        obtain ⟨made, m₂, hmake, h⟩ := h
        cases made with
        | error e =>
          simp only [returns_pure, Prod.mk.injEq] at h
          obtain ⟨⟨-, rfl⟩, rfl⟩ := h
          rw [makeServo_error hmake, hrecord]
          exact hr.deviceOpened
        | ok servo =>
          obtain ⟨hservo, hquiet, m₃, m₄, hplain⟩ := makeServo_ok hmake
          simp only [returns_bind, returns_log, returns_pure, Prod.mk.injEq] at h
          obtain ⟨_, _, rfl, ⟨-, rfl⟩, rfl⟩ := h
          obtain ⟨number, handle⟩ := handle
          obtain ⟨number', servo⟩ := servo
          obtain rfl : number = m.world.2.length := hnumber
          obtain rfl : number' = m.world.2.length := hservo
          show Chronicle env m₂.world.2 _
          rw [hquiet, hrecord]
          exact hr.push hplain

end Opening

/-! ### Operations -/

namespace Orchestrator

variable {o o' : Orchestrator (Numbered H) (Numbered S)} {m m' : Machine (W × Record ε)}

/-- Changing a clock in what corrections do not work on. -/
theorem modifyClock_chronicle {record : Record ε} {id : ClockId}
    {f : Clock (Numbered H) (Numbered S) → Clock (Numbered H) (Numbered S)}
    (h : Chronicle env record o.clocks)
    (hf : ∀ c, (f c).handle = c.handle ∧ (f c).tuning = c.tuning) :
    Chronicle env record (o.modifyClock id f).clocks := by
  refine h.kept fun other c' hc' => ?_
  rw [modifyClock_get?] at hc'
  obtain ⟨c, hc, rfl⟩ := Option.map_eq_some_iff.mp hc'
  refine ⟨c, hc, ?_⟩
  split
  · exact hf c
  · exact ⟨rfl, rfl⟩

theorem openClock_chronicle {name : String} {result : Except (SyncError ε) ClockId}
    (ho : Chronicle env m.world.2 o.clocks)
    (h : Returns (o.openClock env.recorded name) m (result, o') m') :
    Chronicle env m'.world.2 o'.clocks := by
  simp only [openClock, returns_bind] at h
  obtain ⟨⟨opened, clocks⟩, m₁, hcreate, h⟩ := h
  have hcreated := getOrCreate_chronicle ho hcreate
  cases opened with
  | error e =>
    simp only [returns_pure, Prod.mk.injEq] at h
    obtain ⟨⟨-, rfl⟩, rfl⟩ := h
    exact hcreated
  | ok id =>
    simp only [returns_pure, Prod.mk.injEq] at h
    obtain ⟨⟨-, rfl⟩, rfl⟩ := h
    exact modifyClock_chronicle (o := { o with clocks := clocks }) hcreated fun c => ⟨rfl, rfl⟩

theorem abandonSource_chronicle {device : String} {id : ClockId} {clocksBefore : Nat} {error : ε}
    (ho : Chronicle env m.world.2 o.clocks)
    (h : Returns (o.abandonSource env.recorded device id clocksBefore error) m o' m') :
    Chronicle env m'.world.2 o'.clocks := by
  simp only [abandonSource, returns_bind, returns_log] at h
  obtain ⟨_, _, rfl, h⟩ := h
  split at h
  · cases hdestroy : (o.clocks.destroy id o.sourceClock : Except (RegistryError ε) _) with
    | error e =>
      simp only [hdestroy, returns_bind, returns_log, returns_pure] at h
      obtain ⟨_, _, rfl, rfl, rfl⟩ := h
      exact ho
    | ok taken =>
      simp only [hdestroy, returns_pure] at h
      obtain ⟨rfl, rfl⟩ := h
      exact ho.destroy hdestroy
  · simp only [returns_pure] at h
    obtain ⟨rfl, rfl⟩ := h
    exact ho

theorem addSource_chronicle {config : SourceConfig} {result : Except (SyncError ε) ClockId}
    (ho : Chronicle env m.world.2 o.clocks)
    (h : Returns (o.addSource env.recorded config) m (result, o') m') :
    Chronicle env m'.world.2 o'.clocks := by
  unfold addSource at h
  split at h
  · simp only [returns_bind, returns_log, returns_pure, Prod.mk.injEq] at h
    obtain ⟨_, _, rfl, ⟨-, rfl⟩, rfl⟩ := h
    exact ho
  · simp only [returns_bind] at h
    obtain ⟨⟨opened, o₁⟩, m₁, hopen, h⟩ := h
    have hopened := openClock_chronicle ho hopen
    cases opened with
    | error e =>
      simp only [returns_pure, Prod.mk.injEq] at h
      obtain ⟨⟨-, rfl⟩, rfl⟩ := h
      exact hopened
    | ok id =>
      simp only [returns_bind, returns_checked] at h
      obtain ⟨source, _, ⟨-, rfl⟩, h⟩ := h
      split at h
      · simp only [returns_pure, Prod.mk.injEq] at h
        obtain ⟨⟨-, rfl⟩, rfl⟩ := h
        exact hopened
      · simp only [returns_bind] at h
        obtain ⟨ready, m₂, hsetup, h⟩ := h
        rw [← source.quiet_setup _ _ _ _ hsetup] at hopened
        cases ready with
        | error e =>
          simp only [returns_bind, returns_pure, Prod.mk.injEq] at h
          obtain ⟨o₂, m₃, habandon, ⟨-, rfl⟩, rfl⟩ := h
          exact abandonSource_chronicle hopened habandon
        | ok =>
          simp only [returns_bind, returns_log, returns_pure, Prod.mk.injEq] at h
          obtain ⟨_, _, rfl, ⟨-, rfl⟩, rfl⟩ := h
          exact modifyClock_chronicle hopened fun c => ⟨rfl, rfl⟩

theorem addPort_chronicle {number : UInt16} {device : String} {state : PortState}
    {result : Except (SyncError ε) ClockId} (ho : Chronicle env m.world.2 o.clocks)
    (h : Returns (o.addPort env.recorded number device state) m (result, o') m') :
    Chronicle env m'.world.2 o'.clocks := by
  simp only [addPort, returns_bind] at h
  obtain ⟨⟨opened, o₁⟩, m₁, hopen, h⟩ := h
  have hopened := openClock_chronicle ho hopen
  cases opened with
  | error e =>
    simp only [returns_pure, Prod.mk.injEq] at h
    obtain ⟨⟨-, rfl⟩, rfl⟩ := h
    exact hopened
  | ok id =>
    simp only [returns_bind, returns_pure, Prod.mk.injEq] at h
    obtain ⟨t, m₂, hadd, ⟨-, rfl⟩, rfl⟩ := h
    rwa [← Topology.quiet_addPort _ _ _ _ _ _ _ hadd] at hopened

theorem portStateChanged_chronicle {number : UInt16} {state : PortState} {known : Bool}
    (ho : Chronicle env m.world.2 o.clocks)
    (h : Returns (o.portStateChanged number state) m (known, o') m') :
    Chronicle env m'.world.2 o'.clocks := by
  unfold portStateChanged at h
  split at h
  · simp only [returns_pure, Prod.mk.injEq] at h
    obtain ⟨⟨-, rfl⟩, rfl⟩ := h
    exact ho
  · simp only [returns_bind, returns_pure, Prod.mk.injEq] at h
    obtain ⟨⟨known', t⟩, m₁, hchanged, ⟨-, rfl⟩, rfl⟩ := h
    rwa [← Topology.quiet_portStateChanged _ _ _ _ _ _ hchanged] at ho

theorem reconfigure_chronicle {selection : Option Selection}
    (ho : Chronicle env m.world.2 o.clocks)
    (h : Returns o.reconfigure m (selection, o') m') : Chronicle env m'.world.2 o'.clocks := by
  rw [quiet_reconfigure o _ _ _ h]
  refine ho.kept fun id c' hc' => ?_
  rcases reconfigure_cases h with ⟨-, rfl⟩ | ⟨t, selected, -, -, -, -, hclocks⟩
  · exact ⟨c', hc', rfl, rfl⟩
  · rw [hclocks] at hc'
    obtain ⟨c, hc, rfl⟩ := Option.map_eq_some_iff.mp hc'
    exact ⟨c, hc, rfl, rfl⟩

/-! ### Polling -/

theorem unlockClocks_record {ids : List ClockId} (ho : Chronicle env m.world.2 o.clocks)
    (h : Returns (o.unlockClocks env.recorded ids) m o' m') :
    Chronicle env m'.world.2 o'.clocks ∧ ∃ added, Adds m added m' := by
  induction ids generalizing o m with
  | nil =>
    simp only [unlockClocks, returns_pure] at h
    obtain ⟨rfl, rfl⟩ := h
    exact ⟨ho, [], adds_nil _⟩
  | cons id ids ih =>
    unfold unlockClocks at h
    cases hc : o.clocks.get? id with
    | none =>
      simp only [hc] at h
      exact ih ho h
    | some c =>
      simp only [hc] at h
      split at h
      · simp only [Clock.unlock, Environment.recorded, returns_bind, returns_log,
          returns_pure] at h
        obtain ⟨_, _, rfl, c', m₁, ⟨servo, _, ⟨plain, _, hreset, rfl, rfl⟩, rfl, rfl⟩, h⟩ := h
        have hadds := adds_of_recording hreset
        obtain ⟨next, hplain, rfl⟩ := returns_recording_iff.mp hreset
        obtain ⟨-, hnumber, hlife⟩ := ho.clock id c hc
        rw [hnumber] at hadds h
        have hturn : Chronicle env
            (m.world.2 ++ [ClockRequest.reset].map (Numbered.mk c.handle.number))
            (o.clocks.set id
              { c with servo := ⟨c.handle.number, plain⟩, servoState := .unlocked }) := by
          refine ho.turn hc ?_ ?_ (.reset hlife hplain)
          · rfl
          · exact hnumber.symm
        obtain ⟨ho', later, hlater⟩ := ih hturn h
        exact ⟨ho', _, Adds.trans hadds hlater⟩
      · exact ih ho h

theorem Collecting.chronicle {wait : Waiter W ε} {samples : List Sample}
    (h : Collecting env.recorded wait.beside o m samples o' m')
    (ho : Chronicle env m.world.2 o.clocks) : Chronicle env m'.world.2 o'.clocks := by
  rw [h.record]
  refine ho.kept fun id c' hc' => ?_
  obtain ⟨c, hc, -⟩ := Registry.get?_of_parts_eq (parts_of_setup_eq h.setup).symm hc'
  obtain rfl : _ = c' := Option.some.inj ((h.get? hc).symm.trans hc')
  exact ⟨c, hc, rfl, rfl⟩

/-- Polling that comes to an end as it should is quiet. -/
theorem poll_record {wait : Waiter W ε} {result : Except (SyncError ε) PollOutcome}
    (ho : Chronicle env m.world.2 o.clocks)
    (h : Returns (o.poll env.recorded wait.beside) m (result, o') m') :
    Chronicle env m'.world.2 o'.clocks ∧
      ∃ added, Adds m added m' ∧ (result = .ok .collected → added = []) := by
  obtain ⟨samples, o₁, m₁, hchain, ⟨rfl, rfl⟩ | ⟨rfl, hunlock⟩⟩ := poll_cases h
  · exact ⟨hchain.chronicle ho, [], hchain.record.trans (List.append_nil _).symm, fun _ => rfl⟩
  · obtain ⟨ho', added, hadds⟩ := unlockClocks_record (hchain.chronicle ho) hunlock
    rw [Adds, hchain.record] at hadds
    exact ⟨ho', added, hadds, fun hcollected => by cases hcollected⟩

theorem flushTimestamps_chronicle {record : Record ε} (ho : Chronicle env record o.clocks) :
    Chronicle env record o.flushTimestamps.clocks := by
  refine ho.kept fun id c' hc' => ?_
  rw [flushTimestamps, Registry.get?_map] at hc'
  obtain ⟨c, hc, rfl⟩ := Option.map_eq_some_iff.mp hc'
  exact ⟨c, hc, rfl, rfl⟩

/-! ### Correcting -/

theorem collectReference_chronicle {result : Except (SyncError ε) Unit}
    (ho : Chronicle env m.world.2 o.clocks)
    (h : Returns (o.collectReference env.recorded) m (result, o') m') :
    Chronicle env m'.world.2 o'.clocks := by
  rw [quiet_collectReference o _ _ _ h]
  cases result with
  | error e => rwa [collectReference_error h]
  | ok =>
    rcases collectReference_cases h with ⟨-, rfl⟩ | ⟨id, c, t, edge, m₁, -, hc, -, -, rfl⟩
    · exact ho
    · refine ho.kept fun other c' hc' => ?_
      by_cases hid : other = id
      · subst hid
        obtain rfl : _ = c' := Option.some.inj ((Registry.get?_set_self _ hc).symm.trans hc')
        exact ⟨c, hc, rfl, rfl⟩
      · exact ⟨c', (Registry.get?_set_of_ne _ hid).symm.trans hc', rfl, rfl⟩

theorem sourceTimestamp_chronicle {edge : Option Instant} (ho : Chronicle env m.world.2 o.clocks)
    (h : Returns (o.sourceTimestamp env.recorded) m (edge, o') m') :
    Chronicle env m'.world.2 o'.clocks := by
  rw [quiet_sourceTimestamp o _ _ _ h]
  by_cases hports : o.topology = none
  · rwa [(sourceTimestamp_free hports h).1]
  · refine ho.kept fun id c' hc' => ?_
    rw [(sourceTimestamp_ports hports h).2] at hc'
    obtain ⟨c, hc, rfl⟩ := Option.map_eq_some_iff.mp hc'
    refine ⟨c, hc, ?_⟩
    split <;> exact ⟨rfl, rfl⟩

theorem setFrequency_record {handle : Numbered H} {frequency : Float} {answer : Except ε Unit}
    (h : Returns (env.recorded.device.setFrequency handle frequency) m answer m') :
    Adds m [⟨handle.number, .frequency frequency answer⟩] m' := by
  have hrecording : Returns ((env.device.setFrequency handle.value frequency).recording
      fun answer => Numbered.mk handle.number (.frequency frequency answer)) m answer m' := h
  have hadds := adds_of_recording hrecording
  exact hadds

theorem step_record {handle : Numbered H} {offset : Duration} {answer : Except ε Unit}
    (h : Returns (env.recorded.device.step handle offset) m answer m') :
    Adds m [⟨handle.number, .step offset answer⟩] m' := by
  have hrecording : Returns ((env.device.step handle.value offset).recording
      fun answer => Numbered.mk handle.number (.step offset answer)) m answer m' := h
  have hadds := adds_of_recording hrecording
  exact hadds

theorem adjust_record {handle : Numbered H} {offset : Duration} {frequency : Float}
    {state : ServoState} {answer : Except ε Unit} (hstate : state ≠ .unlocked)
    (h : Returns (adjust env.recorded handle offset frequency state) m answer m') :
    ∃ (requests : List (ClockRequest ε)) (granted : Bool),
      Adds m (requests.map (Numbered.mk handle.number)) m' ∧
      Adjusted offset frequency state requests granted ∧
      (granted = true ↔ answer = .ok ()) := by
  by_cases hjump : state = .jump
  · subst hjump
    simp only [adjust, returns_bind] at h
    obtain ⟨set, m₁, hset, h⟩ := h
    have hset := setFrequency_record hset
    cases set with
    | error e =>
      obtain ⟨rfl, rfl⟩ := returns_pure.mp h
      exact ⟨[.frequency frequency (.error e)], false, hset, .refused hstate, by simp⟩
    | ok =>
      simp only [returns_bind, returns_checked] at h
      obtain ⟨back, _, ⟨hback, rfl⟩, hstep⟩ := h
      have hstep := hset.trans (step_record hstep)
      cases answer with
      | error e =>
        exact ⟨[.frequency frequency (.ok ()), .step back (.error e)], false, hstep, .stuck hback,
          by simp⟩
      | ok =>
        exact ⟨[.frequency frequency (.ok ()), .step back (.ok ())], true, hstep, .stepped hback,
          by simp⟩
  · have hlocked : state.isLocked = true := by
      cases state <;> simp_all [ServoState.isLocked]
    have hset : Returns (env.recorded.device.setFrequency handle frequency) m answer m' := by
      cases state <;> first | exact h | exact absurd rfl hjump
    have hset := setFrequency_record hset
    cases answer with
    | error e => exact ⟨[.frequency frequency (.error e)], false, hset, .refused hstate, by simp⟩
    | ok => exact ⟨[.frequency frequency (.ok ())], true, hset, .given hlocked, by simp⟩

theorem sample_record {s : Numbered S} {offset localNanos : Int64} {weight adjustment : Float}
    {state : ServoState} {servo : Numbered S}
    (h : Returns (env.recorded.servo.sample s offset localNanos weight) m
      ((adjustment, state), servo) m') :
    Adds m [⟨s.number, .sampled offset adjustment state⟩] m' ∧ servo.number = s.number ∧
      ∃ m₀ m₁, Returns (env.servo.sample s.value offset localNanos weight) m₀
        ((adjustment, state), servo.value) m₁ := by
  simp only [Environment.recorded, returns_bind, returns_pure, Prod.mk.injEq] at h
  obtain ⟨⟨_, plain⟩, _, hsample, ⟨rfl, rfl⟩, rfl⟩ := h
  obtain ⟨next, hplain, -⟩ := returns_recording_iff.mp hsample
  have hadds := adds_of_recording hsample
  exact ⟨hadds, rfl, _, _, hplain⟩

theorem steer_record {id : ClockId} {c c' : Clock (Numbered H) (Numbered S)} {offset : Duration}
    {t : Instant} {weight : Float} {report : ClockReport}
    (hnumber : c.servo.number = c.handle.number)
    (h : Returns (steer env.recorded id c offset t weight) m (report, c') m') :
    ∃ added, Adds m (added.map (Numbered.mk c.handle.number)) m' ∧
      Steered env c.tuning.plain added c'.tuning.plain report.frequency ∧
      c'.handle = c.handle ∧ c'.servo.number = c.servo.number := by
  simp only [steer, returns_bind, returns_log] at h
  obtain ⟨⟨⟨adjustment, state⟩, servo⟩, m₁, hsample, _, _, rfl, h⟩ := h
  obtain ⟨hsampled, hservo, m₀, m₂, hplain⟩ := sample_record hsample
  rw [hnumber] at hsampled
  split at h
  · next hunlocked =>
    obtain rfl : state = .unlocked := hunlocked
    simp only [returns_pure, Prod.mk.injEq] at h
    obtain ⟨⟨rfl, rfl⟩, rfl⟩ := h
    exact ⟨[.sampled offset.nanos adjustment .unlocked], hsampled, .fed hplain .unlocked, rfl,
      hservo⟩
  · next hstate =>
    simp only [returns_bind] at h
    obtain ⟨answer, m₃, hadjust, h⟩ := h
    obtain ⟨requests, granted, hadds, hadjusted, hgranted⟩ := adjust_record hstate hadjust
    have hadded := hsampled.noted.trans hadds
    have hfed := Steered.fed (t := c.tuning.plain) hplain hadjusted
    cases answer with
    | ok =>
      simp only [returns_pure, Prod.mk.injEq] at h
      obtain ⟨⟨rfl, rfl⟩, rfl⟩ := h
      rw [hgranted.mpr rfl] at hfed
      exact ⟨.sampled offset.nanos adjustment state :: requests, hadded, hfed, rfl, hservo⟩
    | error e =>
      simp only [returns_bind, returns_log, returns_pure, Prod.mk.injEq] at h
      obtain ⟨_, _, rfl, ⟨rfl, rfl⟩, rfl⟩ := h
      have hfalse : granted = false := by simpa using hgranted
      rw [hfalse] at hfed
      exact ⟨.sampled offset.nanos adjustment state :: requests, hadded.noted, hfed, rfl, hservo⟩

theorem synchronizeClock_record {id : ClockId} {c c' : Clock (Numbered H) (Numbered S)}
    {t sourceTime : Instant} {weight : Float} {report : ClockReport}
    {requests : List (ClockRequest ε)} (hnumber : c.servo.number = c.handle.number)
    (hlife : Life env requests c.tuning.plain)
    (h : Returns (synchronizeClock env.recorded id c t sourceTime weight) m (report, c') m') :
    ∃ added, Adds m (added.map (Numbered.mk c.handle.number)) m' ∧
      Reported env added report.frequency ∧ Life env (requests ++ added) c'.tuning.plain ∧
      c'.handle = c.handle ∧ c'.servo.number = c.servo.number := by
  simp only [synchronizeClock, returns_bind, returns_checked] at h
  obtain ⟨offset, _, ⟨-, rfl⟩, h⟩ := h
  split at h
  · simp only [returns_bind, returns_log, returns_pure, Prod.mk.injEq] at h
    obtain ⟨_, _, rfl, ⟨rfl, rfl⟩, rfl⟩ := h
    refine ⟨[], adds_nil _, .measured rfl rfl, ?_, rfl, rfl⟩
    rw [List.append_nil]
    exact hlife.measured offset
  · have hmeasured : Life env requests (Clock.tuning { c with lastOffset := some offset }).plain :=
      hlife.measured offset
    obtain ⟨added, hadds, hsteered, hhandle, hservo⟩ :=
      steer_record (c := { c with lastOffset := some offset }) hnumber h
    exact ⟨added, hadds, .steered hsteered, hmeasured.steered hsteered, hhandle, hservo⟩

/-- The turn of a clock puts on record what is asked for its report, under its
    own number. -/
theorem correctOne_record {sourceTime : Instant} {id : ClockId} {reports : List ClockReport}
    (ho : Chronicle env m.world.2 o.clocks)
    (h : Returns (o.correctOne env.recorded sourceTime id) m (reports, o') m') :
    Chronicle env m'.world.2 o'.clocks ∧
    ((reports = [] ∧ Adds m [] m') ∨
      ∃ c added report, o.clocks.get? id = some c ∧ reports = [report] ∧ report.clock = id ∧
        Adds m (added.map (Numbered.mk c.handle.number)) m' ∧
        Reported env added report.frequency) := by
  have hidle {m' : Machine (W × Record ε)} (hsame : m'.world.2 = m.world.2) :
      Chronicle env m'.world.2 o.clocks ∧ Adds m [] m' := by
    refine ⟨by rwa [hsame], ?_⟩
    rw [Adds, List.append_nil, hsame]
  unfold correctOne at h
  cases hc : o.clocks.get? id with
  | none =>
    simp only [hc, returns_pure, Prod.mk.injEq] at h
    obtain ⟨⟨rfl, rfl⟩, rfl⟩ := h
    exact (hidle rfl).imp_right fun hadds => .inl ⟨rfl, hadds⟩
  | some c =>
    simp only [hc] at h
    split at h
    · simp only [returns_pure, Prod.mk.injEq] at h
      obtain ⟨⟨rfl, rfl⟩, rfl⟩ := h
      exact (hidle rfl).imp_right fun hadds => .inl ⟨rfl, hadds⟩
    · cases ht : c.timestamp with
      | none =>
        simp only [ht, returns_bind, returns_log, returns_pure, Prod.mk.injEq] at h
        obtain ⟨_, _, rfl, ⟨rfl, rfl⟩, rfl⟩ := h
        exact (hidle rfl).imp_right fun hadds => .inl ⟨rfl, hadds⟩
      | some t =>
        simp only [ht, returns_bind, returns_pure, Prod.mk.injEq] at h
        obtain ⟨⟨report, c'⟩, m₁, hsync, ⟨rfl, rfl⟩, rfl⟩ := h
        obtain ⟨-, hnumber, hlife⟩ := ho.clock id c hc
        obtain ⟨added, hadds, hreported, hlife', hhandle, hservo⟩ :=
          synchronizeClock_record (c := c.flushTimestamp) hnumber hlife hsync
        refine ⟨?_, .inr ⟨c, added, report, rfl, rfl, (synchronizeClock_cases hsync).1, hadds,
          hreported⟩⟩
        rw [show m'.world.2 = _ from hadds]
        exact ho.turn (c := c) hc hhandle hservo hlife'

/-- Correcting one clock after the other puts on record what is asked for the
    reports, and nothing of any other device. -/
theorem synchronizeClocks_record {sourceTime : Instant} {ids : List ClockId}
    {reports : List ClockReport} (hnodup : ids.Nodup) (ho : Chronicle env m.world.2 o.clocks)
    (h : Returns (o.synchronizeClocks env.recorded sourceTime ids) m (reports, o') m') :
    Chronicle env m'.world.2 o'.clocks ∧ ∃ added, Adds m added m' ∧
      (∀ report ∈ reports, report.clock ∈ ids ∧ ∃ c, o.clocks.get? report.clock = some c ∧
        Reported env (Record.of added c.handle.number) report.frequency) ∧
      ∀ r ∈ added, ∃ id ∈ ids, ∃ c, o.clocks.get? id = some c ∧ c.handle.number = r.number := by
  induction ids generalizing o m reports with
  | nil =>
    simp only [synchronizeClocks, returns_pure, Prod.mk.injEq] at h
    obtain ⟨⟨rfl, rfl⟩, rfl⟩ := h
    exact ⟨ho, [], adds_nil _, by simp, by simp⟩
  | cons id ids ih =>
    obtain ⟨hid, hnodup⟩ := List.nodup_cons.mp hnodup
    obtain ⟨first, rest, o₁, m₁, rfl, hfirst, hrest⟩ := returns_synchronizeClocks_cons.mp h
    obtain ⟨ho₁, hturn⟩ := correctOne_record ho hfirst
    obtain ⟨ho', later, hlater, hreports, hothers⟩ := ih hnodup ho₁ hrest
    refine ⟨ho', ?_⟩
    have hback : ∀ other c₁, o₁.clocks.get? other = some c₁ →
        ∃ c, o.clocks.get? other = some c ∧ c.handle = c₁.handle := by
      intro other c₁ hc₁
      have hparts := parts_of_setup_eq (correctOne_setup hfirst)
      obtain ⟨c, hc, hpart⟩ := Registry.get?_of_parts_eq hparts.symm hc₁
      exact ⟨c, hc, congrArg ClockPart.handle hpart⟩
    have hlaterOwn : ∀ r ∈ later, ∃ other ∈ ids, ∃ c, o.clocks.get? other = some c ∧
        c.handle.number = r.number := by
      intro r hr
      obtain ⟨other, hother, c₁, hc₁, hnumber⟩ := hothers r hr
      obtain ⟨c, hc, hhandle⟩ := hback other c₁ hc₁
      exact ⟨other, hother, c, hc, by rwa [hhandle]⟩
    have hlaterReports : ∀ report ∈ rest, report.clock ∈ ids ∧
        ∃ c, o.clocks.get? report.clock = some c ∧
          Reported env (Record.of later c.handle.number) report.frequency := by
      intro report hreport
      obtain ⟨hlisted, c₁, hc₁, hreported⟩ := hreports report hreport
      obtain ⟨c, hc, hhandle⟩ := hback report.clock c₁ hc₁
      exact ⟨hlisted, c, hc, by rwa [hhandle]⟩
    rcases hturn with ⟨rfl, hadds⟩ | ⟨c, own, report, hc, rfl, rfl, hadds, hreported⟩
    · refine ⟨later, hadds.trans hlater, ?_, ?_⟩
      · intro report hreport
        obtain ⟨hlisted, hclock⟩ := hlaterReports report hreport
        exact ⟨List.mem_cons_of_mem _ hlisted, hclock⟩
      · intro r hr
        obtain ⟨other, hother, hclock⟩ := hlaterOwn r hr
        exact ⟨other, List.mem_cons_of_mem _ hother, hclock⟩
    -- no clock that comes later has the number of this one
    · have hdiffer : ∀ other ∈ ids, ∀ c', o.clocks.get? other = some c' →
          c.handle.number ≠ c'.handle.number := by
        intro other hother c' hc' hnumber
        exact hid (ho.distinct _ _ _ _ hc hc' hnumber ▸ hother)
      refine ⟨own.map (Numbered.mk c.handle.number) ++ later, hadds.trans hlater, ?_, ?_⟩
      · intro other hother
        rcases List.mem_append.mp hother with hother | hother
        · obtain rfl := List.mem_singleton.mp hother
          refine ⟨List.mem_cons_self, c, hc, ?_⟩
          have hnone : Record.of later c.handle.number = [] := by
            refine Record.of_eq_nil fun r hr hnumber => ?_
            obtain ⟨other, hother, c', hc', hnumber'⟩ := hlaterOwn r hr
            exact hdiffer other hother c' hc' (hnumber'.trans hnumber).symm
          rwa [Record.of_append, Record.of_numbered, if_pos rfl, hnone, List.append_nil]
        · obtain ⟨hlisted, c', hc', hreported'⟩ := hlaterReports other hother
          refine ⟨List.mem_cons_of_mem _ hlisted, c', hc', ?_⟩
          rwa [Record.of_append, Record.of_numbered, if_neg (hdiffer _ hlisted c' hc'),
            List.nil_append]
      · intro r hr
        rcases List.mem_append.mp hr with hr | hr
        · obtain ⟨_, -, rfl⟩ := List.mem_map.mp hr
          exact ⟨report.clock, List.mem_cons_self, c, hc, rfl⟩
        · obtain ⟨other, hother, hclock⟩ := hlaterOwn r hr
          exact ⟨other, List.mem_cons_of_mem _ hother, hclock⟩

/-- What a step puts on record, with its reports: they come about by the requests
    to their own devices. -/
structure OnRecord (env : Environment W H S ε) (m : Machine (W × Record ε))
    (reports : List ClockReport) (o' : Orchestrator (Numbered H) (Numbered S))
    (m' : Machine (W × Record ε)) : Prop where
  chronicle : Chronicle env m'.world.2 o'.clocks
  reported : ∃ added, Adds m added m' ∧ ∀ report ∈ reports,
    ∃ c, o'.clocks.get? report.clock = some c ∧
      Reported env (Record.of added c.handle.number) report.frequency

theorem OnRecord.unreported {m m' : Machine (W × Record ε)} {added : Record ε}
    (ho : Chronicle env m'.world.2 o'.clocks) (hadds : Adds m added m') :
    OnRecord env m [] o' m' :=
  ⟨ho, added, hadds, by simp⟩

theorem synchronize_record {reports : List ClockReport} (ho : Chronicle env m.world.2 o.clocks)
    (h : Returns (o.synchronize env.recorded) m (reports, o') m') :
    OnRecord env m reports o' m' := by
  simp only [synchronize, returns_bind] at h
  obtain ⟨⟨edge, o₁⟩, m₁, hsource, h⟩ := h
  have ho₁ := sourceTimestamp_chronicle ho hsource
  have hquiet := quiet_sourceTimestamp o _ _ _ hsource
  cases edge with
  | none =>
    simp only [returns_pure, Prod.mk.injEq] at h
    obtain ⟨⟨rfl, rfl⟩, rfl⟩ := h
    exact .unreported ho₁ (hquiet.trans (List.append_nil _).symm)
  | some t =>
    obtain ⟨ho', added, hadds, hreports, -⟩ :=
      synchronizeClocks_record (Registry.nodup_ids _) ho₁ h
    rw [Adds, hquiet] at hadds
    refine ⟨ho', added, hadds, fun report hreport => ?_⟩
    obtain ⟨-, c₁, hc₁, hreported⟩ := hreports report hreport
    have hparts := parts_of_setup_eq (synchronizeClocks_setup h)
    obtain ⟨c, hc, hpart⟩ := Registry.get?_of_parts_eq hparts hc₁
    have hhandle : c.handle = c₁.handle := congrArg ClockPart.handle hpart
    exact ⟨c, hc, by rwa [hhandle]⟩

/-- A cycle adds to the record, and its reports are on what it adds. -/
theorem runCycle_record {wait : Waiter W ε}
    {result : Except (SyncError ε) (List ClockReport)} (ho : Chronicle env m.world.2 o.clocks)
    (h : Returns (o.runCycle env.recorded wait.beside) m (result, o') m') :
    OnRecord env m (result.toOption.getD []) o' m' := by
  simp only [runCycle, returns_bind] at h
  obtain ⟨⟨selection, o₁⟩, m₁, hselect, ⟨outcome, o₂⟩, m₂, hpoll, h⟩ := h
  have ho₁ := flushTimestamps_chronicle (reconfigure_chronicle ho hselect)
  obtain ⟨ho₂, added, hadds, hcollected⟩ := poll_record ho₁ hpoll
  rw [Adds, quiet_reconfigure o _ _ _ hselect] at hadds
  cases outcome with
  | error e =>
    simp only [returns_pure, Prod.mk.injEq] at h
    obtain ⟨⟨rfl, rfl⟩, rfl⟩ := h
    exact .unreported ho₂ hadds
  | ok outcome =>
    cases outcome with
    | ambiguous | timeout =>
      simp only [returns_pure, Prod.mk.injEq] at h
      obtain ⟨⟨rfl, rfl⟩, rfl⟩ := h
      exact .unreported ho₂ hadds
    | collected =>
      obtain rfl := hcollected rfl
      simp only [returns_bind] at h
      obtain ⟨⟨stamped, o₃⟩, m₃, hstamp, h⟩ := h
      have ho₃ := collectReference_chronicle ho₂ hstamp
      have hadds₃ : Adds m [] m₃ := (quiet_collectReference o₂ _ _ _ hstamp).trans hadds
      cases stamped with
      | error e =>
        simp only [returns_pure, Prod.mk.injEq] at h
        obtain ⟨⟨rfl, rfl⟩, rfl⟩ := h
        exact .unreported ho₃ hadds₃
      | ok =>
        simp only [returns_bind, returns_pure, Prod.mk.injEq] at h
        obtain ⟨⟨reports, o₄⟩, m₄, hsync, ⟨rfl, rfl⟩, rfl⟩ := h
        obtain ⟨ho', later, hlater, hreports⟩ := synchronize_record ho₃ hsync
        exact ⟨ho', later, hadds₃.trans hlater, hreports⟩

/-! ### Runs -/

/-- One operation on record, whatever its result. -/
inductive Operation (env : Environment W H S ε) :
    Orchestrator (Numbered H) (Numbered S) → Machine (W × Record ε) →
    Orchestrator (Numbered H) (Numbered S) → Machine (W × Record ε) → Prop where
  | openClock {o o' : Orchestrator (Numbered H) (Numbered S)} {m m' : Machine (W × Record ε)}
      {name : String} {result : Except (SyncError ε) ClockId} :
      Returns (o.openClock env.recorded name) m (result, o') m' → Operation env o m o' m'
  | addSource {o o' : Orchestrator (Numbered H) (Numbered S)} {m m' : Machine (W × Record ε)}
      {config : SourceConfig} {result : Except (SyncError ε) ClockId} :
      Returns (o.addSource env.recorded config) m (result, o') m' → Operation env o m o' m'
  | addPort {o o' : Orchestrator (Numbered H) (Numbered S)} {m m' : Machine (W × Record ε)}
      {number : UInt16} {device : String} {state : PortState}
      {result : Except (SyncError ε) ClockId} :
      Returns (o.addPort env.recorded number device state) m (result, o') m' →
      Operation env o m o' m'
  | portStateChanged {o o' : Orchestrator (Numbered H) (Numbered S)}
      {m m' : Machine (W × Record ε)} {number : UInt16} {state : PortState} {known : Bool} :
      Returns (o.portStateChanged number state) m (known, o') m' → Operation env o m o' m'
  | reconfigure {o o' : Orchestrator (Numbered H) (Numbered S)} {m m' : Machine (W × Record ε)}
      {selection : Option Selection} :
      Returns o.reconfigure m (selection, o') m' → Operation env o m o' m'
  | arm {o : Orchestrator (Numbered H) (Numbered S)} {m m' : Machine (W × Record ε)}
      {result : Except (SyncError ε) Unit} :
      Returns (o.arm env.recorded) m result m' → Operation env o m o m'
  | poll {o o' : Orchestrator (Numbered H) (Numbered S)} {m m' : Machine (W × Record ε)}
      {wait : Waiter W ε} {result : Except (SyncError ε) PollOutcome} :
      Returns (o.poll env.recorded wait.beside) m (result, o') m' → Operation env o m o' m'
  | collectReference {o o' : Orchestrator (Numbered H) (Numbered S)}
      {m m' : Machine (W × Record ε)} {result : Except (SyncError ε) Unit} :
      Returns (o.collectReference env.recorded) m (result, o') m' → Operation env o m o' m'
  | synchronize {o o' : Orchestrator (Numbered H) (Numbered S)} {m m' : Machine (W × Record ε)}
      {reports : List ClockReport} :
      Returns (o.synchronize env.recorded) m (reports, o') m' → Operation env o m o' m'
  | runCycle {o o' : Orchestrator (Numbered H) (Numbered S)} {m m' : Machine (W × Record ε)}
      {wait : Waiter W ε} {result : Except (SyncError ε) (List ClockReport)} :
      Returns (o.runCycle env.recorded wait.beside) m (result, o') m' → Operation env o m o' m'

theorem Operation.chronicle (h : Operation env o m o' m') (ho : Chronicle env m.world.2 o.clocks) :
    Chronicle env m'.world.2 o'.clocks := by
  cases h with
  | openClock h => exact openClock_chronicle ho h
  | addSource h => exact addSource_chronicle ho h
  | addPort h => exact addPort_chronicle ho h
  | portStateChanged h => exact portStateChanged_chronicle ho h
  | reconfigure h => exact reconfigure_chronicle ho h
  | arm h => rwa [quiet_armSources o _ _ _ _ h]
  | poll h => exact (poll_record ho h).1
  | collectReference h => exact collectReference_chronicle ho h
  | synchronize h => exact (synchronize_record ho h).chronicle
  | runCycle h => exact (runCycle_record ho h).chronicle

/-- Clocks that were opened, and destroyed, before there was an orchestrator. -/
inductive Registered (env : Environment W H S ε) :
    Record ε → Registry (Numbered H) (Numbered S) → Prop where
  | empty : Registered env [] .empty
  | opened {r r' : Registry (Numbered H) (Numbered S)} {m m' : Machine (W × Record ε)}
      {name : String} {result : Except (RegistryError ε) ClockId} :
      Registered env m.world.2 r → Returns (r.getOrCreate env.recorded name) m (result, r') m' →
      Registered env m'.world.2 r'
  | destroyed {r r' : Registry (Numbered H) (Numbered S)} {record : Record ε} {id : ClockId}
      {source : Option ClockId} {c : Clock (Numbered H) (Numbered S)} :
      Registered env record r → (r.destroy id source : Except (RegistryError ε) _) = .ok (c, r') →
      Registered env record r'

/-- An orchestrator after any operations, with the record of all of them.  Between
    two operations the world may change in any way, the record does not. -/
inductive Run (env : Environment W H S ε) :
    Record ε → Orchestrator (Numbered H) (Numbered S) → Prop where
  | start {record : Record ε} {clocks : Registry (Numbered H) (Numbered S)} (config : SyncConfig)
      (reference : Reference) :
      Registered env record clocks → Run env record (start config clocks reference)
  | step {o o' : Orchestrator (Numbered H) (Numbered S)} {m m' : Machine (W × Record ε)} :
      Run env m.world.2 o → Operation env o m o' m' → Run env m'.world.2 o'

/-- Another world than the one that was left will do for the next operation. -/
theorem Run.next {record : Record ε} (h : Run env record o) (hoperation : Operation env o m o' m')
    (hrecord : m.world.2 = record) : Run env m'.world.2 o' := by
  subst hrecord
  exact h.step hoperation

theorem Registered.chronicle {record : Record ε} {clocks : Registry (Numbered H) (Numbered S)}
    (h : Registered env record clocks) : Chronicle env record clocks := by
  induction h with
  | empty => exact .empty
  | opened _ h ih => exact getOrCreate_chronicle ih h
  | destroyed _ hdestroy ih => exact ih.destroy hdestroy

/-- All clocks of a run live by their own requests. -/
theorem Run.chronicle {record : Record ε} (h : Run env record o) :
    Chronicle env record o.clocks := by
  induction h with
  | start config reference h => exact h.chronicle
  | step _ hoperation ih => exact hoperation.chronicle ih

end Orchestrator

end ClockDiscipline
