/-
  ClockDiscipline/Proofs/BenchApart.lean
  ======================================
  **Two benches that differ in one device.**

  Time goes on there whenever it is read.  Requests to all other devices go
  side by side on such benches (`movingBench_lockstep`).  What the one device
  is asked comes down to what it does to that device, so whether the benches
  stay apart in the same way is a matter of that device alone.
-/
import ClockDiscipline.Proofs.Asides
import ClockDiscipline.Proofs.ReadyOrder

namespace ClockDiscipline

open ClockDiscipline.Action

namespace Orchestrator

/-! ### A bench on which time goes on -/

/-- The bench after a microsecond. -/
def microsecondLater (w : Bench.World) : Bench.World :=
  { w with systemTime := Bench.moved w.systemTime ⟨1000⟩ }

/-- The time of the system goes on whenever it is read. -/
def movingBench : Environment Bench.World Nat PiServo Bench.Failure :=
  { steeredBench {} with systemTime := perform fun w => (w.systemTime, microsecondLater w) }

/-- The bench after a device was asked for an event in vain.  That takes as long as it
    would have taken to read the time for the event. -/
def missed (position : Nat) (w : Bench.World) : Bench.World :=
  let dropped := w.modify position dropEvent
  if 0 < w.queued position then microsecondLater dropped else dropped

/-- The same bench, where one device can not be asked for events. -/
def deafBench (bad : Nat) : Environment Bench.World Nat PiServo Bench.Failure :=
  { movingBench with device := { movingBench.device with
      nextEvent := fun position =>
        if position = bad then perform fun w => (.error (.failed .nextEvent), missed bad w)
        else movingBench.device.nextEvent position } }

/-! ### Benches side by side -/

/-- The same bench but for the device at one position, in which the two are related. -/
structure BenchApart (D : Bench.Device → Bench.Device → Prop) (bad : Nat)
    (w w' : Bench.World) : Prop where
  devices : ∀ p, p ≠ bad → w'.devices[p]? = w.devices[p]?
  own : ∃ d d', w.devices[bad]? = some d ∧ w'.devices[bad]? = some d' ∧ D d d'
  systemTime : w'.systemTime = w.systemTime
  script : w'.script = w.script
  waits : w'.waits = w.waits

variable {α : Type} {D : Bench.Device → Bench.Device → Prop} {position : Nat} {w w' : Bench.World}
  {f f' : Bench.Device → Bench.Device}

theorem getElem?_modify_of_ne {p q : Nat} (hne : q ≠ p) (w : Bench.World) :
    (w.modify p f).devices[q]? = w.devices[q]? := by
  simp [Bench.World.modify, hne.symm]

theorem getElem?_modify_own (w : Bench.World) (p : Nat) :
    (w.modify p f).devices[p]? = (w.devices[p]?).map f := by
  simp [Bench.World.modify]

theorem BenchApart.modify {p : Nat} (h : BenchApart D position w w') (hp : p ≠ position) :
    BenchApart D position (w.modify p f) (w'.modify p f) where
  devices q hq := by
    by_cases heq : q = p
    · subst heq
      rw [getElem?_modify_own, getElem?_modify_own, h.devices q hq]
    · rw [getElem?_modify_of_ne heq, getElem?_modify_of_ne heq, h.devices q hq]
  own := by
    rw [getElem?_modify_of_ne hp.symm, getElem?_modify_of_ne hp.symm]
    exact h.own
  systemTime := h.systemTime
  script := h.script
  waits := h.waits

theorem BenchApart.modifyOwn (h : BenchApart D position w w')
    (hf : ∀ d d', D d d' → D (f d) (f' d')) :
    BenchApart D position (w.modify position f) (w'.modify position f') where
  devices q hq := by
    rw [getElem?_modify_of_ne hq, getElem?_modify_of_ne hq, h.devices q hq]
  own := by
    obtain ⟨d, d', hd, hd', hD⟩ := h.own
    refine ⟨f d, f' d', ?_, ?_, hf d d' hD⟩
    · rw [getElem?_modify_own, hd, Option.map_some]
    · rw [getElem?_modify_own, hd', Option.map_some]
  systemTime := h.systemTime
  script := h.script
  waits := h.waits

theorem BenchApart.modifyFirst (h : BenchApart D position w w')
    (hf : ∀ d d', D d d' → D (f d) d') : BenchApart D position (w.modify position f) w' := by
  have hown : BenchApart D position (w.modify position f) (w'.modify position id) := h.modifyOwn hf
  rwa [modify_id] at hown

theorem request_simulates {p : Nat} (hp : p ≠ position) (method : Bench.Method)
    (answer : Bench.Device → α) {effect : Bench.Device → Bench.World → Bench.World}
    (heffect : ∀ d w w', BenchApart D position w w' →
      BenchApart D position (effect d w) (effect d w')) :
    Simulates (OnWorlds (BenchApart D position)) Eq (Bench.request method answer effect p)
      (Bench.request method answer effect p) := by
  intro m n x m' hT h
  replace hT : BenchApart D position m.world n.world := hT
  obtain ⟨rfl, rfl⟩ := returns_perform.mp h
  refine ⟨_, _, returns_perform.mpr ⟨rfl, rfl⟩, ?_, ?_⟩
  · rw [hT.devices p hp]
    split
    · rfl
    · split <;> rfl
  · simp only [OnWorlds]
    rw [hT.devices p hp]
    split
    · exact hT
    · split
      · exact hT
      · exact heffect _ _ _ hT

theorem command_simulates {p : Nat} (hp : p ≠ position) (method : Bench.Method)
    (call : Bench.Device → Bench.Call) (f : Bench.Device → Bench.Device) :
    Simulates (OnWorlds (BenchApart D position)) Eq (Bench.command method call f p)
      (Bench.command method call f p) :=
  request_simulates hp method _ fun _ _ _ h =>
    ⟨(h.modify hp).devices, (h.modify hp).own, h.systemTime, h.script, h.waits⟩

theorem command_aside (method : Bench.Method) (call : Bench.Device → Bench.Call)
    (hf : ∀ d d', D d d' → D (f d) d') :
    Aside (BenchApart D position) (Bench.command method call f position) := by
  intro m w' x m' hT h
  rw [Bench.command, Bench.request] at h
  obtain ⟨-, rfl⟩ := returns_perform.mp h
  dsimp only
  split
  · exact hT
  · split
    · exact hT
    · have hown := hT.modifyFirst hf
      exact ⟨hown.devices, hown.own, hown.systemTime, hown.script, hown.waits⟩

/-- A command that is refused in the second run. -/
theorem command_refused {Q : Except Bench.Failure Unit → Except Bench.Failure Unit → Prop}
    (method : Bench.Method) (call : Bench.Device → Bench.Call)
    (hf : ∀ d d', D d d' → D (f d) d')
    (hfails : ∀ d d', D d d' → d'.failing.contains method = true)
    (hQ : ∀ x e, Q x (.error e)) :
    Simulates (OnWorlds (BenchApart D position)) Q (Bench.command method call f position)
      (Bench.command method call f position) := by
  intro m n x m' hT h
  refine ⟨.error (.failed method), n, ?_, hQ _ _, command_aside method call hf m n.world x m' hT h⟩
  obtain ⟨d, d', -, hd', hD⟩ := hT.own
  rw [Bench.command, Bench.request, returns_perform]
  simp only [hd', hfails d d' hD, if_true, and_self]

theorem movingBench_nextEvent (position : Nat) :
    movingBench.device.nextEvent position =
      perform fun w => (eventOf w.devices[position]?, w.modify position dropEvent) := by
  have hdevice : movingBench.device = (steeredBench {}).device := rfl
  rw [hdevice, request_nextEvent]

theorem nextEvent_own {Q : Except Bench.Failure (Option EdgeEvent) →
      Except Bench.Failure (Option EdgeEvent) → Prop}
    (hdrop : ∀ d d', D d d' → D (dropEvent d) (dropEvent d'))
    (hQ : ∀ d d', D d d' → Q (eventOf (some d)) (eventOf (some d'))) :
    Simulates (OnWorlds (BenchApart D position)) Q (movingBench.device.nextEvent position)
      (movingBench.device.nextEvent position) := by
  rw [movingBench_nextEvent]
  intro m n x m' hT h
  obtain ⟨rfl, rfl⟩ := returns_perform.mp h
  refine ⟨_, _, returns_perform.mpr ⟨rfl, rfl⟩, ?_, hT.modifyOwn hdrop⟩
  obtain ⟨d, d', hd, hd', hD⟩ := hT.own
  rw [hd, hd']
  exact hQ d d' hD

theorem BenchApart.later (h : BenchApart D position w w') :
    BenchApart D position (microsecondLater w) (microsecondLater w') := by
  unfold microsecondLater
  exact ⟨h.devices, h.own, by rw [h.systemTime], h.script, h.waits⟩

theorem movingBench_systemTime :
    movingBench.systemTime = perform fun w => (w.systemTime, microsecondLater w) := rfl

theorem movingBench_sample (servo : PiServo) (offset localNanos : Int64) (weight : Float) :
    movingBench.servo.sample servo offset localNanos weight =
      servo.sampleNoted offset localNanos weight := rfl

theorem movingBench_lockstep (D : Bench.Device → Bench.Device → Prop) (position : Nat) :
    Lockstep (OnWorlds (BenchApart D position)) movingBench movingBench (· ≠ position) where
  noted _ _ _ _ hT := hT
  now _ hp := request_simulates hp .now _ fun _ _ _ h => h
  nextEvent _ hp := request_simulates hp .nextEvent _ fun _ _ _ h => h.modify hp
  setFrequency _ _ hp := command_simulates hp _ _ _
  step _ _ hp := command_simulates hp _ _ _
  sample servo offset localNanos weight := by
    rw [movingBench_sample]
    simp only [PiServo.sampleNoted]
    split
    · exact ((simulates_pure rfl).logSecond _ _).logFirst _ _
    · exact simulates_pure rfl
  reset _ := simulates_pure rfl
  systemTime := by
    rw [movingBench_systemTime]
    intro m n x m' hT h
    obtain ⟨rfl, rfl⟩ := returns_perform.mp h
    replace hT : BenchApart D position m.world n.world := hT
    exact ⟨_, _, returns_perform.mpr ⟨rfl, rfl⟩, hT.systemTime.symm, hT.later⟩
  frequency := rfl
  errorText := rfl
  patience := rfl

theorem deafBench_nextEvent (bad : Nat) (n : Machine Bench.World) :
    Returns ((deafBench bad).device.nextEvent bad) n (.error (.failed .nextEvent))
      ⟨missed bad n.world, n.journal⟩ := by
  have hdeaf : (deafBench bad).device.nextEvent bad =
      perform fun w => (.error (.failed .nextEvent), missed bad w) := if_pos rfl
  rw [hdeaf]
  exact returns_perform.mpr ⟨rfl, rfl⟩

/-- That one device is deaf makes no difference to the requests to the others. -/
theorem deafBench_lockstep (D : Bench.Device → Bench.Device → Prop) (position : Nat) :
    Lockstep (OnWorlds (BenchApart D position)) movingBench (deafBench position)
      (· ≠ position) :=
  { movingBench_lockstep D position with
    nextEvent := fun p hp => by
      have hsame : (deafBench position).device.nextEvent p = movingBench.device.nextEvent p :=
        if_neg hp
      rw [hsame]
      exact (movingBench_lockstep D position).nextEvent p hp }

theorem movingBench_aloneWith
    (hfrequency : ∀ d d' frequency, D d d' → D { d with frequency := frequency } d')
    (htime : ∀ d d' time, D d d' → D { d with time := time } d') :
    AloneWith (BenchApart D position) movingBench position where
  sample servo offset localNanos weight := by
    rw [movingBench_sample]
    simp only [PiServo.sampleNoted]
    split
    · exact (aside_log _ _).bind fun _ => aside_pure _
    · exact aside_pure _
  setFrequency frequency := command_aside _ _ fun d d' h => hfrequency d d' frequency h
  step offset := command_aside _ _ fun d d' h => htime d d' (Bench.moved d.time offset) h

/-- What a script answers does not depend on devices. -/
theorem wait_simulates (timeout : UInt64) :
    Simulates (OnWorlds (BenchApart D position)) Eq (Bench.wait [] timeout)
      (Bench.wait [] timeout) := by
  intro m n x m' hT h
  replace hT : BenchApart D position m.world n.world := hT
  obtain ⟨rfl, rfl⟩ := returns_perform.mp h
  refine ⟨_, _, returns_perform.mpr ⟨rfl, rfl⟩, ?_, ?_⟩
  · dsimp only
    rw [hT.waits, hT.script]
    split
    · rfl
    · split <;> rfl
  · simp only [OnWorlds]
    rw [hT.waits, hT.script]
    split
    · exact ⟨hT.devices, hT.own, hT.systemTime, rfl, rfl⟩
    · split <;> exact ⟨hT.devices, hT.own, hT.systemTime, rfl, rfl⟩

end Orchestrator

end ClockDiscipline
