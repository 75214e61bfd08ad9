/-
  ClockDiscipline/Proofs/TwoRuns.lean
  ===================================
  **Two runs of the same phases, side by side.**

  `Simulates R Q a b` says that from machines related by `R` the step `b`
  returns whenever `a` does, with results related by `Q`, and that the machines
  they leave are related again.  A phase of a cycle is put together from
  requests, so if these go side by side, in `Lockstep`, then so does the phase.
  The two orchestrators are the same but for what is known of one clock
  (`Agree`), which a phase goes round.
-/
import ClockDiscipline.Proofs.Cycle
import ClockDiscipline.Proofs.Polling

namespace ClockDiscipline

open ClockDiscipline.Action

variable {W W' H S ε α α' β β' : Type}

/-! ### Side by side -/

namespace Action

/-- From related machines the second step returns whenever the first does, with a
    related result, and leaves a related machine. -/
def Simulates (R : Machine W → Machine W' → Prop) (Q : α → α' → Prop) (a : Action W α)
    (b : Action W' α') : Prop :=
  ∀ m n x m', R m n → Returns a m x m' → ∃ y n', Returns b n y n' ∧ Q x y ∧ R m' n'

variable {R : Machine W → Machine W' → Prop} {Q : α → α' → Prop} {a : Action W α}
  {b : Action W' α'}

theorem simulates_pure {x : α} {y : α'} (h : Q x y) :
    Simulates R Q (pure x : Action W α) (pure y) := by
  intro m n x' m' hR hrun
  obtain ⟨rfl, rfl⟩ := returns_pure.mp hrun
  exact ⟨y, n, rfl, h, hR⟩

theorem simulates_checked (x : Checked α) :
    Simulates R Eq (checked x : Action W α) (checked x) := by
  intro m n y m' hR hrun
  obtain ⟨hx, rfl⟩ := returns_checked.mp hrun
  exact ⟨y, n, returns_checked.mpr ⟨hx, rfl⟩, rfl, hR⟩

theorem Simulates.bind {Q' : β → β' → Prop} {f : α → Action W β} {g : α' → Action W' β'}
    (h : Simulates R Q a b) (hrest : ∀ x y, Q x y → Simulates R Q' (f x) (g y)) :
    Simulates R Q' (a >>= f) (b >>= g) := by
  intro m n z m' hR hrun
  obtain ⟨x, m₁, hfirst, hthen⟩ := returns_bind.mp hrun
  obtain ⟨y, n₁, hfirst', hQ, hR₁⟩ := h m n x m₁ hR hfirst
  obtain ⟨z', n', hthen', hQ', hR'⟩ := hrest x y hQ m₁ n₁ z m' hR₁ hthen
  exact ⟨z', n', returns_bind.mpr ⟨y, n₁, hfirst', hthen'⟩, hQ', hR'⟩

/-- The second step takes the same answer and goes on in the same way. -/
theorem Simulates.bindEq {b : Action W' α} {Q' : β → β' → Prop} {f : α → Action W β}
    {g : α → Action W' β'} (h : Simulates R Eq a b) (hrest : ∀ x, Simulates R Q' (f x) (g x)) :
    Simulates R Q' (a >>= f) (b >>= g) := by
  refine h.bind fun x y hxy => ?_
  subst hxy
  exact hrest x

theorem Simulates.mono {Q' : α → α' → Prop} (h : Simulates R Q a b)
    (hQ : ∀ x y, Q x y → Q' x y) : Simulates R Q' a b := by
  intro m n x m' hR hrun
  obtain ⟨y, n', hrun', hxy, hR'⟩ := h m n x m' hR hrun
  exact ⟨y, n', hrun', hQ x y hxy, hR'⟩

/-- What is known of any result of the first step is known of this one. -/
theorem Simulates.recall {P : α → Prop} (h : Simulates R Q a b)
    (hP : ∀ m x m', Returns a m x m' → P x) : Simulates R (fun x y => Q x y ∧ P x) a b := by
  intro m n x m' hR hrun
  obtain ⟨y, n', hrun', hxy, hR'⟩ := h m n x m' hR hrun
  exact ⟨y, n', hrun', ⟨hxy, hP m x m' hrun⟩, hR'⟩

/-- What the first step does not change of its machine is known of the new one. -/
theorem Simulates.keep {I : Machine W → Prop} (h : Simulates R Q a b)
    (hI : ∀ m x m', I m → Returns a m x m' → I m') :
    Simulates (fun m n => R m n ∧ I m) Q a b := by
  rintro m n x m' ⟨hR, hm⟩ hrun
  obtain ⟨y, n', hrun', hxy, hR'⟩ := h m n x m' hR hrun
  exact ⟨y, n', hrun', hxy, hR', hI m x m' hm hrun⟩

/-- What is known of any result of the second step is known of this one. -/
theorem Simulates.recallSecond {P : α' → Prop} (h : Simulates R Q a b)
    (hP : ∀ n y n', Returns b n y n' → P y) : Simulates R (fun x y => Q x y ∧ P y) a b := by
  intro m n x m' hR hrun
  obtain ⟨y, n', hrun', hxy, hR'⟩ := h m n x m' hR hrun
  exact ⟨y, n', hrun', ⟨hxy, hP n y n' hrun'⟩, hR'⟩

end Action

/-- Requests that go side by side.  A device is asked in both runs only if it is
    shared. -/
structure Lockstep (R : Machine W → Machine W' → Prop) (env : Environment W H S ε)
    (env' : Environment W' H S ε) (Shared : H → Prop) : Prop where
  noted : ∀ m n severity text, R m n → R (noted m severity text) (noted n severity text)
  now : ∀ h, Shared h → Simulates R Eq (env.device.now h) (env'.device.now h)
  nextEvent : ∀ h, Shared h → Simulates R Eq (env.device.nextEvent h) (env'.device.nextEvent h)
  setFrequency : ∀ h frequency, Shared h →
    Simulates R Eq (env.device.setFrequency h frequency) (env'.device.setFrequency h frequency)
  step : ∀ h offset, Shared h →
    Simulates R Eq (env.device.step h offset) (env'.device.step h offset)
  sample : ∀ servo offset localNanos weight,
    Simulates R Eq (env.servo.sample servo offset localNanos weight)
      (env'.servo.sample servo offset localNanos weight)
  reset : ∀ servo, Simulates R Eq (env.servo.reset servo) (env'.servo.reset servo)
  systemTime : Simulates R Eq env.systemTime env'.systemTime
  frequency : env'.servo.frequency = env.servo.frequency
  errorText : env'.errorText = env.errorText
  patience : env'.patience = env.patience

section Requests

variable {R : Machine W → Machine W' → Prop} {env : Environment W H S ε}
  {env' : Environment W' H S ε} {Shared : H → Prop}

theorem Lockstep.log (hl : Lockstep R env env' Shared) (severity : Severity) (text : String) :
    Simulates R Eq (Action.log severity text) (Action.log severity text) := by
  intro m n u m' hR hrun
  rw [returns_log.mp hrun]
  exact ⟨(), _, returns_log.mpr rfl, rfl, hl.noted m n severity text hR⟩

theorem EdgeSource.takeEvent_simulates (s : EdgeSource) {handle : H}
    (hnext : Simulates R Eq (env.device.nextEvent handle) (env'.device.nextEvent handle)) :
    Simulates R Eq (s.takeEvent env handle) (s.takeEvent env' handle) := by
  refine hnext.bindEq fun answer => ?_
  rcases answer with e | _ | event
  · exact simulates_pure rfl
  · exact simulates_pure rfl
  · dsimp only
    split
    · exact simulates_pure rfl
    · exact simulates_pure rfl

theorem EdgeSource.pair_simulates (hl : Lockstep R env env' Shared) (s : EdgeSource)
    (event : EdgeEvent) (reference : Instant) :
    Simulates R Eq (s.pair event reference : Action W Pairing) (s.pair event reference) := by
  refine (simulates_checked _).bindEq fun pairing => ?_
  split
  · exact (hl.log _ _).bindEq fun _ => simulates_pure rfl
  · exact simulates_pure rfl

theorem Clock.addTimestamp_simulates (hl : Lockstep R env env' Shared) (c : Clock H S)
    (t : Instant) :
    Simulates R Eq (c.addTimestamp t : Action W (Clock H S)) (c.addTimestamp t) :=
  (hl.log _ _).bindEq fun _ => simulates_pure rfl

end Requests

namespace Orchestrator

/-! ### Orchestrators that agree -/

/-- The same orchestrator but for one clock, of which `P` is known. -/
structure Agree (own : ClockId) (P : Option (Clock H S) → Option (Clock H S) → Prop)
    (o o' : Orchestrator H S) : Prop where
  setup : o'.setup = o.setup
  other : ∀ id, id ≠ own → o'.clocks.get? id = o.clocks.get? id
  known : P (o.clocks.get? own) (o'.clocks.get? own)

section Agreeing

variable {own id : ClockId} {P P' : Option (Clock H S) → Option (Clock H S) → Prop}
  {o o' o₁ o₁' : Orchestrator H S}

theorem Agree.refl (own : ClockId) (o : Orchestrator H S) : Agree own Eq o o :=
  ⟨rfl, fun _ _ => rfl, rfl⟩

theorem Agree.mono (h : Agree own P o o')
    (hP : ∀ c c', P c c' → P' c c') : Agree own P' o o' :=
  ⟨h.setup, h.other, hP _ _ h.known⟩

theorem Agree.ids (h : Agree own P o o') : o'.clocks.ids = o.clocks.ids :=
  Registry.ids_of_parts_eq (parts_of_setup_eq h.setup)

theorem Agree.source (h : Agree own P o o') {s : EdgeSource} {index : Nat}
    (hs : o.sources[index]? = some s) : o'.sources[index]? = some s := by
  rw [sources_of_setup_eq h.setup]
  exact hs

/-- A clock that both know to be the same. -/
theorem Agree.get? (h : Agree own P o o') (hid : id ≠ own ∨ P = Eq) :
    o'.clocks.get? id = o.clocks.get? id := by
  by_cases hown : id = own
  · rcases hid with hne | rfl
    · exact absurd hown hne
    · subst hown
      exact h.known.symm
  · exact h.other id hown

theorem Agree.get?_eq_none (h : Agree own P o o') (hnone : o.clocks.get? id = none) :
    o'.clocks.get? id = none := by
  cases hc' : o'.clocks.get? id with
  | none => rfl
  | some c' =>
    obtain ⟨c, hsome, -⟩ := Registry.get?_of_parts_eq (parts_of_setup_eq h.setup).symm hc'
    rw [hnone] at hsome
    cases hsome

theorem Agree.eq (h : Agree own Eq o o') : o' = o := by
  have hlength : o'.clocks.slots.length = o.clocks.slots.length := by
    simpa [Registry.parts] using congrArg List.length (parts_of_setup_eq h.setup)
  -- looking a clock up does not tell an empty slot from none, the number of slots does
  have hsome : ∀ i : Nat, (o'.clocks.slots[i]?).isSome = (o.clocks.slots[i]?).isSome := by
    intro i
    rw [Bool.eq_iff_iff]
    simp [hlength]
  have hslots : o'.clocks.slots = o.clocks.slots := by
    refine List.ext_getElem? fun i => ?_
    have hget : o'.clocks.get? ⟨i⟩ = o.clocks.get? ⟨i⟩ := h.get? (.inr rfl)
    simp only [Registry.get?] at hget
    have hi := hsome i
    cases hnew : o'.clocks.slots[i]? with
    | none =>
      cases hold : o.clocks.slots[i]? with
      | none => rfl
      | some slot => simp [hnew, hold] at hi
    | some slot =>
      cases hold : o.clocks.slots[i]? with
      | none => simp [hnew, hold] at hi
      | some slot' =>
        rw [hnew, hold] at hget
        exact congrArg some hget
  have hclocks : o'.clocks = o.clocks := by
    cases hc : o'.clocks
    cases hc' : o.clocks
    rw [hc, hc'] at hslots
    exact congrArg Registry.mk hslots
  have hsetup := h.setup
  simp only [Orchestrator.setup, Setup.mk.injEq] at hsetup
  obtain ⟨hconfig, -, hreference, hsources, htopology, hsource⟩ := hsetup
  cases o
  cases o'
  simp_all

/-- One clock is replaced by the same in both. -/
theorem Agree.set {c c' : Clock H S} (h : Agree own P o o') (hid : id ≠ own ∨ P = Eq)
    (hc : o.clocks.get? id = some c) (hpart : c'.part = c.part) :
    Agree own P { o with clocks := o.clocks.set id c' }
      { o' with clocks := o'.clocks.set id c' } := by
  have hc' : o'.clocks.get? id = some c := (h.get? hid).trans hc
  refine ⟨?_, fun other hother => ?_, ?_⟩
  · rw [setup_set hc hpart, setup_set hc' hpart, h.setup]
  · by_cases heq : other = id
    · subst heq
      rw [Registry.get?_set_self c' hc', Registry.get?_set_self c' hc]
    · rw [Registry.get?_set_of_ne c' heq, Registry.get?_set_of_ne c' heq, h.other other hother]
  · by_cases heq : own = id
    · subst heq
      rcases hid with hne | rfl
      · exact absurd rfl hne
      · rw [Registry.get?_set_self c' hc', Registry.get?_set_self c' hc]
    · rw [Registry.get?_set_of_ne c' heq, Registry.get?_set_of_ne c' heq]
      exact h.known

/-- Each run does with the one clock whatever it likes, as long as it stays in its
    part. -/
theorem Agree.apart (h : Agree own P o o') (hsetup : o₁.setup = o.setup)
    (hsetup' : o₁'.setup = o'.setup)
    (hother : ∀ id, id ≠ own → o₁.clocks.get? id = o.clocks.get? id)
    (hother' : ∀ id, id ≠ own → o₁'.clocks.get? id = o'.clocks.get? id)
    (hknown : P' (o₁.clocks.get? own) (o₁'.clocks.get? own)) : Agree own P' o₁ o₁' where
  setup := hsetup'.trans (h.setup.trans hsetup.symm)
  other id hid := by rw [hother' id hid, h.other id hid, hother id hid]
  known := hknown

end Agreeing

section Phases

variable {R : Machine W → Machine W' → Prop} {env : Environment W H S ε}
  {env' : Environment W' H S ε} {Shared : H → Prop} {wait : Waiter W ε} {wait' : Waiter W' ε}
  {own id : ClockId} {P : Option (Clock H S) → Option (Clock H S) → Prop}
  {o o' : Orchestrator H S}

/-! ### Reading the reference -/

theorem now_simulates (hl : Lockstep R env env' Shared) (ho : Agree own P o o')
    (hshared : ∀ id c, o.reference = .phc id → o.clocks.get? id = some c → Shared c.handle) :
    Simulates R Eq (o.reference.now env o.clocks) (o'.reference.now env' o'.clocks) := by
  rw [reference_of_setup_eq ho.setup]
  cases href : o.reference with
  | generic utcOffset =>
    exact hl.systemTime.bindEq fun utc =>
      (simulates_checked _).bindEq fun t => simulates_pure rfl
  | phc id =>
    unfold Reference.now
    dsimp only
    cases hc : o.clocks.get? id with
    | none =>
      rw [ho.get?_eq_none hc]
      exact simulates_pure rfl
    | some c =>
      obtain ⟨c', hc', hpart⟩ := Registry.get?_of_parts_eq (parts_of_setup_eq ho.setup) hc
      have hhandle : c'.handle = c.handle := congrArg ClockPart.handle hpart
      rw [hc']
      dsimp only
      rw [hhandle]
      exact (hl.now c.handle (hshared id c href hc)).bindEq fun t => simulates_pure rfl

theorem edge_simulates (hl : Lockstep R env env' Shared) (ho : Agree own P o o')
    (hshared : ∀ id c, o.reference = .phc id → o.clocks.get? id = some c → Shared c.handle)
    (phase : Duration) :
    Simulates R Eq (o.reference.edge env o.clocks phase)
      (o'.reference.edge env' o'.clocks phase) := by
  refine (now_simulates hl ho hshared).bindEq fun reading => ?_
  cases reading with
  | error e => exact simulates_pure rfl
  | ok t => exact (simulates_checked _).bindEq fun edge => simulates_pure rfl

/-! ### Collecting -/

theorem handleEvent_simulates (hl : Lockstep R env env' Shared) (ho : Agree own P o o')
    (s : EdgeSource) (hid : s.clock ≠ own ∨ P = Eq)
    (hnext : ∀ c, o.clocks.get? s.clock = some c →
      Simulates R Eq (env.device.nextEvent c.handle) (env'.device.nextEvent c.handle))
    (hshared : ∀ id c, o.reference = .phc id → o.clocks.get? id = some c → Shared c.handle) :
    Simulates R (fun x y => x.1 = y.1 ∧ Agree own P x.2 y.2) (o.handleEvent env s)
      (o'.handleEvent env' s) := by
  unfold handleEvent
  rw [ho.get? hid]
  cases hc : o.clocks.get? s.clock with
  | none => exact simulates_pure ⟨rfl, ho⟩
  | some c =>
    refine (s.takeEvent_simulates (hnext c hc)).bindEq fun taken => ?_
    cases taken with
    | error e => exact simulates_pure ⟨rfl, ho⟩
    | ok event =>
      refine (now_simulates hl ho hshared).bindEq fun reading => ?_
      cases reading with
      | error e =>
        dsimp only
        rw [hl.errorText]
        exact (hl.log _ _).bindEq fun _ => simulates_pure ⟨rfl, ho⟩
      | ok reference =>
        have hkeep : Simulates R (fun x y => x.1 = y.1 ∧ Agree own P x.2 y.2)
            (o.pairAndKeep s event reference) (o'.pairAndKeep s event reference) := by
          refine (s.pair_simulates hl event reference).bindEq fun pairing => ?_
          rw [ho.get? hid, hc]
          cases pairing with
          | ambiguous => exact simulates_pure ⟨rfl, ho⟩
          | sample offset localTime =>
            have hstamp : ∀ m x m',
                Returns (c.addTimestamp localTime : Action W (Clock H S)) m x m' →
                x.part = c.part := by
              intro m x m' hrun
              simp only [Clock.addTimestamp, returns_bind, returns_log, returns_pure] at hrun
              obtain ⟨_, _, -, rfl, -⟩ := hrun
              rfl
            refine ((Clock.addTimestamp_simulates hl c localTime).recall hstamp).bind ?_
            rintro c' _ ⟨rfl, hpart⟩
            exact simulates_pure ⟨rfl, ho.set hid hc hpart⟩
        refine hkeep.bind ?_
        rintro ⟨pairing, o₁⟩ ⟨_, o₁'⟩ ⟨rfl, ho₁⟩
        exact simulates_pure ⟨rfl, ho₁⟩

/-- If the turn of each ready source goes side by side, then so does handling all of
    them. -/
theorem handleReady_simulates (Rel : Orchestrator H S → Orchestrator H S → Prop)
    (hturn : ∀ o o' p index, Rel o o' →
      Simulates R (fun x y => x.1 = y.1 ∧ Rel x.2 y.2) (o.handleReady env p [index])
        (o'.handleReady env' p [index]))
    (ho : Rel o o') (p : Progress) (ready : List Nat) :
    Simulates R (fun x y => x.1 = y.1 ∧ Rel x.2 y.2) (o.handleReady env p ready)
      (o'.handleReady env' p ready) := by
  induction ready generalizing o o' p with
  | nil => exact simulates_pure ⟨rfl, ho⟩
  | cons index ready ih =>
    rw [handleReady_cons_eq, handleReady_cons_eq (o := o')]
    refine (hturn o o' p index ho).bind ?_
    rintro ⟨p₁, o₁⟩ ⟨_, o₁'⟩ ⟨rfl, ho₁⟩
    exact ih ho₁ p₁

/-- The turn of a source whose event is handled side by side. -/
theorem turn_simulates (hl : Lockstep R env env' Shared) {s : EdgeSource} {index : Nat}
    (hsource : o.sources[index]? = some s) (hsource' : o'.sources[index]? = some s)
    {Rel : Orchestrator H S → Orchestrator H S → Prop}
    (hevent : Simulates R (fun x y => x.1 = y.1 ∧ Rel x.2 y.2) (o.handleEvent env s)
      (o'.handleEvent env' s)) (p : Progress) :
    Simulates R (fun x y => x.1 = y.1 ∧ Rel x.2 y.2) (o.handleReady env p [index])
      (o'.handleReady env' p [index]) := by
  simp only [handleReady, hsource, hsource']
  refine hevent.bind ?_
  rintro ⟨result, o₁⟩ ⟨_, o₁'⟩ ⟨rfl, ho₁⟩
  rcases result with e | (_ | _)
  · rw [hl.errorText]
    refine (hl.log _ _).bindEq fun _ => ?_
    simp only [pure_bind]
    exact simulates_pure ⟨rfl, ho₁⟩
  · simp only [pure_bind]
    exact simulates_pure ⟨rfl, ho₁⟩
  · simp only [pure_bind]
    exact simulates_pure ⟨rfl, ho₁⟩

/-- If every source has its turn side by side, then all ready sources are handled so. -/
theorem handleReady_agrees {o₀ : Orchestrator H S} (ho : Agree own P o o')
    (hsame : o.setup = o₀.setup)
    (hturn : ∀ o o' p index s, Agree own P o o' → o.setup = o₀.setup →
      o.sources[index]? = some s →
      Simulates R (fun x y => x.1 = y.1 ∧ Agree own P x.2 y.2) (o.handleReady env p [index])
        (o'.handleReady env' p [index]))
    (p : Progress) (ready : List Nat) :
    Simulates R (fun x y => x.1 = y.1 ∧ Agree own P x.2 y.2 ∧ x.2.setup = o₀.setup)
      (o.handleReady env p ready) (o'.handleReady env' p ready) := by
  refine handleReady_simulates (fun o o' => Agree own P o o' ∧ o.setup = o₀.setup) ?_
    ⟨ho, hsame⟩ p ready
  rintro o o' p index ⟨ho, hsame⟩
  cases hsource : o.sources[index]? with
  | none =>
    have hsource' := hsource
    rw [← sources_of_setup_eq ho.setup] at hsource'
    simp only [handleReady, hsource, hsource']
    exact simulates_pure ⟨rfl, ho, hsame⟩
  | some s =>
    refine ((hturn o o' p index s ho hsame hsource).recall
      fun m x m' h => (handleReady_setup h).trans hsame).mono ?_
    rintro x y ⟨⟨hp, ho₁⟩, hsame₁⟩
    exact ⟨hp, ho₁, hsame₁⟩

/-- Unlocking does not tell apart what is known of the one clock. -/
def SameLock (P : Option (Clock H S) → Option (Clock H S) → Prop) : Prop :=
  ∀ c c' : Clock H S, P (some c) (some c') → c'.servo = c.servo ∧ c'.servoState = c.servoState ∧
    ∀ servo state, P (some { c with servo := servo, servoState := state })
      (some { c' with servo := servo, servoState := state })

theorem sameLock_eq : SameLock (Eq : Option (Clock H S) → Option (Clock H S) → Prop) := by
  intro c c' h
  obtain rfl := Option.some.inj h
  exact ⟨rfl, rfl, fun _ _ => rfl⟩

theorem Agree.lock (h : Agree own P o o') (hP : SameLock P) {c c' : Clock H S}
    (hc : o.clocks.get? id = some c) (hc' : o'.clocks.get? id = some c') :
    c'.servo = c.servo ∧ c'.servoState = c.servoState := by
  by_cases hid : id = own
  · subst hid
    have hknown := h.known
    rw [hc, hc'] at hknown
    exact ⟨(hP c c' hknown).1, (hP c c' hknown).2.1⟩
  · obtain rfl := Option.some.inj (hc'.symm.trans ((h.other id hid).trans hc))
    exact ⟨rfl, rfl⟩

/-- A clock is unlocked in both. -/
theorem Agree.unlocked (h : Agree own P o o') (hP : SameLock P) {c c' : Clock H S}
    (hc : o.clocks.get? id = some c) (hc' : o'.clocks.get? id = some c') (servo : S) :
    Agree own P
      { o with
        clocks := o.clocks.set id { c with servo := servo, servoState := .unlocked } }
      { o' with
        clocks := o'.clocks.set id { c' with servo := servo, servoState := .unlocked } } := by
  refine ⟨?_, fun other hother => ?_, ?_⟩
  · rw [setup_set hc, setup_set hc', h.setup] <;> rfl
  · by_cases heq : other = id
    · subst heq
      obtain rfl := Option.some.inj (hc'.symm.trans ((h.other other hother).trans hc))
      rw [Registry.get?_set_self _ hc, Registry.get?_set_self _ hc']
    · rw [Registry.get?_set_of_ne _ heq, Registry.get?_set_of_ne _ heq, h.other other hother]
  · by_cases heq : own = id
    · subst heq
      have hknown := h.known
      rw [hc, hc'] at hknown
      rw [Registry.get?_set_self _ hc, Registry.get?_set_self _ hc']
      exact (hP c c' hknown).2.2 servo .unlocked
    · rw [Registry.get?_set_of_ne _ heq, Registry.get?_set_of_ne _ heq]
      exact h.known

theorem unlockClocks_simulates (hl : Lockstep R env env' Shared) (hP : SameLock P)
    (ho : Agree own P o o') (ids : List ClockId) :
    Simulates R (Agree own P) (o.unlockClocks env ids) (o'.unlockClocks env' ids) := by
  induction ids generalizing o o' with
  | nil => exact simulates_pure ho
  | cons id ids ih =>
    unfold unlockClocks
    cases hc : o.clocks.get? id with
    | none =>
      rw [ho.get?_eq_none hc]
      exact ih ho
    | some c =>
      obtain ⟨c', hc', hpart⟩ := Registry.get?_of_parts_eq (parts_of_setup_eq ho.setup) hc
      have hset : c'.isDestination = c.isDestination := congrArg ClockPart.isDestination hpart
      have hname : c'.name = c.name := congrArg ClockPart.name hpart
      obtain ⟨hservo, hstate⟩ := ho.lock hP hc hc'
      rw [hc']
      dsimp only
      rw [hset, hstate]
      split
      · rw [hname]
        simp only [Clock.unlock, bind_assoc, pure_bind]
        rw [hservo]
        exact (hl.log _ _).bindEq fun _ => (hl.reset c.servo).bindEq fun servo =>
          ih (ho.unlocked hP hc hc' servo)
      · exact ih ho

/-! ### The whole of polling -/

/-- Two answers of a wait: the same error, or ready sources that are related. -/
def SameAnswer (L : List Nat → List Nat → Prop) :
    Except ε (List Nat) → Except ε (List Nat) → Prop
  | .error e, .error e' => e' = e
  | .ok ready, .ok ready' => L ready ready'
  | _, _ => False

section Polling

variable (L : List Nat → List Nat → Prop) (Rel : Orchestrator H S → Orchestrator H S → Prop)
  (hnoted : ∀ m n severity text, R m n → R (noted m severity text) (noted n severity text))
  (hL : ∀ ready ready', L ready ready' → (ready' = [] ↔ ready = []))
  (hwait : ∀ timeout, Simulates R (SameAnswer L) (wait timeout) (wait' timeout))
  (hready : ∀ o o' p ready ready', Rel o o' → L ready ready' →
    Simulates R (fun x y => x.1 = y.1 ∧ Rel x.2 y.2) (o.handleReady env p ready)
      (o'.handleReady env' p ready'))
  (hunlock : ∀ o o', Rel o o' →
    Simulates R Rel (o.unlockDestinations env) (o'.unlockDestinations env'))
  (hsetup : ∀ o o', Rel o o' → o'.setup = o.setup)
include hnoted hL hwait hready hunlock hsetup

theorem collect_simulates (ho : Rel o o') (p : Progress) (patience : Nat) :
    Simulates R (fun x y => x.1 = y.1 ∧ Rel x.2 y.2) (collect env wait patience o p)
      (collect env' wait' patience o' p) := by
  -- both runs wait as often: what is marked, and so whether the loop ends, is the same
  induction patience generalizing o o' p with
  | zero =>
    by_cases hall : p.handled.all id = true
    · rw [collect_handled hall, collect_handled hall]
      exact simulates_pure ⟨rfl, ho⟩
    · rw [collect_impatient hall]
      intro m n x m' hR hrun
      simp at hrun
  | succ patience ih =>
    by_cases hall : p.handled.all id = true
    · rw [collect_handled hall, collect_handled hall]
      exact simulates_pure ⟨rfl, ho⟩
    rw [collect_waits hall, collect_waits hall, config_of_setup_eq (hsetup o o' ho)]
    refine (hwait _).bind fun answer answer' hanswer => ?_
    have hlog : Simulates R Eq (Action.log .debug "poll returned no events")
        (Action.log .debug "poll returned no events") := by
      intro m n u m' hR hrun
      rw [returns_log.mp hrun]
      exact ⟨(), _, returns_log.mpr rfl, rfl, hnoted m n _ _ hR⟩
    rcases answer with e | (_ | ⟨index, ready⟩) <;> rcases answer' with e' | (_ | ⟨index', ready'⟩)
    case error.error =>
      obtain rfl : e' = e := hanswer
      exact simulates_pure ⟨rfl, ho⟩
    case ok.nil.ok.nil =>
      refine hlog.bindEq fun _ => ?_
      split
      · exact simulates_pure ⟨rfl, ho⟩
      · exact (hunlock o o' ho).bind fun _ _ ho' => simulates_pure ⟨rfl, ho'⟩
    case ok.cons.ok.cons =>
      refine (hready o o' p _ _ ho hanswer).bind ?_
      rintro ⟨p₁, o₁⟩ ⟨_, o₁'⟩ ⟨rfl, ho₁⟩
      exact ih ho₁ p₁
    case ok.nil.ok.cons => simpa using hL _ _ hanswer
    case ok.cons.ok.nil => simpa using hL _ _ hanswer
    all_goals exact hanswer.elim

theorem poll_simulates (hpatience : env'.patience = env.patience) (ho : Rel o o') :
    Simulates R (fun x y => x.1 = y.1 ∧ Rel x.2 y.2) (o.poll env wait) (o'.poll env' wait') := by
  have hsame := hsetup o o' ho
  unfold poll
  rw [sources_of_setup_eq hsame, config_of_setup_eq hsame, hpatience]
  split
  · refine (hwait _).bind fun answer answer' hanswer => ?_
    cases answer with
    | error e =>
      cases answer' with
      | error e' =>
        obtain rfl : e' = e := hanswer
        exact simulates_pure ⟨rfl, ho⟩
      | ok ready' => exact hanswer.elim
    | ok ready =>
      cases answer' with
      | error e' => exact hanswer.elim
      | ok ready' => exact simulates_pure ⟨rfl, ho⟩
  · exact collect_simulates L Rel hnoted hL hwait hready hunlock hsetup ho _ _

end Polling

/-- If the turns of all sources and the waits go side by side, then so does polling. -/
theorem poll_agrees (hl : Lockstep R env env' Shared) (hP : SameLock P) (ho : Agree own P o o')
    (hwait : ∀ timeout, Simulates R Eq (wait timeout) (wait' timeout))
    (hturn : ∀ o₁ o₁' p index s, Agree own P o₁ o₁' → o₁.setup = o.setup →
      o₁.sources[index]? = some s →
      Simulates R (fun x y => x.1 = y.1 ∧ Agree own P x.2 y.2) (o₁.handleReady env p [index])
        (o₁'.handleReady env' p [index])) :
    Simulates R (fun x y => x.1 = y.1 ∧ Agree own P x.2 y.2) (o.poll env wait)
      (o'.poll env' wait') := by
  refine (poll_simulates Eq (fun a b => Agree own P a b ∧ a.setup = o.setup) hl.noted ?_ ?_ ?_ ?_ ?_
    hl.patience ⟨ho, rfl⟩).mono ?_
  · rintro ready _ rfl
    exact Iff.rfl
  · intro timeout
    refine (hwait timeout).mono fun answer answer' heq => ?_
    subst heq
    cases answer <;> rfl
  · rintro o₁ o₁' p ready _ ⟨ho₁, hsame⟩ rfl
    exact handleReady_agrees ho₁ hsame hturn p ready
  · rintro o₁ o₁' ⟨ho₁, hsame⟩
    rw [unlockDestinations, unlockDestinations, ho₁.ids]
    exact (unlockClocks_simulates hl hP ho₁ _).recall fun m x m' h =>
      (unlockClocks_setup h).trans hsame
  · exact fun o₁ o₁' h => h.1.setup
  · exact fun x y h => ⟨h.1, h.2.1⟩

/-! ### Correcting -/

theorem adjust_simulates (hl : Lockstep R env env' Shared) {handle : H} (hshared : Shared handle)
    (offset : Duration) (frequency : Float) (state : ServoState) :
    Simulates R Eq (adjust env handle offset frequency state)
      (adjust env' handle offset frequency state) := by
  unfold adjust
  split
  · refine (hl.setFrequency handle frequency hshared).bindEq fun answer => ?_
    cases answer with
    | error e => exact simulates_pure rfl
    | ok => exact (simulates_checked _).bindEq fun back => hl.step handle back hshared
  · exact hl.setFrequency handle frequency hshared

theorem steer_simulates (hl : Lockstep R env env' Shared) (id : ClockId) {c : Clock H S}
    (hshared : Shared c.handle) (offset : Duration) (t : Instant) (weight : Float) :
    Simulates R Eq (steer env id c offset t weight) (steer env' id c offset t weight) := by
  refine (hl.sample c.servo offset.nanos t.nanos weight).bindEq fun answer => ?_
  obtain ⟨⟨adjustment, state⟩, servo⟩ := answer
  dsimp only
  rw [hl.frequency]
  refine (hl.log _ _).bindEq fun _ => ?_
  split
  · exact simulates_pure rfl
  · refine (adjust_simulates hl hshared _ _ _).bindEq fun adjusted => ?_
    cases adjusted with
    | ok => exact simulates_pure rfl
    | error e =>
      dsimp only
      rw [hl.errorText]
      exact (hl.log _ _).bindEq fun _ => simulates_pure rfl

theorem synchronizeClock_simulates (hl : Lockstep R env env' Shared) (id : ClockId)
    {c : Clock H S} (hshared : Shared c.handle) (t sourceTime : Instant) (weight : Float) :
    Simulates R Eq (synchronizeClock env id c t sourceTime weight)
      (synchronizeClock env' id c t sourceTime weight) := by
  refine (simulates_checked _).bindEq fun offset => ?_
  dsimp only
  split
  · exact (hl.log _ _).bindEq fun _ => simulates_pure rfl
  · exact steer_simulates hl id (c := { c with lastOffset := some offset }) hshared offset t weight

theorem correctOne_simulates (hl : Lockstep R env env' Shared) (ho : Agree own P o o')
    (hid : id ≠ own ∨ P = Eq)
    (hshared : ∀ c t, o.clocks.get? id = some c → c.timestamp = some t → Shared c.handle)
    (sourceTime : Instant) :
    Simulates R (fun x y => x.1 = y.1 ∧ Agree own P x.2 y.2) (o.correctOne env sourceTime id)
      (o'.correctOne env' sourceTime id) := by
  have hweight : o'.config.sampleWeight = o.config.sampleWeight :=
    congrArg SyncConfig.sampleWeight (config_of_setup_eq ho.setup)
  unfold correctOne
  rw [ho.get? hid, hweight]
  cases hc : o.clocks.get? id with
  | none => exact simulates_pure ⟨rfl, ho⟩
  | some c =>
    dsimp only
    split
    · exact simulates_pure ⟨rfl, ho⟩
    · cases ht : c.timestamp with
      | none => exact (hl.log _ _).bindEq fun _ => simulates_pure ⟨rfl, ho⟩
      | some t =>
        have hrun := synchronizeClock_simulates hl id (c := c.flushTimestamp) (hshared c t hc ht) t
          sourceTime o.config.sampleWeight
        refine (hrun.recall fun m x m' h => (synchronizeClock_cases h).2.2.1).bind ?_
        rintro ⟨report, c'⟩ _ ⟨rfl, hpart⟩
        exact simulates_pure ⟨rfl, ho.set hid hc hpart⟩

theorem synchronizeClocks_simulates (hl : Lockstep R env env' Shared) (ho : Agree own P o o')
    {ids : List ClockId} (hnodup : ids.Nodup) (hids : ∀ id ∈ ids, id ≠ own ∨ P = Eq)
    (hshared : ∀ id ∈ ids, ∀ c t, o.clocks.get? id = some c → c.timestamp = some t →
      Shared c.handle)
    (sourceTime : Instant) :
    Simulates R (fun x y => x.1 = y.1 ∧ Agree own P x.2 y.2)
      (o.synchronizeClocks env sourceTime ids) (o'.synchronizeClocks env' sourceTime ids) := by
  induction ids generalizing o o' with
  | nil => exact simulates_pure ⟨rfl, ho⟩
  | cons id ids ih =>
    obtain ⟨hnotin, hnodup⟩ := List.nodup_cons.mp hnodup
    rw [synchronizeClocks_cons, synchronizeClocks_cons]
    have hfirst := correctOne_simulates hl ho (hids id (by simp)) (hshared id (by simp)) sourceTime
    -- no clock has two turns, so those to come have the times that they had
    have hothers : ∀ m (x : List ClockReport × Orchestrator H S) m',
        Returns (o.correctOne env sourceTime id) m x m' →
        ∀ other ∈ ids, x.2.clocks.get? other = o.clocks.get? other :=
      fun m x m' h other hother =>
        correctOne_get?_of_ne h fun heq : other = id => hnotin (heq ▸ hother)
    refine (hfirst.recall hothers).bind ?_
    rintro ⟨first, o₁⟩ ⟨_, o₁'⟩ ⟨⟨rfl, ho₁⟩, hothers⟩
    refine (ih ho₁ hnodup (fun other hother => hids other (by simp [hother])) ?_).bind ?_
    · intro other hother c t hc
      rw [show o₁.clocks.get? other = _ from hothers other hother] at hc
      exact hshared other (by simp [hother]) c t hc
    · rintro ⟨rest, o₂⟩ ⟨_, o₂'⟩ ⟨rfl, ho₂⟩
      exact simulates_pure ⟨rfl, ho₂⟩

/-! ### What follows polling, from the same orchestrator -/

/-- The rest of a cycle, once its events have been collected or not. -/
def afterPoll (env : Environment W H S ε) (o : Orchestrator H S) :
    Except (SyncError ε) PollOutcome →
      Action W (Except (SyncError ε) (List ClockReport) × Orchestrator H S)
  | .error e => return (.error e, o)
  | .ok .collected => do
    let (result, o) ← o.collectReference env
    match result with
    | .error e => return (.error e, o)
    | .ok () =>
      let (reports, o) ← o.synchronize env
      return (.ok reports, o)
  | .ok .ambiguous | .ok .timeout => return (.ok [], o)

theorem runCycle_eq (o : Orchestrator H S) : o.runCycle env wait = (do
    let (_, o₁) ← o.reconfigure
    let (outcome, o₂) ← o₁.flushTimestamps.poll env wait
    o₂.afterPoll env outcome) := by
  refine bind_congr fun selected => bind_congr fun polled => ?_
  rcases polled with ⟨e | (_ | _ | _), o₂⟩ <;> rfl

section Same

variable (hl : Lockstep R env env' Shared) (hall : ∀ h, Shared h)
include hl hall

theorem collectReference_simulates (o : Orchestrator H S) :
    Simulates R Eq (o.collectReference env) (o.collectReference env') := by
  unfold collectReference
  split
  · exact simulates_pure rfl
  · refine (edge_simulates hl (.refl ⟨0⟩ o) (fun _ _ _ _ => hall _) _).bindEq fun edge => ?_
    cases edge with
    | error e => exact simulates_pure rfl
    | ok edge =>
      dsimp only
      split
      · exact simulates_pure rfl
      · exact (Clock.addTimestamp_simulates hl _ edge).bindEq fun _ => simulates_pure rfl

theorem sourceTimestamp_simulates (o : Orchestrator H S) :
    Simulates R Eq (o.sourceTimestamp env) (o.sourceTimestamp env') := by
  unfold sourceTimestamp
  split
  · refine (edge_simulates hl (.refl ⟨0⟩ o) (fun _ _ _ _ => hall _) _).bindEq fun edge => ?_
    cases edge with
    | ok edge => exact simulates_pure rfl
    | error e =>
      dsimp only
      rw [hl.errorText]
      exact (hl.log _ _).bindEq fun _ => simulates_pure rfl
  · split
    · exact (hl.log _ _).bindEq fun _ => simulates_pure rfl
    · split
      · exact simulates_pure rfl
      · split
        · exact (hl.log _ _).bindEq fun _ => simulates_pure rfl
        · exact simulates_pure rfl

theorem synchronize_simulates (o : Orchestrator H S) :
    Simulates R Eq (o.synchronize env) (o.synchronize env') := by
  refine (sourceTimestamp_simulates hl hall o).bindEq fun source => ?_
  obtain ⟨time?, o₁⟩ := source
  cases time? with
  | none => exact simulates_pure rfl
  | some t =>
    refine (synchronizeClocks_simulates hl (.refl ⟨0⟩ o₁) o₁.clocks.nodup_ids (fun _ _ => .inr rfl)
      (fun _ _ _ _ _ _ => hall _) t).mono ?_
    rintro ⟨reports, o₂⟩ ⟨reports', o₂'⟩ ⟨rfl, ho⟩
    rw [show o₂' = o₂ from ho.eq]

theorem afterPoll_simulates (o : Orchestrator H S) (outcome : Except (SyncError ε) PollOutcome) :
    Simulates R Eq (o.afterPoll env outcome) (o.afterPoll env' outcome) := by
  rcases outcome with e | (_ | _ | _)
  case ok.collected =>
    refine (collectReference_simulates hl hall o).bindEq fun stamped => ?_
    obtain ⟨e | _, o₁⟩ := stamped
    · exact simulates_pure rfl
    · exact (synchronize_simulates hl hall o₁).bindEq fun _ => simulates_pure rfl
  all_goals exact simulates_pure rfl

end Same

end Phases

end Orchestrator

end ClockDiscipline
