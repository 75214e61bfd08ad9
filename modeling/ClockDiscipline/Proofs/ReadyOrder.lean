/-
  ClockDiscipline/Proofs/ReadyOrder.lean
  ======================================
  **The order in which ready sources are handled.**

  The answer of a wait says which sources have events, and in which order they
  are handled should not matter.  It does not, as long as the sources listen
  to different devices and the reference reads the same for all of them: two
  turns next to each other can change places (`turns_swap`), hence the turns
  of a whole answer can be put into any order (`handleReady_perm`), and from
  there on the two cycles do the same (`ready_order`).  What is written to the
  journal changes places with the turns, and so do the requests to different
  devices.

  Each turn reads the reference after its own device.  If that reading comes
  from the device of a source, then it changes places with the event of that
  source, so what this one device is asked depends on the order
  (`not_forall_ready_order_keeps_calls`).
-/
import ClockDiscipline.Proofs.SourceTurns

namespace ClockDiscipline

open ClockDiscipline.Action

variable {W H S ε α β : Type}

/-! ### Steps that do not read the journal -/

namespace Action

/-- What the step does is up to the world alone; to the journal it only adds. -/
def Blind (a : Action W α) : Prop :=
  ∀ m x m', Returns a m x m' → ∃ entries, m'.journal = m.journal ++ entries ∧
    ∀ journal, Returns a ⟨m.world, journal⟩ x ⟨m'.world, journal ++ entries⟩

/-- The same world, and the same entries in some order. -/
def Alike (m n : Machine W) : Prop :=
  n.world = m.world ∧ m.journal.toList.Perm n.journal.toList

theorem Alike.refl (m : Machine W) : Alike m m := ⟨rfl, .refl _⟩

theorem Alike.trans {m₁ m₂ m₃ : Machine W} (h : Alike m₁ m₂) (h' : Alike m₂ m₃) : Alike m₁ m₃ :=
  ⟨h'.1.trans h.1, h.2.trans h'.2⟩

theorem Alike.noted {m n : Machine W} (h : Alike m n) (severity : Severity) (text : String) :
    Alike (noted m severity text) (noted n severity text) := by
  refine ⟨h.1, ?_⟩
  simpa [Action.noted] using h.2.append_right [_]

theorem Blind.simulates {a : Action W α} (h : Blind a) : Simulates Alike Eq a a := by
  rintro ⟨world, journal⟩ ⟨_, journal'⟩ x m' ⟨rfl, hperm⟩ hrun
  obtain ⟨entries, hentries, hruns⟩ := h _ x m' hrun
  refine ⟨x, _, hruns journal', rfl, rfl, ?_⟩
  rw [hentries]
  simpa using hperm.append_right entries.toList

end Action

/-- Requests that do not read the journal. -/
structure BlindRequests (env : Environment W H S ε) : Prop where
  now : ∀ h, Blind (env.device.now h)
  nextEvent : ∀ h, Blind (env.device.nextEvent h)
  setFrequency : ∀ h frequency, Blind (env.device.setFrequency h frequency)
  step : ∀ h offset, Blind (env.device.step h offset)
  sample : ∀ servo offset localNanos weight, Blind (env.servo.sample servo offset localNanos weight)
  reset : ∀ servo, Blind (env.servo.reset servo)
  systemTime : Blind env.systemTime

variable {env : Environment W H S ε}

theorem BlindRequests.lockstep (h : BlindRequests env) :
    Lockstep Alike env env fun _ => True where
  noted _ _ severity text hR := hR.noted severity text
  now device _ := (h.now device).simulates
  nextEvent device _ := (h.nextEvent device).simulates
  setFrequency device frequency _ := (h.setFrequency device frequency).simulates
  step device offset _ := (h.step device offset).simulates
  sample servo offset localNanos weight := (h.sample servo offset localNanos weight).simulates
  reset servo := (h.reset servo).simulates
  systemTime := h.systemTime.simulates
  frequency := rfl
  errorText := rfl
  patience := rfl

/-- Taking an event from one device makes no difference to another device. -/
def EventsCommute (env : Environment W H S ε) : Prop :=
  ∀ h h', h ≠ h' → ∀ m x m₁ y m₂, Returns (env.device.nextEvent h) m x m₁ →
    Returns (env.device.nextEvent h') m₁ y m₂ →
    ∃ n₁ n₂, Returns (env.device.nextEvent h') m y n₁ ∧ Returns (env.device.nextEvent h) n₁ x n₂ ∧
      Alike m₂ n₂

/-- Two events change places, together with what is written after each of them. -/
theorem events_swap (hblind : BlindRequests env) (hcommute : EventsCommute env) {h h' : H}
    (hne : h ≠ h') {m n k l : Machine W} {x y : Except ε (Option EdgeEvent)}
    {entries : Array Entry} (entries' : Array Entry) (hstart : Alike m n)
    (hnext : Returns (env.device.nextEvent h) m x k)
    (hnext' : Returns (env.device.nextEvent h') ⟨k.world, k.journal ++ entries⟩ y l) :
    ∃ q₁ q₂, Returns (env.device.nextEvent h') n y q₁ ∧
      Returns (env.device.nextEvent h) ⟨q₁.world, q₁.journal ++ entries'⟩ x q₂ ∧
      Alike ⟨l.world, l.journal ++ entries'⟩ ⟨q₂.world, q₂.journal ++ entries⟩ := by
  obtain ⟨added', hadded', hruns'⟩ := hblind.nextEvent h' _ _ _ hnext'
  obtain ⟨r₁, r₂, hother', hother, hworld, hjournal⟩ :=
    hcommute h h' hne _ _ _ _ _ hnext (hruns' k.journal)
  obtain ⟨added₁, hadded₁, hruns₁⟩ := hblind.nextEvent h' _ _ _ hother'
  obtain ⟨added₂, hadded₂, hruns₂⟩ := hblind.nextEvent h _ _ _ hother
  have hfirst := hruns₁ n.journal
  rw [← hstart.1] at hfirst
  refine ⟨_, _, hfirst, hruns₂ _, hworld, ?_⟩
  -- both journals have the entries of the two requests and of what follows them
  refine List.perm_iff_count.mpr fun entry => ?_
  have hbefore := hstart.2.count_eq entry
  have hafter := hjournal.count_eq entry
  simp only [hadded', hadded₁, hadded₂, Array.toList_append, List.count_append] at hafter ⊢
  omega

/-! ### What each device is asked -/

section Calls

variable [DecidableEq H] {Mixed : H → Prop}

/-- Each device was asked the same in the same order; but on some devices there may be
    other places at which they were asked for their time. -/
structure SameCalls (Mixed : H → Prop) (log log' : CallLog H ε) : Prop where
  order : ∀ h, ¬Mixed h → log'.on h = log.on h
  kinds : ∀ h reading, (log'.on h).filter (·.isReading == reading) =
    (log.on h).filter (·.isReading == reading)

theorem SameCalls.refl (log : CallLog H ε) : SameCalls Mixed log log :=
  ⟨fun _ _ => rfl, fun _ _ => rfl⟩

theorem SameCalls.trans {log₁ log₂ log₃ : CallLog H ε} (h : SameCalls Mixed log₁ log₂)
    (h' : SameCalls Mixed log₂ log₃) : SameCalls Mixed log₁ log₃ where
  order device hpure := (h'.order device hpure).trans (h.order device hpure)
  kinds device reading := (h'.kinds device reading).trans (h.kinds device reading)

theorem SameCalls.append {log log' added added' : CallLog H ε} (h : SameCalls Mixed log log')
    (hadded : SameCalls Mixed added added') :
    SameCalls Mixed (log ++ added) (log' ++ added') where
  order device hpure := by
    rw [CallLog.on_append, CallLog.on_append, h.order device hpure, hadded.order device hpure]
  kinds device reading := by
    simp only [CallLog.on_append, List.filter_append, h.kinds device reading,
      hadded.kinds device reading]

theorem readings_on {readings : CallLog H ε}
    (hreadings : ∀ call ∈ readings, call.2.isReading = true) (h : H) :
    (readings.on h).filter (·.isReading == false) = [] := by
  refine List.filter_eq_nil_iff.mpr fun call hcall => ?_
  obtain ⟨⟨device, call'⟩, hmem, hsome⟩ := List.mem_filterMap.mp hcall
  dsimp only at hsome
  split at hsome
  · obtain rfl := Option.some.inj hsome
    simp [hreadings _ hmem]
  · cases hsome

/-- A device that is none of those asked was asked nothing. -/
theorem CallLog.on_eq_nil {log : CallLog H ε} {h : H} (hne : ∀ call ∈ log, call.1 ≠ h) :
    log.on h = [] := by
  refine List.filterMap_eq_nil_iff.mpr fun call hcall => ?_
  exact if_neg (hne call hcall)

theorem turnCalls_on (h : H) (x : Except ε (Option EdgeEvent)) (readings : CallLog H ε)
    (read : Bool) (device : H) :
    (turnCalls h x readings read).on device =
      (if h = device then [.event x] else []) ++ if read then readings.on device else [] := by
  unfold turnCalls CallLog.on
  by_cases hd : h = device <;> cases read <;> simp [hd]

section Swap

variable {h h' : H} (hne : h ≠ h') {readings : CallLog H ε}
  (x y : Except ε (Option EdgeEvent)) (read read' : Bool)
include hne

/-- A device that gives an event and is not read keeps its order, and so does one that is
    only read. -/
theorem turnCalls_order (hmixed : ∀ call ∈ readings, call.1 = h ∨ call.1 = h' → Mixed call.1)
    {device : H} (hpure : ¬Mixed device) :
    (turnCalls h' y readings read' ++ turnCalls h x readings read).on device =
      (turnCalls h x readings read ++ turnCalls h' y readings read').on device := by
  have hunread (heither : device = h ∨ device = h') : readings.on device = [] :=
    CallLog.on_eq_nil fun call hcall heq =>
      hpure (heq ▸ hmixed call hcall (by rwa [heq]))
  simp only [CallLog.on_append, turnCalls_on]
  by_cases hd : h = device
  · have hd' : h' ≠ device := fun heq => hne (hd.trans heq.symm)
    simp [hd, hd', hunread (.inl hd.symm)]
  · by_cases hd' : h' = device
    · simp [hd, hd', hunread (.inr hd'.symm)]
    · cases read <;> cases read' <;> simp [hd, hd']

/-- Requests to different devices change places, and readings of one reference do. -/
theorem turnCalls_kinds (hreadings : ∀ call ∈ readings, call.2.isReading = true) (device : H)
    (reading : Bool) :
    ((turnCalls h' y readings read' ++ turnCalls h x readings read).on device).filter
        (·.isReading == reading) =
      ((turnCalls h x readings read ++ turnCalls h' y readings read').on device).filter
        (·.isReading == reading) := by
  simp only [CallLog.on_append, turnCalls_on, List.filter_append]
  cases reading with
  | true =>
    -- the events are no readings, and the readings are the same ones
    have hevent (h : H) (x : Except ε (Option EdgeEvent)) :
        (if h = device then [DeviceCall.event x] else []).filter (·.isReading == true) = [] := by
      split <;> rfl
    rw [hevent, hevent]
    cases read <;> cases read' <;> simp
  | false =>
    -- a device gets at most one of the two events
    have hnone (read : Bool) :
        (if read then readings.on device else []).filter (·.isReading == false) = [] := by
      cases read with
      | true => exact readings_on hreadings device
      | false => rfl
    rw [hnone, hnone, List.append_nil, List.append_nil]
    by_cases hd : h = device
    · have hd' : h' ≠ device := fun heq => hne (hd.trans heq.symm)
      simp [hd']
    · simp [hd]

end Swap

end Calls

namespace Orchestrator

/-! ### Turns that change places -/

variable {o o' o₂ : Orchestrator H S} {wait wait' : Waiter W ε} {Inv : W → Prop}
  {Mixed : H → Prop} {reading : Except (ReferenceError ε) Instant}

/-- A source listens to the device whose time is the reference. -/
def HearsAndReads (o : Orchestrator H S) (h : H) : Prop := o.Hears h ∧ o.Reads h

theorem SameDevices.hearsAndReads (hsame : o.SameDevices o') {Mixed : H → Prop}
    (hmixed : ∀ h, o.HearsAndReads h → Mixed h) (h : H) (h' : o'.HearsAndReads h) : Mixed h :=
  hmixed h ⟨hsame.hears h'.1, hsame.reads h'.2⟩

/-- Machines of two cycles that do the same in a different order, in a world in which
    the reference has not changed. -/
def Shuffled [DecidableEq H] (Mixed : H → Prop) (Inv : W → Prop)
    (m n : Machine (W × CallLog H ε)) : Prop :=
  Beside Alike (SameCalls Mixed) m n ∧ Inv m.world.1

section Turns

variable [DecidableEq H] {readings : CallLog H ε} (hblind : BlindRequests env)
  (hcommute : EventsCommute env) (hsep : o.Separate)
  (hsteady : SteadyReference env wait o Inv reading)
  (hmixed : ∀ h, o.HearsAndReads h → Mixed h)
include hblind hcommute hsep hsteady hmixed

theorem turns_swap {i j : Nat} (hne : i ≠ j) (hi : i < o.sources.length)
    (hj : j < o.sources.length) (p : Progress) :
    Simulates (Shuffled Mixed Inv) Eq (o.handleReady env.noting p [i, j])
      (o.handleReady env.noting p [j, i]) := by
  rintro m n ⟨p₂, o₂⟩ m₂ ⟨⟨⟨hworld, hjournal⟩, hcalls⟩, hinv⟩ h
  rw [handleReady_cons_eq] at h
  obtain ⟨⟨p₁, o₁⟩, m₁, hfirst, hsecond⟩ := returns_bind.mp h
  obtain ⟨readings, hmarked, hreads⟩ := hsteady.exists_readings
  have hs : o.sources[i]? = some o.sources[i] := List.getElem?_eq_getElem hi
  have hs' : o.sources[j]? = some o.sources[j] := List.getElem?_eq_getElem hj
  generalize o.sources[i] = s at hs
  generalize o.sources[j] = s' at hs'
  have hclock := hsep.clock_ne hne hs hs'
  obtain ⟨c, hc⟩ := hsep.bound s (List.mem_of_getElem? hs)
  obtain ⟨c', hc'⟩ := hsep.bound s' (List.mem_of_getElem? hs')
  have hdevice := hsep.devices s (List.mem_of_getElem? hs) s' (List.mem_of_getElem? hs') hclock
    c c' hc hc'
  -- the two turns as they were
  obtain ⟨x, k, kept, ambiguous, read, entries, hnext, hturn⟩ :=
    exists_turn hs hc hsteady.takes hreads hinv hfirst
  have hinv₁ : Inv k.world := hsteady.takes _ _ _ _ hinv hnext
  obtain ⟨hsame, rfl⟩ := hfirst.unique (hturn o p m k (.refl o) hc hinv₁ hnext)
  obtain ⟨rfl, rfl⟩ := Prod.mk.inj hsame
  have hsame₁ := o.sameDevices_stamp s.clock kept
  have hc₁' : (o.stamp s.clock kept).clocks.get? s'.clock = some c' :=
    (o.stamp_get?_of_ne hclock.symm kept).trans hc'
  obtain ⟨y, l, kept', ambiguous', read', entries', hnext', hturn'⟩ :=
    exists_turn (hsame₁.sources ▸ hs') hc₁' hsteady.takes (hsame₁.now ▸ hreads) hinv₁ hsecond
  have hinv₂ : Inv l.world := hsteady.takes _ _ _ _ (by exact hinv₁) hnext'
  obtain ⟨hsame, rfl⟩ := hsecond.unique (hturn' _ _ _ l (.refl _) hc₁' hinv₂ hnext')
  obtain ⟨rfl, rfl⟩ := Prod.mk.inj hsame
  -- the two events, taken the other way round
  obtain ⟨q₁, q₂, hnext₁, hnext₂, halike⟩ :=
    events_swap hblind hcommute hdevice entries' ⟨hworld, hjournal⟩ hnext hnext'
  have hinvn : Inv n.world.1 := by
    rw [show n.world.1 = m.world.1 from hworld]
    exact hinv
  have hinvq₁ : Inv q₁.world := hsteady.takes _ _ _ _ (by exact hinvn) hnext₁
  have hinvq₂ : Inv q₂.world := hsteady.takes _ _ _ _ (by exact hinvq₁) hnext₂
  have hfirst' := hturn' o p n q₁ hsame₁.symm hc' hinvq₁ hnext₁
  have hc₂ : (o.stamp s'.clock kept').clocks.get? s.clock = some c :=
    (o.stamp_get?_of_ne hclock kept').trans hc
  have hsecond' := hturn _ (p.mark j ambiguous')
    (withNotes q₁ (n.world.2 ++ turnCalls c'.handle y readings read') entries') q₂
    (o.sameDevices_stamp s'.clock kept') hc₂ hinvq₂ hnext₂
  refine ⟨_, _, returns_handleReady_cons hfirst' hsecond', ?_, ⟨halike, ?_⟩, hinv₂⟩
  · rw [p.mark_comm hne, o.stamp_comm hclock]
  · simp only [withNotes, List.append_assoc]
    have hshared : ∀ call ∈ readings, call.1 = c.handle ∨ call.1 = c'.handle → Mixed call.1 := by
      rintro call hcall (heq | heq)
      · exact hmixed _ ⟨⟨s, List.mem_of_getElem? hs, c, hc, heq.symm⟩, (hmarked call hcall).2⟩
      · exact hmixed _ ⟨⟨s', List.mem_of_getElem? hs', c', hc', heq.symm⟩, (hmarked call hcall).2⟩
    exact hcalls.append ⟨fun device => turnCalls_order hdevice x y read read' hshared,
      turnCalls_kinds hdevice x y read read' fun call hcall => (hmarked call hcall).1⟩

end Turns

section Handling

variable [DecidableEq H] {p p' : Progress} {m m' : Machine (W × CallLog H ε)} {ready : List Nat}

theorem noting_lockstep (Mixed : H → Prop) (hblind : BlindRequests env) :
    Lockstep (Beside Alike (SameCalls Mixed)) env.noting env.noting fun _ => True :=
  hblind.lockstep.noting fun _ _ call h => h.append (.refl [call])

theorem handleReady_self (hblind : BlindRequests env) (hsep : o.Separate)
    (hsteady : SteadyReference env wait o Inv reading) (p : Progress) (ready : List Nat) :
    Simulates (Shuffled Mixed Inv) Eq (o.handleReady env.noting p ready)
      (o.handleReady env.noting p ready) := by
  have hl := noting_lockstep Mixed hblind
  have hself : Simulates (Beside Alike (SameCalls Mixed)) Eq (o.handleReady env.noting p ready)
      (o.handleReady env.noting p ready) := by
    refine (handleReady_agrees (.refl ⟨0⟩ o) rfl ?_ p ready).mono ?_
    · intro o₁ o₁' p index s ho _ hsource
      exact turn_simulates hl hsource (ho.source hsource) (handleEvent_simulates hl ho s (.inr rfl)
        (fun c _ => hl.nextEvent c.handle trivial) fun _ _ _ _ => trivial) p
    · rintro ⟨p₁, o₁⟩ ⟨p₁', o₁'⟩ ⟨rfl, ho, -⟩
      rw [show o₁' = o₁ from ho.eq]
  exact hself.keep fun m x m' hinv h => handleReady_inv hsep hsteady hinv h

/-- Two turns next to each other change places, whatever they are. -/
theorem handleReady_swap (hblind : BlindRequests env) (hcommute : EventsCommute env)
    (hsep : o.Separate) (hsteady : SteadyReference env wait o Inv reading)
    (hmixed : ∀ h, o.HearsAndReads h → Mixed h) (p : Progress) (i j : Nat) :
    Simulates (Shuffled Mixed Inv) Eq (o.handleReady env.noting p [i, j])
      (o.handleReady env.noting p [j, i]) := by
  by_cases hne : i = j
  · subst hne
    exact handleReady_self hblind hsep hsteady p [i, i]
  rcases Nat.lt_or_ge i o.sources.length with hi | hi
  · rcases Nat.lt_or_ge j o.sources.length with hj | hj
    · exact turns_swap hblind hcommute hsep hsteady hmixed hne hi hj p
    · -- only the first of the two is there
      rw [handleReady_beyond hj]
      rintro m n x m' hR h
      rw [handleReady_cons_eq] at h
      obtain ⟨⟨p₁, o₁⟩, m₁, hfirst, hrest⟩ := returns_bind.mp h
      rw [handleReady_beyond (by rwa [sources_of_setup_eq (handleReady_setup hfirst)])] at hrest
      obtain ⟨rfl, rfl⟩ := returns_pure.mp hrest
      exact handleReady_self hblind hsep hsteady p [i] m n _ _ hR hfirst
  · -- at most the second of the two is there
    rw [handleReady_beyond hi]
    rintro m n ⟨p₁, o₁⟩ m' hR h
    obtain ⟨y, n', hrun, rfl, hR'⟩ := handleReady_self hblind hsep hsteady p [j] m n _ _ hR h
    refine ⟨_, n', returns_handleReady_cons hrun ?_, rfl, hR'⟩
    rw [handleReady_beyond (by rwa [sources_of_setup_eq (handleReady_setup hrun)])]
    exact returns_pure.mpr ⟨rfl, rfl⟩

theorem Shuffled.refl (m : Machine (W × CallLog H ε)) (hinv : Inv m.world.1) :
    Shuffled Mixed Inv m m :=
  ⟨⟨.refl _, .refl _⟩, hinv⟩

theorem Shuffled.trans {m₁ m₂ m₃ : Machine (W × CallLog H ε)} (h : Shuffled Mixed Inv m₁ m₂)
    (h' : Shuffled Mixed Inv m₂ m₃) : Shuffled Mixed Inv m₁ m₃ :=
  ⟨⟨h.1.1.trans h'.1.1, h.1.2.trans h'.1.2⟩, h.2⟩

/-- The ready sources of a wait may be handled in any order. -/
theorem handleReady_perm (hblind : BlindRequests env) (hcommute : EventsCommute env)
    (hsep : o.Separate) (hsteady : SteadyReference env wait o Inv reading)
    (hmixed : ∀ h, o.HearsAndReads h → Mixed h) {ready' : List Nat}
    (hperm : ready.Perm ready') (p : Progress) :
    Simulates (Shuffled Mixed Inv) Eq (o.handleReady env.noting p ready)
      (o.handleReady env.noting p ready') := by
  induction hperm generalizing o p with
  | nil => exact simulates_pure rfl
  | @cons index rest rest' _ ih =>
    rw [← List.singleton_append (l := rest), handleReady_append,
      ← List.singleton_append (l := rest'), handleReady_append]
    refine ((handleReady_self hblind hsep hsteady p [index]).recall
      fun m x m' h => handleReady_setup h).bind ?_
    rintro ⟨p₁, o₁⟩ _ ⟨rfl, hsetup⟩
    have hsame : o.SameDevices o₁ := .of_setup_eq hsetup
    exact ih (hsep.of_sameDevices hsame) (hsteady.of_sameDevices hsame)
      (hsame.hearsAndReads hmixed) p₁
  | swap i j ready =>
    have hsplit (i j : Nat) : i :: j :: ready = [i, j] ++ ready := rfl
    rw [hsplit, handleReady_append, hsplit, handleReady_append]
    refine ((handleReady_swap hblind hcommute hsep hsteady hmixed p j i).recall
      fun m x m' h => handleReady_setup h).bind ?_
    rintro ⟨p₁, o₁⟩ _ ⟨rfl, hsetup⟩
    have hsame : o.SameDevices o₁ := .of_setup_eq hsetup
    exact handleReady_self hblind (hsep.of_sameDevices hsame) (hsteady.of_sameDevices hsame) p₁
      ready
  | trans _ _ ih ih' =>
    intro m n x m' hR h
    have hinvn : Inv n.world.1 := by
      rw [show n.world.1 = m.world.1 from hR.1.1.1]
      exact hR.2
    obtain ⟨y, n₁, hrun, rfl, hR₁⟩ := ih hsep hsteady hmixed p m n x m' hR h
    obtain ⟨z, n₂, hrun', rfl, hR₂⟩ := ih' hsep hsteady hmixed p n n _ n₁ (.refl n hinvn) hrun
    exact ⟨_, n₂, hrun', rfl, hR₁.trans hR₂⟩

end Handling

/-! ### The whole cycle -/

/-- One waiter gives every answer of another one, with the ready sources in an order
    of its own. -/
def Reorders (wait wait' : Waiter W ε) : Prop :=
  ∀ timeout m answer m', Returns (wait timeout) m answer m' →
    ∃ answer', Returns (wait' timeout) m answer' m' ∧ SameAnswer List.Perm answer answer'

theorem Reorders.simulates (h : Reorders wait wait') (hblind : ∀ timeout, Blind (wait timeout))
    (timeout : UInt64) : Simulates Alike (SameAnswer List.Perm) (wait timeout) (wait' timeout) := by
  intro m n answer m' hR hrun
  obtain ⟨_, n', hrun', rfl, hR'⟩ := (hblind timeout).simulates m n answer m' hR hrun
  obtain ⟨answer', hother, hanswer⟩ := h timeout n answer n' hrun'
  exact ⟨answer', n', hother, hanswer, hR'⟩

theorem unlockClocks_inv {ids : List ClockId} {m m' : Machine (W × CallLog H ε)}
    (hsteady : SteadyReference env wait o₂ Inv reading) (hinv : Inv m.world.1)
    (h : Returns (o.unlockClocks env.noting ids) m o' m') : Inv m'.world.1 := by
  induction ids generalizing o m with
  | nil =>
    obtain ⟨-, rfl⟩ := returns_pure.mp h
    exact hinv
  | cons id ids ih =>
    unfold unlockClocks at h
    split at h
    · exact ih hinv h
    · split at h
      · simp only [Clock.unlock, returns_bind, returns_log] at h
        obtain ⟨_, _, rfl, _, m₂, ⟨servo, m₃, hreset, -, rfl⟩, h⟩ := h
        obtain ⟨k, hbare, rfl⟩ := returns_beside_iff.mp hreset
        exact ih (hsteady.resets _ _ _ _ (by exact hinv) hbare) h
      · exact ih hinv h

section Cycle

variable [DecidableEq H]

theorem poll_shuffled (hblind : BlindRequests env) (hwaits : ∀ timeout, Blind (wait timeout))
    (hcommute : EventsCommute env) (horder : Reorders wait wait') (hsep : o.Separate)
    (hsteady : SteadyReference env wait o Inv reading)
    (hmixed : ∀ h, o.HearsAndReads h → Mixed h) :
    Simulates (Shuffled Mixed Inv) Eq (o.poll env.noting wait.beside)
      (o.poll env.noting wait'.beside) := by
  have hl := noting_lockstep Mixed hblind
  refine (poll_simulates List.Perm (fun a b => a = b ∧ o.SameDevices a) ?_ ?_ ?_ ?_ ?_ ?_ rfl
    ⟨rfl, .refl o⟩).mono ?_
  · exact fun m n severity text hR => ⟨hl.noted m n severity text hR.1, hR.2⟩
  · rintro ready ready' hperm
    exact ⟨fun hnil => (hnil ▸ hperm).eq_nil, fun hnil => (hnil ▸ hperm).nil_eq.symm⟩
  · intro timeout
    refine ((horder.simulates hwaits timeout).beside (C := SameCalls Mixed)).keep ?_
    intro m x m' hinv h
    obtain ⟨k, hbare, rfl⟩ := returns_beside_iff.mp h
    exact hsteady.waits _ _ _ _ (by exact hinv) hbare
  · rintro o₁ _ p ready ready' ⟨rfl, hsame⟩ hperm
    refine ((handleReady_perm hblind hcommute (hsep.of_sameDevices hsame)
      (hsteady.of_sameDevices hsame) (hsame.hearsAndReads hmixed) hperm p).recall
      fun m x m' h => handleReady_setup h).mono ?_
    rintro ⟨p₁, o₂⟩ _ ⟨rfl, hsetup⟩
    exact ⟨rfl, rfl, hsame.trans (.of_setup_eq hsetup)⟩
  · rintro o₁ _ ⟨rfl, hsame⟩
    have hunlock := unlockClocks_simulates hl sameLock_eq (.refl ⟨0⟩ o₁) o₁.clocks.ids
    refine ((hunlock.keep (I := fun m => Inv m.world.1) fun m x m' hinv h =>
      unlockClocks_inv hsteady hinv h).recall fun m x m' h => unlockClocks_setup h).mono ?_
    rintro o₂ o₂' ⟨ho, hsetup⟩
    exact ⟨ho.eq.symm, hsame.trans (.of_setup_eq hsetup)⟩
  · rintro o₁ _ ⟨rfl, -⟩
    rfl
  · rintro ⟨outcome, o₁⟩ ⟨_, _⟩ ⟨rfl, rfl, -⟩
    rfl

/-- In a cycle of an orchestrator whose sources have clocks and devices of their own,
    with a reference that reads the same as long as nothing is corrected, it does not
    matter in which order the ready sources of any wait are named:

    the result is the same, the clocks are left the same, and so is the world; each
    device is asked the same in the same order, except that a device which a source
    listens to and which is the reference too may be asked for its time at other places;
    and the same is written to the journal, in some order. -/
theorem ready_order {m m' : Machine (W × CallLog H ε)}
    {result : Except (SyncError ε) (List ClockReport)} (hblind : BlindRequests env)
    (hwaits : ∀ timeout, Blind (wait timeout)) (hcommute : EventsCommute env)
    (horder : Reorders wait wait') (hsep : o.Separate)
    (hsteady : SteadyReference env wait o Inv reading) (hinv : Inv m.world.1)
    (h : Returns (o.runCycle env.noting wait.beside) m (result, o') m') :
    ∃ n', Returns (o.runCycle env.noting wait'.beside) m (result, o') n' ∧
      n'.world.1 = m'.world.1 ∧ SameCalls o.HearsAndReads m'.world.2 n'.world.2 ∧
      m'.journal.toList.Perm n'.journal.toList := by
  rw [runCycle_eq] at h
  obtain ⟨⟨selection, o₁⟩, m₁, hselect, h⟩ := returns_bind.mp h
  obtain ⟨⟨outcome, o₂⟩, m₂, hpoll, hrest⟩ := returns_bind.mp h
  have hinv₁ : Inv m₁.world.1 := by
    rw [show m₁.world.1 = m.world.1 from (steady_reconfigure Prod.fst o).of_returns hselect]
    exact hinv
  have hflushed : o.SameDevices o₁.flushTimestamps :=
    (reconfigure_sameDevices hselect).trans (.of_setup_eq (setup_flushTimestamps o₁))
  obtain ⟨_, n₂, hpoll', rfl, hR⟩ := poll_shuffled hblind hwaits hcommute horder
    (hsep.of_sameDevices hflushed) (hsteady.of_sameDevices hflushed)
    (hflushed.hearsAndReads fun _ => id) m₁ m₁ _ m₂ (Shuffled.refl m₁ hinv₁) hpoll
  obtain ⟨_, n', hrest', rfl, hR'⟩ := afterPoll_simulates (noting_lockstep _ hblind)
    (fun _ => trivial) o₂ outcome m₂ n₂ _ m' hR.1 hrest
  refine ⟨n', ?_, hR'.1.1, hR'.2, hR'.1.2⟩
  rw [runCycle_eq]
  exact returns_bind.mpr ⟨_, m₁, hselect, returns_bind.mpr ⟨_, n₂, hpoll', hrest'⟩⟩

end Cycle

/-! ### Two edges on the bench -/

/-- Name the ready sources the other way round. -/
def reversed (wait : Waiter W ε) : Waiter W ε := fun timeoutMs => do
  let answer ← wait timeoutMs
  return answer.map List.reverse

theorem reorders_reversed (wait : Waiter W ε) : Reorders wait (reversed wait) := by
  intro timeout m answer m' h
  refine ⟨answer.map List.reverse, returns_bind.mpr ⟨answer, m', h, rfl⟩, ?_⟩
  cases answer with
  | error e => rfl
  | ok ready => exact ready.reverse_perm.symm

theorem blind_perform (f : W → α × W) : Blind (perform f) := by
  intro m x m' h
  obtain ⟨rfl, rfl⟩ := returns_perform.mp h
  exact ⟨#[], by simp, fun journal => returns_perform.mpr ⟨rfl, by simp⟩⟩

theorem blind_sampleNoted (s : PiServo) (offset localNanos : Int64) (weight : Float) :
    Blind (s.sampleNoted offset localNanos weight : Action W ((Float × ServoState) × PiServo)) := by
  intro m x m' h
  simp only [PiServo.sampleNoted] at h ⊢
  split at h
  · next hjump =>
    simp only [returns_bind, returns_log, returns_pure] at h
    obtain ⟨_, _, rfl, rfl, rfl⟩ := h
    refine ⟨#[⟨.trace, PiServo.jumpText offset localNanos⟩], by simp [noted], fun journal => ?_⟩
    simp [hjump, noted]
  · next hjump =>
    obtain ⟨rfl, rfl⟩ := returns_pure.mp h
    exact ⟨#[], by simp, fun journal => by simp [hjump]⟩

theorem blind_request (method : Bench.Method) (f : Bench.Device → α)
    (effect : Bench.Device → Bench.World → Bench.World) (position : Nat) :
    Blind (Bench.request method f effect position) :=
  blind_perform _

theorem blind_command (method : Bench.Method) (call : Bench.Device → Bench.Call)
    (f : Bench.Device → Bench.Device) (position : Nat) :
    Blind (Bench.command method call f position) :=
  blind_request _ _ _ _

theorem steeredBench_blind : BlindRequests (steeredBench {}) where
  now position := blind_request .now (·.time) (fun _ w => w) position
  nextEvent position := blind_request .nextEvent (·.events.head?)
    (fun _ w => w.modify position fun d => { d with events := d.events.tail }) position
  setFrequency position f := blind_command .setFrequency (.setFrequency ·.index f)
    (fun d => { d with frequency := f }) position
  step position offset := blind_command .step (.step ·.index offset)
    (fun d => { d with time := Bench.moved d.time offset }) position
  sample servo offset localNanos weight := blind_sampleNoted servo offset localNanos weight
  reset servo := by
    intro m x m' h
    obtain ⟨rfl, rfl⟩ := returns_pure.mp h
    exact ⟨#[], by simp, fun journal => returns_pure.mpr ⟨rfl, by simp⟩⟩
  systemTime := blind_perform fun w : Bench.World => (w.systemTime, w)

/-- What a device of the bench, if there is one, answers when it is asked for an event. -/
def eventOf : Option Bench.Device → Except Bench.Failure (Option EdgeEvent)
  | none => .error .noSuchDevice
  | some d =>
    if d.failing.contains .nextEvent then .error (.failed .nextEvent) else .ok d.events.head?

def dropEvent (d : Bench.Device) : Bench.Device :=
  if d.failing.contains .nextEvent then d else { d with events := d.events.tail }

theorem dropEvent_of_failing_nil {d : Bench.Device} (h : d.failing = []) :
    dropEvent d = { d with events := d.events.tail } := by
  simp [dropEvent, h]

theorem modify_congr {w : Bench.World} {position : Nat} {f g : Bench.Device → Bench.Device}
    (h : ∀ d, w.devices[position]? = some d → f d = g d) :
    w.modify position f = w.modify position g := by
  have hsame : w.devices.modify position f = w.devices.modify position g := by
    refine List.ext_getElem? fun i => ?_
    rw [List.getElem?_modify, List.getElem?_modify]
    by_cases hi : position = i
    · subst hi
      cases hd : w.devices[position]? with
      | none => rfl
      | some d => simp [h d hd]
    · simp [hi]
  simp only [Bench.World.modify, hsame]

theorem modify_id (w : Bench.World) (position : Nat) : w.modify position id = w := by
  simp [Bench.World.modify]

theorem request_nextEvent (position : Nat) :
    (steeredBench {}).device.nextEvent position =
      Action.perform fun w => (eventOf w.devices[position]?, w.modify position dropEvent) := by
  have hrequest : (steeredBench {}).device.nextEvent position =
      Bench.request .nextEvent (·.events.head?)
        (fun _ w => w.modify position fun d => { d with events := d.events.tail }) position := rfl
  rw [hrequest, Bench.request]
  congr 1
  funext w
  cases hd : w.devices[position]? with
  | none =>
    have hsame : w.modify position dropEvent = w.modify position id := modify_congr (by simp [hd])
    rw [hsame, modify_id, eventOf]
  | some d =>
    dsimp only [eventOf]
    split
    · next hfailing =>
      have hsame : w.modify position dropEvent = w.modify position id := by
        refine modify_congr fun d' hd' => ?_
        obtain rfl := Option.some.inj (hd.symm.trans hd')
        exact if_pos hfailing
      rw [hsame, modify_id]
    · next hfailing =>
      refine Prod.ext rfl (modify_congr fun d' hd' => ?_)
      obtain rfl := Option.some.inj (hd.symm.trans hd')
      exact (if_neg hfailing).symm

theorem modify_comm (w : Bench.World) {p q : Nat} (hne : p ≠ q)
    (f g : Bench.Device → Bench.Device) :
    (w.modify p f).modify q g = (w.modify q g).modify p f := by
  have hsame : (w.devices.modify p f).modify q g = (w.devices.modify q g).modify p f := by
    refine List.ext_getElem? fun i => ?_
    simp only [List.getElem?_modify]
    by_cases hi : p = i
    · have hi' : ¬q = i := fun heq => hne (hi.trans heq.symm)
      simp [hi, hi']
    · simp [hi]
  simp only [Bench.World.modify, hsame]

theorem steeredBench_eventsCommute : EventsCommute (steeredBench {}) := by
  intro p q hne m x m₁ y m₂ hfirst hsecond
  rw [request_nextEvent, returns_perform] at hfirst hsecond
  obtain ⟨rfl, rfl⟩ := hfirst
  obtain ⟨rfl, rfl⟩ := hsecond
  have hother {p q : Nat} (hne : p ≠ q) (w : Bench.World) :
      (w.modify p dropEvent).devices[q]? = w.devices[q]? := by
    simp [Bench.World.modify, hne]
  refine ⟨⟨m.world.modify q dropEvent, m.journal⟩, ⟨(m.world.modify q dropEvent).modify p dropEvent,
    m.journal⟩, ?_, ?_, ?_, .refl _⟩
  · rw [request_nextEvent, returns_perform]
    exact ⟨by rw [hother hne], rfl⟩
  · rw [request_nextEvent, returns_perform]
    exact ⟨by rw [hother hne.symm], rfl⟩
  · exact modify_comm _ hne.symm _ _

/-- Two clocks that are listened to, with servos of their own. -/
def twoSteered : Orchestrator Nat PiServo where
  config := {}
  clocks := ⟨[some { Clock.opened "eth0" 0 0 (.start {} {} 0 500000 1) with isDestination := true },
    some { Clock.opened "eth1" 1 1 (.start {} {} 0 500000 1) with isDestination := true }]⟩
  reference := .generic .zero
  sources := [.usual "eth0" ⟨0⟩, .usual "eth1" ⟨1⟩]
  topology := none
  sourceClock := none

theorem twoSteered_separate : twoSteered.Separate := by
  have hsources : ∀ s ∈ twoSteered.sources, s = .usual "eth0" ⟨0⟩ ∨ s = .usual "eth1" ⟨1⟩ := by
    simp [twoSteered]
  refine ⟨fun s hs => ?_, by simp [twoSteered, EdgeSource.usual], ?_⟩
  · rcases hsources s hs with rfl | rfl <;> exact ⟨_, rfl⟩
  · intro s hs s' hs' hne c c' hc hc'
    rcases hsources s hs with rfl | rfl <;> rcases hsources s' hs' with rfl | rfl
    · exact absurd rfl hne
    · cases hc
      cases hc'
      decide
    · cases hc
      cases hc'
      decide
    · exact absurd rfl hne

def twoEdges : Machine (Bench.World × CallLog Nat Bench.Failure) where
  world := ({
    devices := [{ name := "eth0", time := ⟨1000000000000⟩, events := [⟨0, ⟨1000000000400⟩⟩] },
      { name := "eth1", index := 1, events := [⟨0, ⟨999999999300⟩⟩] }]
    systemTime := ⟨1000000000000⟩
    script := [some [0, 1]] }, [])
  journal := #[]

/-- What is known of the devices and the time of the system stays so while a bench is asked
    for events. -/
theorem SteadyReference.of_bench {o : Orchestrator Nat PiServo} {handles : List (Option Nat)}
    {Inv : Bench.World → Prop} {reading : Except (ReferenceError Bench.Failure) Instant}
    (hreads : ∀ m, Inv m.world →
      Returns (o.reference.now (steeredBench {}) o.clocks) m reading m)
    (hsame : ∀ w w', w'.devices = w.devices → w'.systemTime = w.systemTime → Inv w → Inv w')
    (hdrop : ∀ w position, Inv w → Inv (w.modify position dropEvent)) :
    SteadyReference (steeredBench {}) (Bench.wait handles) o Inv reading where
  reads := hreads
  waits timeout m x m' hm h := by
    obtain ⟨-, rfl⟩ := returns_perform.mp h
    dsimp only
    split
    · exact hsame m.world _ rfl rfl hm
    · split <;> exact hsame m.world _ rfl rfl hm
  takes position m x m' hm h := by
    rw [request_nextEvent, returns_perform] at h
    obtain ⟨-, rfl⟩ := h
    exact hdrop _ _ hm
  resets servo m x m' hm h := by
    obtain ⟨-, rfl⟩ := returns_pure.mp h
    exact hm

theorem twoSteered_steady :
    SteadyReference (steeredBench {}) (Bench.wait [some 0, some 1]) twoSteered
      (fun w => w.systemTime = ⟨1000000000000⟩) (.ok ⟨1000000000000⟩) := by
  refine .of_bench (fun m hm => ?_) (fun w w' _ htime hw => htime.trans hw) fun _ _ hw => hw
  have hadd : (⟨1000000000000⟩ : Instant).add .zero = .ok ⟨1000000000000⟩ := by decide
  have htime : Returns (steeredBench {}).systemTime m m.world.systemTime m := rfl
  refine returns_bind.mpr ⟨_, m, htime, ?_⟩
  rw [hm]
  exact returns_bind.mpr ⟨_, m, returns_checked.mpr ⟨hadd, rfl⟩, returns_pure.mpr ⟨rfl, rfl⟩⟩

/-- The two clocks, the first of which is the reference. -/
def firstIsReference : Orchestrator Nat PiServo := { twoSteered with reference := .phc ⟨0⟩ }

theorem firstIsReference_separate : firstIsReference.Separate :=
  ⟨twoSteered_separate.bound, twoSteered_separate.clocks, twoSteered_separate.devices⟩

/-- The first device answers with this time. -/
def ShowsFirst (t : Instant) (w : Bench.World) : Prop :=
  ∃ d, w.devices[0]? = some d ∧ d.time = t ∧ d.failing = []

theorem ShowsFirst.modify {t : Instant} {w : Bench.World} (h : ShowsFirst t w) (position : Nat) :
    ShowsFirst t (w.modify position dropEvent) := by
  obtain ⟨d, hd, htime, hfailing⟩ := h
  by_cases hfirst : position = 0
  · subst hfirst
    refine ⟨{ d with events := d.events.tail }, ?_, htime, hfailing⟩
    simp [Bench.World.modify, hd, dropEvent_of_failing_nil hfailing]
  · exact ⟨d, by simp [Bench.World.modify, hfirst, hd], htime, hfailing⟩

theorem firstIsReference_steady (t : Instant) :
    SteadyReference (steeredBench {}) (Bench.wait []) firstIsReference (ShowsFirst t)
      (.ok t) := by
  refine .of_bench (fun m hm => ?_) (fun w w' hdevices _ hw => ?_) fun _ position hw =>
    hw.modify position
  · obtain ⟨d, hd, htime, hfailing⟩ := hm
    have hrequest : (steeredBench {}).device.now 0 =
        Bench.request .now (·.time) (fun _ w => w) 0 := rfl
    have hnow : Returns ((steeredBench {}).device.now 0) m (.ok t) m := by
      rw [hrequest, Bench.request, returns_perform]
      simp [hd, htime, hfailing]
    exact returns_bind.mpr ⟨_, m, hnow, returns_pure.mpr ⟨rfl, rfl⟩⟩
  · rwa [ShowsFirst, hdevices]

/-- Where in a cycle the first device is asked for its time. -/
def readingsOfFirst (wait : Waiter Bench.World Bench.Failure) : List Bool :=
  let run := (firstIsReference.runCycle (steeredBench {}).noting wait.beside).outcome twoEdges
  (run.2.world.2.on 0).map DeviceCall.isReading

/-- The first device gives its event and is asked for its time after that; but if the second
    source is handled first, it is asked for its time before. -/
theorem not_forall_ready_order_keeps_calls :
    ¬∀ (wait wait' : Waiter Bench.World Bench.Failure) (o o' : Orchestrator Nat PiServo)
      (Inv : Bench.World → Prop) (reading : Except (ReferenceError Bench.Failure) Instant)
      (m m' : Machine (Bench.World × CallLog Nat Bench.Failure))
      (result : Except (SyncError Bench.Failure) (List ClockReport)),
      (∀ timeout, Blind (wait timeout)) → Reorders wait wait' → o.Separate →
      SteadyReference (steeredBench {}) wait o Inv reading → Inv m.world.1 →
      Returns (o.runCycle (steeredBench {}).noting wait.beside) m (result, o') m' →
      ∃ n', Returns (o.runCycle (steeredBench {}).noting wait'.beside) m (result, o') n' ∧
        n'.world.1 = m'.world.1 ∧ ∀ h, n'.world.2.on h = m'.world.2.on h := by
  intro hclaim
  have hdiffers : readingsOfFirst (reversed (Bench.wait [])) ≠ readingsOfFirst (Bench.wait []) := by
    decide +kernel
  have hends : ((firstIsReference.runCycle (steeredBench {}).noting
      (Bench.wait []).beside).outcome twoEdges).1.isOk = true := by decide +kernel
  cases hresult : ((firstIsReference.runCycle (steeredBench {}).noting
      (Bench.wait []).beside).outcome twoEdges).1 with
  | error e =>
    rw [hresult] at hends
    cases hends
  | ok x =>
    have hstart : ShowsFirst ⟨1000000000000⟩ twoEdges.world.1 := ⟨_, rfl, rfl, rfl⟩
    obtain ⟨n', hrun', -, hcalls⟩ := hclaim (Bench.wait []) (reversed (Bench.wait []))
      firstIsReference x.2 (ShowsFirst ⟨1000000000000⟩) _ twoEdges _ x.1
      (fun _ => blind_perform _) (reorders_reversed _) firstIsReference_separate
      (firstIsReference_steady _) hstart (returns_of_outcome hresult)
    refine hdiffers ?_
    have hrun₂ : ((firstIsReference.runCycle (steeredBench {}).noting
        (reversed (Bench.wait [])).beside).outcome twoEdges).2 = n' := congrArg Prod.snd hrun'
    simp only [readingsOfFirst, hrun₂, hcalls 0]

/-- Whether a cycle ends with two reports. -/
def reportsTwo : Except Fault (Except (SyncError Bench.Failure) (List ClockReport) ×
      Orchestrator Nat PiServo) → Bool
  | .ok (.ok [_, _], _) => true
  | _ => false

/-- Both edges are reported on, whichever of them is handled first. -/
theorem ready_order_twoEdges :
    ∃ (first second : ClockReport) (o' : Orchestrator Nat PiServo)
      (m' n' : Machine (Bench.World × CallLog Nat Bench.Failure)),
      Returns (twoSteered.runCycle (steeredBench {}).noting (Bench.wait [some 0, some 1]).beside)
        twoEdges (.ok [first, second], o') m' ∧
      Returns (twoSteered.runCycle (steeredBench {}).noting
        (reversed (Bench.wait [some 0, some 1])).beside) twoEdges (.ok [first, second], o') n' ∧
      n'.world.1 = m'.world.1 ∧ ∀ h, n'.world.2.on h = m'.world.2.on h := by
  have hcheck : reportsTwo ((twoSteered.runCycle (steeredBench {}).noting
      (Bench.wait [some 0, some 1]).beside).outcome twoEdges).1 = true := by decide +kernel
  unfold reportsTwo at hcheck
  split at hcheck
  · next first second o' hresult =>
    have hrun := returns_of_outcome hresult
    obtain ⟨n', hrun', hworld, hcalls, -⟩ := ready_order steeredBench_blind
      (fun _ => blind_perform _) steeredBench_eventsCommute (reorders_reversed _)
      twoSteered_separate twoSteered_steady rfl hrun
    have hpure (h : Nat) : ¬twoSteered.HearsAndReads h := by
      rintro ⟨-, id, c, ⟨⟩, -⟩
    exact ⟨first, second, o', _, n', hrun, hrun', hworld, fun h => hcalls.order h (hpure h)⟩
  · cases hcheck

end Orchestrator

end ClockDiscipline
