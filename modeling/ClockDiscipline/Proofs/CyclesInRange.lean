/-
  ClockDiscipline/Proofs/CyclesInRange.lean
  =========================================
  **No cycle of an orchestrator overflows at times of this century.**

  The times that an orchestrator keeps are the timestamps of its clocks, and
  each of them is an event with the correction of its source or an edge of the
  reference.  `Orchestrator.Moderate` says that they are near the years from
  1970 to 2100, and that the offsets of the settings are moderate.  Every
  operation keeps that and does not overflow, as long as the devices and the
  system show such times.
-/
import ClockDiscipline.Proofs.Collecting
import ClockDiscipline.Proofs.Contemporary
import ClockDiscipline.Proofs.Reconfiguring

namespace ClockDiscipline

open ClockDiscipline.Action

variable {W H S ε : Type}

/-! ### What is asked for -/

/-- Clocks, events and the system show times in these years, and no request
    overflows. -/
structure Environment.Contemporary (env : Environment W H S ε) : Prop where
  now : ∀ h, (env.device.now h).Fits (Answers Instant.Contemporary)
  nextEvent : ∀ h, (env.device.nextEvent h).Fits
    (Answers fun next => ∀ event, next = some event → event.time.Contemporary)
  systemTime : env.systemTime.Fits Instant.Contemporary
  setFrequency : ∀ h f, (env.device.setFrequency h f).Fits fun _ => True
  step : ∀ h offset, (env.device.step h offset).Fits fun _ => True
  pinCount : ∀ h, (env.device.pinCount h).Fits fun _ => True
  setPinFunction : ∀ h pin channel, (env.device.setPinFunction h pin channel).Fits fun _ => True
  enableEdges : ∀ h channel polarity,
    (env.device.enableEdges h channel polarity).Fits fun _ => True
  disableEdges : ∀ h channel, (env.device.disableEdges h channel).Fits fun _ => True
  sample : ∀ s offset localNanos weight,
    (env.servo.sample s offset localNanos weight).Fits fun _ => True
  reset : ∀ s, (env.servo.reset s).Fits fun _ => True
  openClock : ∀ name, (env.openClock name).Fits fun _ => True
  makeServo : ∀ h, (env.makeServo h).Fits fun _ => True

/-! ### Timestamps -/

namespace Registry

/-- All timestamps are near. -/
def Stamped (r : Registry H S) : Prop :=
  ∀ id c t, r.get? id = some c → c.timestamp = some t → t.Near nanosPerSecond

variable {r r' : Registry H S} {id : ClockId}

theorem stamped_empty : (empty : Registry H S).Stamped := by
  intro id c t hc
  simp [empty, get?] at hc

theorem Stamped.set {c : Clock H S} (h : r.Stamped)
    (hc : ∀ t, c.timestamp = some t → t.Near nanosPerSecond) : (r.set id c).Stamped := by
  intro other own t hown ht
  rw [Registry.set, get?_modify] at hown
  split at hown
  · obtain ⟨_, -, rfl⟩ := Option.map_eq_some_iff.mp hown
    exact hc t ht
  · exact h other own t hown ht

/-- Clocks that keep their timestamps, lose them, or are taken away. -/
theorem Stamped.kept (h : r.Stamped)
    (hkept : ∀ id c', r'.get? id = some c' → c'.timestamp = none ∨
      ∃ c, r.get? id = some c ∧ c'.timestamp = c.timestamp) : r'.Stamped := by
  intro id c' t hc' ht
  rcases hkept id c' hc' with hnone | ⟨c, hc, hsame⟩
  · rw [hnone] at ht
    cases ht
  · exact h id c t hc (hsame.symm.trans ht)

theorem Stamped.modify (h : r.Stamped) {f : Clock H S → Clock H S}
    (hf : ∀ c, (f c).timestamp = none ∨ (f c).timestamp = c.timestamp) :
    (r.modify id f).Stamped := by
  refine h.kept fun other c' hc' => ?_
  rw [get?_modify] at hc'
  split at hc'
  · obtain ⟨c, hc, rfl⟩ := Option.map_eq_some_iff.mp hc'
    exact (hf c).imp_right fun hsame => ⟨c, hc, hsame⟩
  · exact .inr ⟨c', hc', rfl⟩

theorem Stamped.flush (h : r.Stamped) : (r.map Clock.flushTimestamp).Stamped := by
  refine h.kept fun id c' hc' => ?_
  rw [get?_map] at hc'
  obtain ⟨c, -, rfl⟩ := Option.map_eq_some_iff.mp hc'
  exact .inl rfl

theorem Stamped.push (h : r.Stamped) (name : String) (index : UInt32) (handle : H) (servo : S) :
    (r.push (.opened name index handle servo)).2.Stamped := by
  refine h.kept fun id c' hc' => ?_
  rw [get?_push] at hc'
  split at hc'
  · cases hc'
    exact .inl rfl
  · exact .inr ⟨c', hc', rfl⟩

theorem Stamped.destroy {source : Option ClockId} {c : Clock H S} (h : r.Stamped)
    (hdestroy : (r.destroy id source : Except (RegistryError ε) _) = .ok (c, r')) :
    r'.Stamped := by
  refine h.kept fun other own hown => ?_
  obtain ⟨-, -, hget⟩ := destroy_cases hdestroy
  rw [hget] at hown
  split at hown
  · cases hown
  · exact .inr ⟨own, hown, rfl⟩

end Registry

namespace Orchestrator

/-- The offsets of the settings are moderate, and the timestamps are near. -/
structure Moderate (o : Orchestrator H S) : Prop where
  phase : o.config.phase.Moderate
  reference : ∀ utcOffset, o.reference = .generic utcOffset → utcOffset.Moderate
  corrections : ∀ s ∈ o.sources, s.correction.Moderate
  stamps : o.clocks.Stamped

variable {env : Environment W H S ε} {wait : Waiter W ε} {o : Orchestrator H S}

theorem Moderate.withClocks (h : o.Moderate) {clocks : Registry H S} (hclocks : clocks.Stamped) :
    ({ o with clocks := clocks } : Orchestrator H S).Moderate :=
  ⟨h.phase, h.reference, h.corrections, hclocks⟩

theorem Moderate.flushTimestamps (h : o.Moderate) : o.flushTimestamps.Moderate :=
  h.withClocks h.stamps.flush

end Orchestrator

/-! ### Reading the reference -/

section Requests

variable {env : Environment W H S ε} (henv : env.Contemporary)

include henv

theorem Reference.fits_now {reference : Reference} (clocks : Registry H S)
    (hreference : ∀ utcOffset, reference = .generic utcOffset → utcOffset.Moderate) :
    (reference.now env clocks).Fits (Answers (Instant.Near 0)) := by
  cases reference with
  | generic utcOffset =>
    refine fits_bind henv.systemTime fun utc hutc => ?_
    refine fits_bind (fits_checked (hutc.fits_add (hreference utcOffset rfl))) fun t ht => ?_
    exact fits_pure (answers_ok ht)
  | phc id =>
    unfold Reference.now
    dsimp only
    split
    · exact fits_pure answers_error
    · refine fits_bind (henv.now _) fun answer hanswer => fits_pure ?_
      cases answer with
      | error e => exact answers_error
      | ok t => exact answers_ok (hanswer t rfl).near

theorem Reference.fits_edge {reference : Reference} (clocks : Registry H S) {phase : Duration}
    (hreference : ∀ utcOffset, reference = .generic utcOffset → utcOffset.Moderate)
    (hphase : phase.Moderate) :
    (reference.edge env clocks phase).Fits (Answers (Instant.Near nanosPerSecond)) := by
  refine fits_bind (Reference.fits_now henv clocks hreference) fun reading hreading => ?_
  cases reading with
  | error e => exact fits_pure answers_error
  | ok t =>
    refine fits_bind (fits_checked (fits_approximateEdge (hreading t rfl) hphase)) ?_
    intro edge hedge
    exact fits_pure (answers_ok hedge)

/-! ### Events -/

theorem EdgeSource.fits_takeEvent (s : EdgeSource) (handle : H) :
    (s.takeEvent env handle).Fits (Answers fun event => event.time.Contemporary) := by
  refine fits_bind (henv.nextEvent handle) fun next hnext => ?_
  rcases next with e | _ | event
  · exact fits_pure answers_error
  · exact fits_pure answers_error
  · dsimp only
    split
    · exact fits_pure (answers_ok (hnext _ rfl event rfl))
    · exact fits_pure answers_error

omit henv in
theorem EdgeSource.fits_pair {s : EdgeSource} {event : EdgeEvent} {reference : Instant}
    (hs : s.correction.Moderate) (hevent : event.time.Contemporary)
    (hreference : reference.Near 0) :
    (s.pair event reference : Action W Pairing).Fits fun pairing =>
      ∀ offset localTime, pairing = .sample offset localTime → localTime.Near 0 := by
  refine fits_bind (fits_checked (fits_pairEvent hevent hs hreference)) fun pairing hpairing => ?_
  dsimp only
  split
  · exact fits_log_bind (fits_pure hpairing)
  · exact fits_pure hpairing

namespace Orchestrator

variable {wait : Waiter W ε} {o : Orchestrator H S} (ho : o.Moderate)

include ho

omit henv in
theorem fits_pairAndKeep {s : EdgeSource} {event : EdgeEvent} {reference : Instant}
    (hs : s.correction.Moderate) (hevent : event.time.Contemporary)
    (hreference : reference.Near 0) :
    (o.pairAndKeep s event reference : Action W (Pairing × Orchestrator H S)).Fits
      fun (_, o') => o'.Moderate := by
  refine fits_bind (EdgeSource.fits_pair hs hevent hreference) fun pairing hpairing => ?_
  split
  · next _ offset localTime _ _ =>
    refine fits_bind (fits_log_bind (fits_pure ?_)) fun c (hc : c.timestamp = some localTime) => ?_
    · rfl
    · refine fits_pure (ho.withClocks (ho.stamps.set fun t ht => ?_))
      cases hc.symm.trans ht
      exact (hpairing offset localTime rfl).wider
  · exact fits_pure ho

theorem fits_handleEvent {s : EdgeSource} (hs : s ∈ o.sources) :
    (o.handleEvent env s).Fits fun (_, o') => o'.Moderate := by
  unfold handleEvent
  split
  · exact fits_pure ho
  · refine fits_bind (s.fits_takeEvent henv _) fun taken htaken => ?_
    split
    · exact fits_pure ho
    · next event =>
      refine fits_bind (Reference.fits_now henv o.clocks ho.reference) fun reading hreading => ?_
      split
      · exact fits_log_bind (fits_pure ho)
      · next reference =>
        exact fits_bind (fits_pairAndKeep ho (ho.corrections s hs) (htaken event rfl)
          (hreading reference rfl)) fun _ ho' => fits_pure ho'

theorem fits_handleReady (p : Progress) (ready : List Nat) :
    (o.handleReady env p ready).Fits fun (_, o') => o'.Moderate := by
  induction ready generalizing o p with
  | nil => exact fits_pure ho
  | cons index ready ih =>
    unfold handleReady
    split
    · exact ih ho p
    · next source hsource =>
      have hmem : source ∈ o.sources := List.mem_of_getElem? hsource
      refine fits_bind (fits_handleEvent henv ho hmem) fun handled ho' => ?_
      dsimp only
      split
      · exact ih ho' _
      · exact ih ho' _
      · exact fits_log_bind (ih ho' _)

/-! ### Waiting -/

theorem fits_unlockClocks (ids : List ClockId) :
    (o.unlockClocks env ids).Fits Orchestrator.Moderate := by
  induction ids generalizing o with
  | nil => exact fits_pure ho
  | cons id ids ih =>
    unfold unlockClocks
    split
    · exact ih ho
    · next clock hclock =>
      split
      · refine fits_log_bind ?_
        have hreset : (clock.unlock env).Fits fun c => c.timestamp = clock.timestamp :=
          fits_bind (henv.reset _) fun _ _ => fits_pure rfl
        refine fits_bind hreset fun c hc => ih (ho.withClocks (ho.stamps.set fun t ht => ?_))
        exact ho.stamps id clock t hclock (hc.symm.trans ht)
      · exact ih ho

variable (hwait : ∀ timeoutMs, (wait timeoutMs).Fits fun _ => True)

include hwait

theorem fits_collect (patience : Nat) (p : Progress) :
    (collect env wait patience o p).Fits fun (_, o') => o'.Moderate := by
  induction patience generalizing o p with
  | zero =>
    by_cases hall : p.handled.all id = true
    · rw [collect_handled hall]
      exact fits_pure ho
    · rw [collect_impatient hall]
      exact fits_checked (by simp [Checked.Fits])
  | succ patience ih =>
    by_cases hall : p.handled.all id = true
    · rw [collect_handled hall]
      exact fits_pure ho
    · rw [collect_waits hall]
      refine fits_bind (hwait _) fun answer _ => ?_
      unfold afterAnswer
      split
      · exact fits_pure ho
      · refine fits_log_bind ?_
        split
        · exact fits_pure ho
        · exact fits_bind (fits_unlockClocks henv ho _) fun o' ho' => fits_pure ho'
      · exact fits_bind (fits_handleReady henv ho _ _) fun _ ho' => ih ho' _

theorem fits_poll : (o.poll env wait).Fits fun (_, o') => o'.Moderate := by
  unfold poll
  split
  · refine fits_bind (hwait _) fun answer _ => ?_
    split
    · exact fits_pure ho
    · exact fits_pure ho
  · exact fits_collect henv ho hwait _ _

omit hwait

/-! ### Correcting -/

theorem fits_collectReference : (o.collectReference env).Fits fun (_, o') => o'.Moderate := by
  unfold collectReference
  split
  · exact fits_pure ho
  · refine fits_bind (Reference.fits_edge henv o.clocks ho.reference ho.phase) fun edge hedge => ?_
    split
    · exact fits_pure ho
    · next t =>
      split
      · exact fits_pure ho
      · refine fits_bind (fits_log_bind (fits_pure ?_)) fun c (hc : c.timestamp = some t) => ?_
        · rfl
        · refine fits_pure (ho.withClocks (ho.stamps.set fun u hu => ?_))
          cases hc.symm.trans hu
          exact hedge t rfl

/-- The edge that is corrected against is near. -/
theorem fits_sourceTimestamp : (o.sourceTimestamp env).Fits fun (edge, o') =>
    (∀ t, edge = some t → t.Near nanosPerSecond) ∧ o'.Moderate := by
  unfold sourceTimestamp
  split
  · refine fits_bind (Reference.fits_edge henv o.clocks ho.reference ho.phase) fun edge hedge => ?_
    split
    · next t =>
      refine fits_pure ⟨?_, ho⟩
      rintro _ ⟨⟩
      exact hedge t rfl
    · exact fits_log_bind (fits_pure ⟨by simp, ho⟩)
  · split
    · exact fits_log_bind (fits_pure ⟨by simp, ho⟩)
    · next id _ =>
      split
      · exact fits_pure ⟨by simp, ho⟩
      · next clock hclock =>
        have hend : (∀ t, clock.timestamp = some t → t.Near nanosPerSecond) ∧
            (o.modifyClock id Clock.flushTimestamp).Moderate :=
          ⟨fun t ht => ho.stamps id clock t hclock ht,
            ho.withClocks (ho.stamps.modify fun _ => .inl rfl)⟩
        split
        · exact fits_log_bind (fits_pure hend)
        · exact fits_pure hend

omit ho in
theorem fits_adjust (handle : H) {offset : Duration} (frequency : Float) (state : ServoState)
    (hoffset : offset.neg.Fits fun _ => True) :
    (adjust env handle offset frequency state).Fits fun _ => True := by
  unfold adjust
  split
  · refine fits_bind (henv.setFrequency _ _) fun answer _ => ?_
    split
    · exact fits_pure trivial
    · exact fits_bind (fits_checked hoffset) fun _ _ => henv.step _ _
  · exact henv.setFrequency _ _

omit ho in
theorem fits_synchronizeClock (id : ClockId) (clock : Clock H S) {t sourceTime : Instant}
    (weight : Float) (ht : t.Near nanosPerSecond) (hsource : sourceTime.Near nanosPerSecond) :
    (synchronizeClock env id clock t sourceTime weight).Fits fun (_, c) =>
      c.timestamp = clock.timestamp := by
  refine fits_bind (fits_checked (ht.fits_since hsource)) fun offset hoffset => ?_
  dsimp only
  split
  · exact fits_log_bind (fits_pure rfl)
  · refine fits_bind (henv.sample _ _ _ _) fun _ _ => fits_log_bind ?_
    dsimp only
    split
    · exact fits_pure rfl
    · refine fits_bind (fits_adjust henv _ _ _ hoffset) fun adjusted _ => ?_
      split
      · exact fits_pure rfl
      · exact fits_log_bind (fits_pure rfl)

theorem fits_synchronizeClocks {sourceTime : Instant}
    (hsource : sourceTime.Near nanosPerSecond) (ids : List ClockId) :
    (o.synchronizeClocks env sourceTime ids).Fits fun (_, o') => o'.Moderate := by
  induction ids generalizing o with
  | nil => exact fits_pure ho
  | cons id ids ih =>
    unfold synchronizeClocks
    split
    · exact ih ho
    · next clock hclock =>
      split
      · exact ih ho
      · split
        · exact fits_log_bind (ih ho)
        · next t ht =>
          have hnear := ho.stamps id clock t hclock ht
          refine fits_bind (fits_synchronizeClock henv id _ _ hnear hsource) ?_
          rintro ⟨report, c⟩ hc
          have ho' : ({ o with clocks := o.clocks.set id c } : Orchestrator H S).Moderate :=
            ho.withClocks (ho.stamps.set fun u hu => by cases hc.symm.trans hu)
          exact fits_bind (ih ho') fun _ hrest => fits_pure hrest

theorem fits_synchronize : (o.synchronize env).Fits fun (_, o') => o'.Moderate := by
  refine fits_bind (fits_sourceTimestamp henv ho) ?_
  rintro ⟨edge, o'⟩ ⟨hedge, ho'⟩
  cases edge with
  | none => exact fits_pure ho'
  | some t => exact fits_synchronizeClocks henv ho' (hedge t rfl) _

/-! ### Selecting the source -/

omit henv in
theorem fits_selectDestinations (ids : List ClockId) :
    (o.selectDestinations ids : Action W (Orchestrator H S)).Fits Orchestrator.Moderate := by
  induction ids generalizing o with
  | nil => exact fits_pure ho
  | cons id ids ih =>
    unfold selectDestinations
    split
    · exact ih ho
    · split
      · exact ih ho
      · exact fits_log_bind (ih (ho.withClocks (ho.stamps.modify fun _ => .inr rfl)))

omit henv in
theorem Moderate.selectSource (source : Option ClockId) : (o.selectSource source).Moderate := by
  cases source with
  | none => exact ⟨ho.phase, ho.reference, ho.corrections, ho.stamps⟩
  | some id =>
    exact ⟨ho.phase, ho.reference, ho.corrections, ho.stamps.modify fun _ => .inr rfl⟩

omit henv in
theorem Moderate.notePortStates (t : Topology) : (o.notePortStates t).Moderate := by
  have hstamps : (o.notePortStates t).clocks.Stamped := by
    refine ho.stamps.kept fun id c' hc' => ?_
    rw [o.notePortStates_get? t id] at hc'
    obtain ⟨c, hc, rfl⟩ := Option.map_eq_some_iff.mp hc'
    exact .inr ⟨c, hc, rfl⟩
  exact ⟨ho.phase, ho.reference, ho.corrections, hstamps⟩

omit henv in
theorem fits_reconfigure :
    (o.reconfigure : Action W (Option Selection × Orchestrator H S)).Fits
      fun (_, o') => o'.Moderate := by
  unfold reconfigure
  split
  · exact fits_pure ho
  · next t _ =>
    split
    · have hfrom (t : Topology) (clocks : List (ClockId × PortState)) :
          (t.selectFrom clocks : Action W Selection).Fits fun _ => True :=
        fits_log_bind (fits_pure trivial)
      have hselect : (t.reconfigure : Action W (Selection × Topology)).Fits fun _ => True :=
        fits_log_bind (fits_bind (hfrom _ _) fun _ _ => fits_pure trivial)
      refine fits_bind hselect ?_
      rintro ⟨selection, t'⟩ -
      have hnoted := Moderate.notePortStates
        (o := ({ o with topology := some t' } : Orchestrator H S))
        ⟨ho.phase, ho.reference, ho.corrections, ho.stamps⟩ t'
      exact fits_bind (fits_selectDestinations hnoted _) fun o' ho' =>
        fits_pure (Moderate.selectSource ho' _)
    · exact fits_pure ho

/-! ### The whole cycle -/

include hwait in
theorem fits_runCycle : (o.runCycle env wait).Fits fun (_, o') => o'.Moderate := by
  refine fits_bind (fits_reconfigure ho) ?_
  rintro ⟨selection, o₁⟩ ho₁
  refine fits_bind (fits_poll henv ho₁.flushTimestamps hwait) ?_
  rintro ⟨outcome, o₂⟩ ho₂
  rcases outcome with e | (_ | _ | _)
  · exact fits_pure ho₂
  · refine fits_bind (fits_collectReference henv ho₂) ?_
    rintro ⟨result, o₃⟩ ho₃
    cases result with
    | error e => exact fits_pure ho₃
    | ok => exact fits_bind (fits_synchronize henv ho₃) fun _ ho₄ => fits_pure ho₄
  · exact fits_pure ho₂
  · exact fits_pure ho₂

end Orchestrator

/-! ### Clocks -/

theorem Registry.fits_getOrCreate {r : Registry H S} (hr : r.Stamped) (name : String) :
    (r.getOrCreate env name).Fits fun (_, r') => r'.Stamped := by
  unfold getOrCreate
  split
  · exact fits_pure hr
  · refine fits_bind (henv.openClock name) fun opened _ => ?_
    rcases opened with e | ⟨handle, index⟩
    · exact fits_pure hr
    · dsimp only
      split
      · exact fits_log_bind (fits_pure hr)
      · refine fits_bind (henv.makeServo handle) fun made _ => ?_
        cases made with
        | error e => exact fits_pure hr
        | ok servo => exact fits_log_bind (fits_pure (hr.push name index handle servo))

/-! ### Inputs -/

theorem fits_drainFrom (handle : H) (name : String) (patience count : Nat) :
    (drainFrom env handle name patience count).Fits fun _ => True := by
  induction patience generalizing count with
  | zero => exact fits_checked (by simp [Checked.Fits])
  | succ patience ih =>
    refine fits_bind (henv.nextEvent handle) fun next _ => ?_
    rcases next with e | _ | event
    · exact fits_pure trivial
    · exact fits_pure trivial
    · exact fits_log_bind (ih _)

namespace EdgeSource

omit henv in
/-- Half a width is never too much, not even for the longest one. -/
theorem fits_ofConfig (config : SourceConfig) (clock : ClockId) :
    (ofConfig config clock).Fits fun s => s.correction = ⟨config.correction⟩ := by
  have hwindow : (IgnoreWindow.ofPulseWidth ⟨config.pulseWidth⟩).Fits fun _ => True := by
    have hlow := Int64.le_toInt config.pulseWidth
    have hhigh := Int64.toInt_lt config.pulseWidth
    have htwo : (2 : Int64).toInt = 2 := rfl
    have hsecond : (1000000000 : Int64).toInt = 1000000000 := rfl
    have hhalf : config.pulseWidth.toInt / 2 ≤ config.pulseWidth.toInt.tdiv 2 ∧
        config.pulseWidth.toInt.tdiv 2 ≤ config.pulseWidth.toInt / 2 + 1 := by
      have hsign : Int.sign 2 = 1 := rfl
      rw [Int.tdiv_eq_ediv]
      split <;> omega
    refine Checked.fits_bind (Checked.fits_word ?_ ?_ fun half hword => hword) ?_
    · rw [htwo]
      dsimp only
      omega
    · rw [htwo]
      dsimp only
      omega
    · intro half (hword : half.toInt = config.pulseWidth.toInt.tdiv 2)
      refine Checked.fits_bind (Checked.fits_word ?_ ?_ fun _ hupper => hupper) fun _ _ => trivial
      · omega
      · omega
  exact Checked.fits_bind hwindow fun _ _ => rfl

theorem fits_setup (s : EdgeSource) (handle : H) : (s.setup env handle).Fits fun _ => True := by
  have hroute : (s.routePin env handle).Fits fun _ => True := by
    refine fits_bind (henv.pinCount handle) fun pins _ => ?_
    split
    · exact fits_pure trivial
    · split
      · exact henv.setPinFunction _ _ _
      · exact fits_pure trivial
  have hdrain : Fits (fun _ => True) (drain env handle s.name) := fits_drainFrom henv _ _ _ _
  refine fits_bind hroute fun routed _ => ?_
  split
  · exact fits_pure trivial
  · refine fits_bind (henv.disableEdges _ _) fun disabled _ => ?_
    split
    · exact fits_log_bind (fits_bind hdrain fun _ _ => fits_pure trivial)
    · exact fits_bind hdrain fun _ _ => fits_pure trivial

theorem fits_arm (s : EdgeSource) (handle : H) : (s.arm env handle).Fits fun _ => True := by
  refine fits_bind (fits_drainFrom henv handle s.name _ _) fun drained _ => ?_
  split
  · exact fits_pure trivial
  · exact henv.enableEdges _ _ _

end EdgeSource

/-! ### Putting an orchestrator together -/

omit henv in
theorem Topology.fits_portStateChanged (t : Topology) (number : UInt16) (state : PortState) :
    (t.portStateChanged number state : Action W (Bool × Topology)).Fits fun _ => True := by
  unfold portStateChanged
  split
  · exact fits_pure trivial
  · dsimp only
    split
    · exact fits_pure trivial
    · exact fits_log_bind (fits_pure trivial)

namespace Orchestrator

variable {o : Orchestrator H S} (ho : o.Moderate)

include ho

theorem fits_openClock (name : String) :
    (o.openClock env name).Fits fun (_, o') => o'.Moderate := by
  refine fits_bind (Registry.fits_getOrCreate henv ho.stamps name) ?_
  rintro ⟨result, clocks⟩ hclocks
  have ho' := ho.withClocks hclocks
  cases result with
  | error e => exact fits_pure ho'
  | ok id => exact fits_pure (ho'.withClocks (hclocks.modify fun _ => .inr rfl))

omit henv in
theorem fits_abandonSource (device : String) (id : ClockId) (clocksBefore : Nat) (error : ε) :
    (o.abandonSource env device id clocksBefore error).Fits Orchestrator.Moderate := by
  refine fits_log_bind ?_
  split
  · split
    · exact fits_log_bind (fits_pure ho)
    · next hdestroy => exact fits_pure (ho.withClocks (ho.stamps.destroy hdestroy))
  · exact fits_pure ho

theorem fits_addSource {config : SourceConfig}
    (hconfig : (⟨config.correction⟩ : Duration).Moderate) :
    (o.addSource env config).Fits fun (_, o') => o'.Moderate := by
  unfold addSource
  split
  · exact fits_log_bind (fits_pure ho)
  · refine fits_bind (fits_openClock henv ho _) ?_
    rintro ⟨opened, o₁⟩ ho₁
    cases opened with
    | error e => exact fits_pure ho₁
    | ok id =>
      refine fits_bind (fits_checked (EdgeSource.fits_ofConfig config id)) fun source hsource => ?_
      dsimp only
      split
      · exact fits_pure ho₁
      · next clock _ =>
        refine fits_bind (source.fits_setup henv clock.handle) fun ready _ => ?_
        cases ready with
        | error e =>
          exact fits_bind (fits_abandonSource ho₁ _ _ _ _) fun o' ho' => fits_pure ho'
        | ok =>
          refine fits_log_bind (fits_pure ?_)
          refine ⟨ho₁.phase, ho₁.reference, fun s hs => ?_, ho₁.stamps.modify fun _ => .inr rfl⟩
          rcases List.mem_append.mp hs with hs | hs
          · exact ho₁.corrections s hs
          · rw [List.mem_singleton.mp hs, hsource]
            exact hconfig

omit henv in
theorem fits_portStateChanged (number : UInt16) (state : PortState) :
    (o.portStateChanged number state : Action W (Bool × Orchestrator H S)).Fits
      fun (_, o') => o'.Moderate := by
  unfold portStateChanged
  split
  · exact fits_pure ho
  · exact fits_bind (Topology.fits_portStateChanged _ number state) fun _ _ =>
      fits_pure ⟨ho.phase, ho.reference, ho.corrections, ho.stamps⟩

theorem fits_addPort (number : UInt16) (device : String) (state : PortState) :
    (o.addPort env number device state).Fits fun (_, o') => o'.Moderate := by
  refine fits_bind (fits_openClock henv ho device) ?_
  rintro ⟨opened, o₁⟩ ho₁
  cases opened with
  | error e => exact fits_pure ho₁
  | ok id =>
    have hports (t : Topology) :
        (t.addPort number id state : Action W Topology).Fits fun _ => True := by
      refine fits_bind (t.fits_portStateChanged number state) fun changed _ => ?_
      dsimp only
      split
      · exact fits_pure trivial
      · exact fits_pure trivial
    exact fits_bind (hports _) fun _ _ =>
      fits_pure ⟨ho₁.phase, ho₁.reference, ho₁.corrections, ho₁.stamps⟩

omit ho in
theorem fits_arm (o : Orchestrator H S) : (o.arm env).Fits fun _ => True := by
  have hsources (sources : List EdgeSource) : (o.armSources env sources).Fits fun _ => True := by
    induction sources with
    | nil => exact fits_pure trivial
    | cons source sources ih =>
      unfold armSources
      split
      · exact fits_pure trivial
      · refine fits_bind (source.fits_arm henv _) fun armed _ => ?_
        cases armed with
        | error e => exact fits_pure trivial
        | ok => exact ih
  exact hsources o.sources

end Orchestrator

end Requests

end ClockDiscipline
