/-
  ClockDiscipline/Proofs/DaemonInRange.lean
  =========================================
  **The daemon does not overflow if the offsets of its settings are moderate.**

  A host is contemporary if its clocks, its events and its system show times
  between the years 1970 and 2100.  On such a host the reference, the sources and
  the ports are put together without an overflow, and so is every cycle after
  that, if the offset from UTC, the corrections and the phase are moderate.  The
  check of the settings does not ask for that: with a phase of 285 years it
  passes them, and the first cycle overflows.
-/
import ClockDiscipline.Daemon.Run
import ClockDiscipline.Daemon.Still
import ClockDiscipline.Proofs.CyclesInRange

namespace ClockDiscipline

open ClockDiscipline.Action Kernel Phc

variable {W F α : Type}

/-! ### Clock devices -/

namespace Phc

/-- Seconds and nanoseconds that together are a time in these years. -/
def ContemporaryParts (secs : Int64) (nanos : UInt32) : Prop :=
  0 ≤ secs.toInt * nanosPerSecond + nanos.toNat ∧
    secs.toInt * nanosPerSecond + nanos.toNat < endOf2100

/-- The kernel shows and hands out times in these years, and no request to it
    overflows. -/
structure Interface.Contemporary (kernel : Interface W F) : Prop where
  readTime : ∀ f, (kernel.readTime f).Fits (Answers fun (secs, nanos) =>
    ContemporaryParts secs nanos)
  readBytes : ∀ f, (kernel.readBytes f EventRecord.size).Fits (Answers fun bytes =>
    EventRecord.size ≤ bytes.length →
      ContemporaryParts (EventRecord.ofBytes bytes).secs (EventRecord.ofBytes bytes).nanos)
  openFile : ∀ path, (kernel.openFile path).Fits fun _ => True
  realPath : ∀ path, (kernel.realPath path).Fits fun _ => True
  clocksOfInterface : ∀ name, (kernel.clocksOfInterface name).Fits fun _ => True
  readFrequency : ∀ f, (kernel.readFrequency f).Fits fun _ => True
  adjust : ∀ f adjustment, (kernel.adjust f adjustment).Fits fun _ => True
  capabilities : ∀ f, (kernel.capabilities f).Fits fun _ => True
  setInput : ∀ f request, (kernel.setInput f request).Fits fun _ => True
  poll : ∀ files timeoutMs, (kernel.poll files timeoutMs).Fits fun _ => True

theorem fits_ofSecsNanos {secs : Int64} {nanos : UInt32} (h : ContemporaryParts secs nanos) :
    (Instant.ofSecsNanos secs nanos).Fits Instant.Contemporary := by
  have hnanos := nanos.toNat_lt
  unfold ContemporaryParts nanosPerSecond endOf2100 at h
  have hscaled : Checked.Fits (fun whole => whole.toInt = secs.toInt * nanosPerSecond)
      (Checked.word (secs.toInt * nanosPerSecond)) := by
    apply Checked.fits_word
    · unfold nanosPerSecond
      omega
    · unfold nanosPerSecond
      omega
    · intro whole hwhole
      exact hwhole
  refine Checked.fits_bind hscaled fun whole hwhole => ?_
  unfold nanosPerSecond at hwhole
  refine Checked.fits_map (Checked.fits_word (by omega) (by omega) fun w hw => ?_)
  unfold Instant.Contemporary endOf2100
  dsimp only [Instant.ofNanos]
  omega

/-- An error that no clock gives ends the run, but that is no overflow. -/
theorem fits_steered {P : α → Prop} {answer : Except Errno α} (h : Answers P answer) :
    (steered answer : Action W (Except PhcError α)).Fits (Answers P) := by
  cases answer with
  | ok a => exact fits_pure (answers_ok (h a rfl))
  | error e =>
    have hknown : (SteeringError.ofErrno e).Fits fun _ => True := by
      unfold SteeringError.ofErrno
      split
      · exact trivial
      · intro hover
        cases hover
    exact fits_bind (fits_checked hknown) fun _ _ => fits_pure answers_error

variable {kernel : Interface W F} (hkernel : kernel.Contemporary)

include hkernel

theorem fits_now (file : F) : (now kernel file).Fits (Answers Instant.Contemporary) := by
  refine fits_bind (hkernel.readTime file) fun answer hanswer => ?_
  refine fits_bind (fits_steered hanswer) fun reading hreading => ?_
  rcases reading with e | ⟨secs, nanos⟩
  · exact fits_pure answers_error
  · have hparts := hreading (secs, nanos) rfl
    refine fits_bind (fits_checked (fits_ofSecsNanos hparts)) fun t ht => ?_
    exact fits_pure (answers_ok ht)

/-- What is read after an adjustment is thrown away. -/
theorem fits_adjust (file : F) (adjustment : Adjustment) :
    (adjust kernel file adjustment).Fits fun _ => True := by
  refine fits_bind (hkernel.adjust file adjustment) fun answer _ => ?_
  cases answer with
  | error e => exact (fits_steered (P := fun _ => True) answers_error).mono fun _ _ => trivial
  | ok =>
    dsimp only
    split
    · refine fits_bind (hkernel.readTime file) fun reading hreading => ?_
      exact fits_bind (fits_steered hreading) fun _ _ => fits_pure trivial
    · exact fits_pure trivial

theorem fits_readEvent (file : F) :
    (readEvent kernel file).Fits (Answers fun event => event.time.Contemporary) := by
  refine fits_bind (hkernel.readBytes file) fun answer hanswer => ?_
  cases answer with
  | error e => exact fits_pure answers_error
  | ok bytes =>
    dsimp only
    split
    · exact fits_pure answers_error
    · next hlength =>
      have hparts := hanswer bytes rfl (Nat.not_lt.mp hlength)
      have hevent : (EventRecord.ofBytes bytes).event.Fits fun event =>
          event.time.Contemporary :=
        Checked.fits_bind (fits_ofSecsNanos hparts) fun _ ht => ht
      exact fits_bind (fits_checked hevent) fun event ht => fits_pure (answers_ok ht)

theorem fits_nextEvent (file : F) : (nextEvent kernel file).Fits
    (Answers fun next => ∀ event, next = some event → event.time.Contemporary) := by
  refine fits_bind (hkernel.poll [file] 0) fun polled _ => ?_
  split
  · exact fits_pure answers_error
  · refine fits_pure (answers_ok ?_)
    intro event hevent
    cases hevent
  · refine fits_bind (fits_readEvent hkernel file) fun answer hanswer => fits_pure ?_
    cases answer with
    | error e => exact answers_error
    | ok event =>
      apply answers_ok
      rintro _ ⟨⟩
      exact hanswer event rfl

omit hkernel in
theorem fits_withPath {request : String → Action W (Except Errno α)}
    (hrequest : ∀ path, (request path).Fits fun _ => True) (path : String) :
    (withPath request path).Fits fun _ => True := by
  unfold withPath
  split
  · exact fits_pure trivial
  · exact fits_bind (hrequest path) fun _ _ => fits_pure trivial

theorem fits_locate (name : String) : (locate kernel name).Fits fun _ => True := by
  unfold locate
  split
  · refine fits_bind (fits_withPath hkernel.realPath name) fun answer _ => ?_
    cases answer with
    | error e => exact fits_pure trivial
    | ok path =>
      dsimp only
      split
      · exact fits_pure trivial
      · exact fits_pure trivial
  · refine fits_bind (hkernel.clocksOfInterface name) fun entries _ => ?_
    split
    · exact fits_pure trivial
    · exact fits_log_bind (fits_pure trivial)

theorem fits_openClock (name : String) : (openClock kernel name).Fits fun _ => True := by
  refine fits_bind (fits_locate hkernel name) fun located _ => ?_
  cases located with
  | error e => exact fits_pure trivial
  | ok located =>
    have hopen : (openPath kernel located.path).Fits fun _ => True :=
      fits_bind (fits_withPath hkernel.openFile _) fun _ _ => fits_pure trivial
    exact fits_bind hopen fun _ _ => fits_pure trivial

theorem fits_forDevice (gains : PiGains) (thresholds : LockThresholds) (file : F) :
    (PiServo.forDevice (device kernel) gains thresholds file).Fits fun _ => True := by
  have hfrequency : ((device kernel).frequency file).Fits fun _ => True :=
    fits_bind (hkernel.readFrequency file) fun _ _ => fits_pure trivial
  have hmax : ((device kernel).maxFrequency file).Fits fun _ => True :=
    fits_bind (hkernel.capabilities file) fun _ _ => fits_pure trivial
  refine fits_bind hfrequency fun read _ => ?_
  cases read with
  | error e => exact fits_pure trivial
  | ok frequency =>
    refine fits_bind (fits_adjust hkernel file _) fun written _ => ?_
    cases written with
    | error e => exact fits_pure trivial
    | ok =>
      refine fits_bind hmax fun largest _ => ?_
      cases largest with
      | error e => exact fits_pure trivial
      | ok _ => exact fits_pure trivial

end Phc

/-- The offset from UTC, the corrections and the phase are moderate. -/
structure Config.Moderate (config : Config) : Prop where
  reference : ∀ utcOffset, config.reference = .generic utcOffset →
    -Duration.farthest ≤ utcOffset.toInt * nanosPerSecond ∧
      utcOffset.toInt * nanosPerSecond ≤ Duration.farthest
  phase : config.sync.phase.Moderate
  corrections : ∀ source ∈ config.sources, (⟨source.correction⟩ : Duration).Moderate

namespace Daemon

/-! ### The host -/

/-- Clocks, events and the system show times in these years, and no request
    overflows. -/
structure Host.Contemporary (host : Host W F) : Prop where
  clocks : host.clocks.Contemporary
  systemTime : host.systemTime.Fits fun t => ContemporaryParts t.secs t.nanos
  takeUpdates : host.takeUpdates.Fits fun _ => True
  isStopping : host.isStopping.Fits fun _ => True
  publish : ∀ clocks, (host.publish clocks).Fits fun _ => True

/-- Seconds before the epoch are taken off it together with the nanoseconds. -/
theorem fits_instant {t : SystemTime} (h : ContemporaryParts t.secs t.nanos) :
    t.instant.Fits Instant.Contemporary := by
  unfold SystemTime.instant
  split
  · exact fits_ofSecsNanos h
  · unfold ContemporaryParts endOf2100 at h
    have hspan : (Int64.ofInt (-(t.secs.toInt * nanosPerSecond + t.nanos.toNat))).toInt =
        -(t.secs.toInt * nanosPerSecond + t.nanos.toNat) :=
      Int64.toInt_ofInt_of_le (by omega) (by omega)
    have hepoch : Instant.epoch.nanos.toInt = 0 := rfl
    refine Instant.fits_sub ?_ ?_ fun u hu => ?_
    all_goals rw [hepoch, hspan] at *
    · omega
    · omega
    · unfold Instant.Contemporary endOf2100
      omega

theorem fits_sampleNoted (s : PiServo) (offset localNanos : Int64) (weight : Float) :
    (s.sampleNoted offset localNanos weight : Action W _).Fits fun _ => True := by
  unfold PiServo.sampleNoted
  dsimp only
  split
  · exact fits_log_bind (fits_pure trivial)
  · exact fits_pure trivial

theorem Host.Contemporary.environment {host : Host W F} (h : host.Contemporary)
    (servo : ServoConfig) : (host.environment servo).Contemporary where
  now file := fits_now h.clocks file
  nextEvent file := fits_nextEvent h.clocks file
  systemTime := fits_bind h.systemTime fun _ ht => fits_checked (fits_instant ht)
  setFrequency file _ := fits_adjust h.clocks file _
  step file _ := fits_adjust h.clocks file _
  pinCount file := fits_bind (h.clocks.capabilities file) fun _ _ => fits_pure trivial
  setPinFunction file _ _ := fits_bind (h.clocks.setInput file _) fun _ _ => fits_pure trivial
  enableEdges file _ _ := fits_bind (h.clocks.setInput file _) fun _ _ => fits_pure trivial
  disableEdges file _ := fits_bind (h.clocks.setInput file _) fun _ _ => fits_pure trivial
  sample s offset localNanos weight := fits_sampleNoted s offset localNanos weight
  reset _ := fits_pure trivial
  openClock name := fits_openClock h.clocks name
  makeServo file := fits_forDevice h.clocks _ _ file

/-! ### Starting -/

section Requests

variable {env : Environment W F PiServo PhcError} (henv : env.Contemporary)
  {config : Config} (hconfig : config.Moderate)

include henv

include hconfig in
theorem fits_openReference : (openReference env config.reference).Fits
    (Answers fun (clocks, reference) =>
      clocks.Stamped ∧ ∀ utcOffset, reference = .generic utcOffset → utcOffset.Moderate) := by
  cases hreference : config.reference with
  | generic utcOffset =>
    obtain ⟨hlow, hhigh⟩ := hconfig.reference utcOffset hreference
    unfold Duration.farthest at hlow hhigh
    have hoffset : (Duration.ofSecs utcOffset).Fits Duration.Moderate := by
      refine Checked.fits_map (Checked.fits_word (by omega) (by omega) fun w hw => ?_)
      unfold Duration.Moderate Duration.farthest
      dsimp only [Duration.ofNanos]
      omega
    refine fits_bind (fits_checked hoffset) fun d hd => fits_pure (answers_ok ?_)
    refine ⟨Registry.stamped_empty, ?_⟩
    rintro _ ⟨⟩
    exact hd
  | phc name =>
    refine fits_bind (Registry.fits_getOrCreate henv Registry.stamped_empty name) ?_
    rintro ⟨result, clocks⟩ hclocks
    cases result with
    | error e => exact fits_pure answers_error
    | ok id =>
      refine fits_log_bind (fits_pure (answers_ok ⟨hclocks, ?_⟩))
      intro utcOffset hgeneric
      cases hgeneric

variable {o : Orchestrator F PiServo} (ho : o.Moderate)

include ho

theorem fits_addSources {sources : List SourceConfig}
    (hsources : ∀ source ∈ sources, (⟨source.correction⟩ : Duration).Moderate) :
    (addSources env o sources).Fits (Answers Orchestrator.Moderate) := by
  induction sources generalizing o with
  | nil => exact fits_pure (answers_ok ho)
  | cons source sources ih =>
    refine fits_bind (Orchestrator.fits_addSource henv ho (hsources source (by simp))) ?_
    rintro ⟨result, o'⟩ ho'
    cases result with
    | error e => exact fits_pure answers_error
    | ok id => exact ih ho' fun other hother => hsources other (by simp [hother])

theorem fits_addPorts (ports : List PortConfig) :
    (addPorts env o ports).Fits (Answers Orchestrator.Moderate) := by
  induction ports generalizing o with
  | nil => exact fits_pure (answers_ok ho)
  | cons port ports ih =>
    refine fits_bind (Orchestrator.fits_addPort henv ho port.number port.device port.state) ?_
    rintro ⟨result, o'⟩ ho'
    cases result with
    | error e => exact fits_pure answers_error
    | ok id => exact ih ho'

omit ho

include hconfig in
theorem fits_assemble : (assemble env config).Fits (Answers Orchestrator.Moderate) := by
  refine fits_bind (fits_openReference henv hconfig) fun opened hopened => ?_
  rcases opened with e | ⟨clocks, reference⟩
  · exact fits_pure answers_error
  · obtain ⟨hclocks, hreference⟩ := hopened _ rfl
    have hstart : (Orchestrator.start config.sync clocks reference).Moderate := by
      refine ⟨hconfig.phase, hreference, ?_, hclocks⟩
      intro source hsource
      cases hsource
    refine fits_bind (fits_addSources henv hstart hconfig.corrections) fun added hadded => ?_
    cases added with
    | error e => exact fits_pure answers_error
    | ok o =>
      refine fits_bind (fits_addPorts henv (hadded o rfl) config.ports) fun ported hported => ?_
      cases ported with
      | error e => exact fits_pure answers_error
      | ok o =>
        refine fits_bind (o.fits_arm henv) fun armed _ => fits_pure ?_
        cases armed with
        | error e => exact answers_error
        | ok => exact answers_ok (hported o rfl)

/-! ### Cycles -/

omit henv in
theorem fits_applyUpdates (ho : o.Moderate) (updates : List PortUpdate) :
    (applyUpdates o updates : Action W _).Fits Orchestrator.Moderate := by
  induction updates generalizing o with
  | nil => exact fits_pure ho
  | cons update updates ih =>
    refine fits_bind (Orchestrator.fits_portStateChanged ho update.port update.state) ?_
    rintro ⟨known, o'⟩ ho'
    dsimp only
    split
    · exact fits_log_bind (ih ho')
    · exact ih ho'

variable {host : Host W F} (hhost : host.Contemporary) {wait : Waiter W PhcError}
  (hwait : ∀ timeoutMs, (wait timeoutMs).Fits fun _ => True)

include hhost hwait

theorem fits_cycle (ho : o.Moderate) :
    (cycle host env wait o).Fits Orchestrator.Moderate := by
  refine fits_bind hhost.takeUpdates fun updates _ => ?_
  refine fits_bind (fits_applyUpdates ho updates) fun o₁ ho₁ => ?_
  refine fits_bind (Orchestrator.fits_runCycle henv ho₁ hwait) ?_
  rintro ⟨result, o₂⟩ ho₂
  have hpublish : (do host.publish o₂.observe; return o₂ : Action W _).Fits
      Orchestrator.Moderate :=
    fits_bind (hhost.publish _) fun _ _ => fits_pure ho₂
  cases result with
  | ok _ => exact hpublish
  | error e => exact fits_log_bind hpublish

theorem fits_cycles (patience : Nat) (ho : o.Moderate) :
    (cycles host env wait patience o).Fits Orchestrator.Moderate := by
  induction patience generalizing o with
  | zero => exact fits_checked (by simp [Checked.Fits])
  | succ patience ih =>
    refine fits_bind hhost.isStopping fun stops _ => ?_
    split
    · exact fits_pure ho
    · exact fits_bind (fits_cycle henv hhost hwait ho) fun o' ho' => ih ho'

end Requests

/-- With moderate offsets the daemon does not overflow, neither when it puts the
    orchestrator together nor in any cycle after that, on a host whose times are
    in these years. -/
theorem cycles_in_range {host : Host W F} {config : Config} {wait : Waiter W PhcError}
    (hhost : host.Contemporary) (hconfig : config.Moderate)
    (hwait : ∀ timeoutMs, (wait timeoutMs).Fits fun _ => True) (m : Machine W) :
    ((assemble (host.environment config.servo) config).outcome m).1 ≠ .error .overflow ∧
    ∀ o m', Returns (assemble (host.environment config.servo) config) m (.ok o) m' →
      ∀ patience m'', ((cycles host (host.environment config.servo) wait patience o).outcome
        m'').1 ≠ .error .overflow := by
  have henv := hhost.environment config.servo
  constructor
  · exact (fits_assemble henv hconfig).never_overflows m
  · intro o m' hassembled patience m''
    have ho := (fits_assemble henv hconfig).of_returns hassembled o rfl
    exact (fits_cycles henv hhost hwait patience ho).never_overflows m''

/-! ### A phase that no sum can hold -/

/-- One source, and pulses at this phase. -/
def pulses (phase : Int64) : Config where
  sync := { peroutPhase := phase }
  sources := [{ device := "/dev/ptp0" }]

/-- The host on which time stands still and the source is always ready. -/
def readable : Host Unit Unit := Still.host (.returned [1])

def wakes : Waiter Unit PhcError := Phc.wait (readable.waitWith (pure ())) [()]

theorem readable_contemporary : readable.Contemporary where
  clocks :=
    { readTime := fun _ => fits_pure (answers_ok ⟨by decide, by decide⟩)
      readBytes := fun _ => fits_pure (answers_ok (absurd · (by decide)))
      openFile := fun _ => fits_pure trivial
      realPath := fun _ => fits_pure trivial
      clocksOfInterface := fun _ => fits_pure trivial
      readFrequency := fun _ => fits_pure trivial
      adjust := fun _ _ => fits_pure trivial
      capabilities := fun _ => fits_pure trivial
      setInput := fun _ _ => fits_pure trivial
      poll := fun _ _ => fits_pure trivial }
  systemTime := fits_pure ⟨by decide, by decide⟩
  takeUpdates := fits_pure trivial
  isStopping := fits_pure trivial
  publish := fun _ => fits_pure trivial

theorem fits_wakes (timeoutMs : UInt64) : (wakes timeoutMs).Fits fun _ => True :=
  fits_bind (fits_pure (P := fun _ => True) trivial) fun _ _ => fits_pure trivial

/-- The orchestrator that is put together on this host, and the machine after that. -/
def assembled (config : Config) : Option (Orchestrator Unit PiServo × Machine Unit) :=
  match (assemble (readable.environment config.servo) config).outcome ⟨(), #[]⟩ with
  | (.ok (.ok o), m) => some (o, m)
  | _ => none

theorem returns_of_assembled {config : Config} {o : Orchestrator Unit PiServo}
    {m : Machine Unit} (h : assembled config = some (o, m)) :
    Returns (assemble (readable.environment config.servo) config) ⟨(), #[]⟩ (.ok o) m := by
  unfold assembled at h
  split at h
  · next hrun =>
    cases h
    exact hrun
  · cases h

theorem cycles_in_range_readable : ∃ o m',
    Returns (assemble (readable.environment (pulses 500000000).servo) (pulses 500000000))
      ⟨(), #[]⟩ (.ok o) m' ∧
    ∀ patience m'', ((cycles readable (readable.environment (pulses 500000000).servo) wakes
      patience o).outcome m'').1 ≠ .error .overflow := by
  have hmoderate : (pulses 500000000).Moderate := by
    refine ⟨?_, ⟨by decide, by decide⟩, ?_⟩
    · rintro _ ⟨⟩
      decide
    · intro source hsource
      rw [List.mem_singleton.mp hsource]
      exact ⟨by decide, by decide⟩
  obtain ⟨-, hcycles⟩ :=
    cycles_in_range readable_contemporary hmoderate fits_wakes ⟨(), #[]⟩
  have hstarts : (assembled (pulses 500000000)).isSome = true := by decide +kernel
  obtain ⟨⟨o, m'⟩, hassembled⟩ := Option.isSome_iff_exists.mp hstarts
  have hreturns := returns_of_assembled hassembled
  exact ⟨o, m', hreturns, hcycles o m' hreturns⟩

/-- Whether the first cycle overflows. -/
def overflowsAtOnce (config : Config) : Bool :=
  match assembled config with
  | none => false
  | some (o, m) =>
    match ((cycles readable (readable.environment config.servo) wakes 1 o).outcome m).1 with
    | .error .overflow => true
    | _ => false

/-- Settings that pass the check can overflow. -/
theorem not_forall_sound_in_range : ¬∀ (host : Host Unit Unit) (config : Config)
    (wait : Waiter Unit PhcError), host.Contemporary →
    (∀ timeoutMs, (wait timeoutMs).Fits fun _ => True) → config.isSound = true →
    ∀ o m m', Returns (assemble (host.environment config.servo) config) m (.ok o) m' →
      ∀ patience, ((cycles host (host.environment config.servo) wait patience o).outcome m').1 ≠
        .error .overflow := by
  intro h
  have hsound : (pulses (-9000000000000000000)).isSound = true := by decide +kernel
  have hover : overflowsAtOnce (pulses (-9000000000000000000)) = true := by decide +kernel
  unfold overflowsAtOnce at hover
  split at hover
  · cases hover
  · next o m' hassembled =>
    refine h readable _ wakes readable_contemporary fits_wakes hsound o _ m'
      (returns_of_assembled hassembled) 1 ?_
    split at hover
    · assumption
    · cases hover

end Daemon

end ClockDiscipline
